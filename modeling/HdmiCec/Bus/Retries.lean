import HdmiCec.Bus.Connection
import Mathlib.Algebra.GroupWithZero.Nat

/-!
# The retries of `Bus::send`

`Bus::send` with a timeout tries again every 250 ms.  Its model in `HdmiCec.Bus.Connection`
returns the number of writes and the outcome; here the calls of `Driver::write` and of
`usleep` are recorded in their order, so that the time spent between them can be counted.

Everything follows from one fact about the loop (`sendLoopTrace_started`): some number of
attempts fail, each followed by a sleep, and one more attempt ends the loop.
-/

namespace HdmiCec

namespace Bus

/-! ## The calls that `Bus::send` makes -/

/-- What `Bus::send` does, apart from logging: a call of `Driver::write`, which is known by
its number, or of `usleep`. -/
inductive SendEvent where
  | write (attempt : Nat)
  | usleep (useconds : Nat)
  deriving DecidableEq

/-- `sendNow` with its calls. -/
def sendNowTrace (started : Bool) (write : Nat → Result Unit) (writes : Nat) :
    List SendEvent × Result Unit :=
  if started then
    ([.write writes], catching Exception.isCCEC (write writes) throwing)
  else
    ([], throwing .invalidStateException)

/-- The numbers of the calls of `Driver::write`. -/
def writesOf (events : List SendEvent) : List Nat :=
  events.filterMap fun
    | .write attempt => some attempt
    | .usleep _ => none

/-- The times slept, in microseconds. -/
def sleepsOf (events : List SendEvent) : List Nat :=
  events.filterMap fun
    | .write _ => none
    | .usleep useconds => some useconds

/-- `sendLoop` with its calls. -/
def sendLoopTrace (started : Bool) (write : Nat → Result Unit) :
    (retry writes : Nat) → List SendEvent × Result Unit
  | 0, writes => sendNowTrace started write writes
  | retry + 1, writes =>
      match sendNowTrace started write writes with
      | (events, .error (.throws e)) =>
          if e.isCCEC then
            let (later, outcome) :=
              sendLoopTrace started write retry (writes + (writesOf events).length)
            (events ++ .usleep 250000 :: later, outcome)
          else
            (events, throwing e)
      | answer => answer

/-- `Bus::send(const CECFrame &frame, int timeout)` with its calls. -/
def sendTrace (started : Bool) (write : Nat → Result Unit) (timeout : Int) :
    List SendEvent × Result Unit :=
  if timeout ≤ 0 then
    sendNowTrace started write 0
  else
    sendLoopTrace started write (timeout / 250).toNat 0

/-- How often a send with this timeout may be repeated. -/
def allowedRetries (timeout : Int) : Nat :=
  if 0 < timeout then (timeout / 250).toNat else 0

@[simp] theorem writesOf_append (events later : List SendEvent) :
    writesOf (events ++ later) = writesOf events ++ writesOf later :=
  List.filterMap_append

@[simp] theorem sleepsOf_append (events later : List SendEvent) :
    sleepsOf (events ++ later) = sleepsOf events ++ sleepsOf later :=
  List.filterMap_append

@[simp] theorem writesOf_write (attempt : Nat) (later : List SendEvent) :
    writesOf (.write attempt :: later) = attempt :: writesOf later := rfl

@[simp] theorem writesOf_usleep (useconds : Nat) (later : List SendEvent) :
    writesOf (.usleep useconds :: later) = writesOf later := rfl

@[simp] theorem sleepsOf_write (attempt : Nat) (later : List SendEvent) :
    sleepsOf (.write attempt :: later) = sleepsOf later := rfl

@[simp] theorem sleepsOf_usleep (useconds : Nat) (later : List SendEvent) :
    sleepsOf (.usleep useconds :: later) = useconds :: sleepsOf later := rfl

@[simp] theorem writesOf_nil : writesOf [] = [] := rfl

@[simp] theorem sleepsOf_nil : sleepsOf [] = [] := rfl

/-! ## The recorded calls belong to the same send -/

theorem sendNow_eq_trace (started : Bool) (write : Nat → Result Unit) (writes : Nat) :
    sendNow started write writes =
      (writes + (writesOf (sendNowTrace started write writes).1).length,
        (sendNowTrace started write writes).2) := by
  cases started <;> rfl

theorem sendLoop_eq_trace (started : Bool) (write : Nat → Result Unit) (retry : Nat) :
    ∀ writes, sendLoop started write retry writes =
      (writes + (writesOf (sendLoopTrace started write retry writes).1).length,
        (sendLoopTrace started write retry writes).2) := by
  induction retry with
  | zero => exact sendNow_eq_trace started write
  | succ retry ih =>
      intro writes
      rw [sendLoop, sendLoopTrace, sendNow_eq_trace]
      rcases sendNowTrace started write writes with ⟨events, outcome⟩
      cases outcome with
      | ok _ => rfl
      | error r =>
          cases r with
          | assertFails | unexpected | undefined => rfl
          | throws e =>
              by_cases hccec : e.isCCEC = true
              · simp only [hccec, if_true]
                rw [ih, writesOf_append, writesOf_usleep, List.length_append, Nat.add_assoc]
              · simp only [hccec]
                rfl

/-- The number of writes and the outcome of `send` are those of the trace. -/
theorem send_eq_trace (started : Bool) (write : Nat → Result Unit) (timeout : Int) :
    send started write timeout =
      ((writesOf (sendTrace started write timeout).1).length,
        (sendTrace started write timeout).2) := by
  unfold send sendTrace
  split
  · rw [sendNow_eq_trace, Nat.zero_add]
  · rw [sendLoop_eq_trace, Nat.zero_add]

/-! ## How the attempts go -/

/-- The call returns, or throws an exception of the library. -/
def CCECOutcome (outcome : Result Unit) : Prop :=
  outcome = .ok () ∨ ∃ e : Exception, e.isCCEC = true ∧ outcome = throwing e

/-- The call does not return. -/
def failed : Result Unit → Bool
  | .ok _ => false
  | .error _ => true

theorem failed_iff (outcome : Result Unit) : failed outcome = true ↔ outcome ≠ .ok () := by
  cases outcome with
  | ok _ => simp [failed]
  | error r => simp [failed]

/-- `failures` attempts with a sleep behind each, and one more. -/
def attempts : (first failures : Nat) → List SendEvent
  | first, 0 => [.write first]
  | first, failures + 1 => .write first :: .usleep 250000 :: attempts (first + 1) failures

theorem writesOf_attempts (failures : Nat) :
    ∀ first, writesOf (attempts first failures) = List.range' first (failures + 1) := by
  induction failures with
  | zero => intro first; rfl
  | succ failures ih =>
      intro first
      rw [attempts, writesOf_write, writesOf_usleep, ih]
      rfl

theorem sleepsOf_attempts (failures : Nat) :
    ∀ first, sleepsOf (attempts first failures) = List.replicate failures 250000 := by
  induction failures with
  | zero => intro first; rfl
  | succ failures ih =>
      intro first
      rw [attempts, sleepsOf_write, sleepsOf_usleep, ih, List.replicate_succ]

section Started

variable {write : Nat → Result Unit}

theorem sendNowTrace_started (write : Nat → Result Unit) (writes : Nat) :
    sendNowTrace true write writes = ([.write writes], write writes) := by
  simp [sendNowTrace]

/-- On a started bus the loop comes to a first success, or to the end of its retries; every
attempt before that one fails. -/
theorem sendLoopTrace_started (hwrite : ∀ i, CCECOutcome (write i)) (retry : Nat) :
    ∀ first, ∃ failures ≤ retry,
      (∀ i, first ≤ i → i < first + failures → write i ≠ .ok ()) ∧
        (failures < retry → write (first + failures) = .ok ()) ∧
        sendLoopTrace true write retry first =
          (attempts first failures, write (first + failures)) := by
  induction retry with
  | zero =>
      intro first
      refine ⟨0, Nat.le_refl 0, ?_, ?_, sendNowTrace_started write first⟩
      · intro i hfirst hlast
        omega
      · intro hlt
        omega
  | succ retry ih =>
      intro first
      obtain hok | ⟨e, hccec, hthrows⟩ := hwrite first
      · refine ⟨0, Nat.zero_le _, ?_, fun _ => hok, ?_⟩
        · intro i hfirst hlast
          omega
        · rw [sendLoopTrace, sendNowTrace_started, Nat.add_zero, hok]
          rfl
      · obtain ⟨failures, hle, hfail, hlast, htrace⟩ := ih (first + 1)
        have hnext : first + 1 + failures = first + (failures + 1) := by omega
        rw [hnext] at hfail hlast htrace
        refine ⟨failures + 1, Nat.succ_le_succ hle, ?_, ?_, ?_⟩
        · intro i hfirst hbefore
          rcases Nat.eq_or_lt_of_le hfirst with rfl | hlater
          · rw [hthrows]
            exact fun h => nomatch h
          · exact hfail i hlater hbefore
        · intro hlt
          exact hlast (by omega)
        · have hone : writesOf [SendEvent.write first] = [first] := rfl
          rw [sendLoopTrace, sendNowTrace_started, hthrows]
          simp only [throwing, hccec, if_true]
          rw [hone, List.length_singleton, htrace]
          rfl

/-- The same for a whole send, whose first attempt is number 0. -/
theorem sendTrace_started (hwrite : ∀ i, CCECOutcome (write i)) (timeout : Int) :
    ∃ failures ≤ allowedRetries timeout,
      (∀ i < failures, write i ≠ .ok ()) ∧
        (failures < allowedRetries timeout → write failures = .ok ()) ∧
        sendTrace true write timeout = (attempts 0 failures, write failures) := by
  unfold sendTrace allowedRetries
  by_cases hpositive : 0 < timeout
  · rw [if_pos hpositive, if_neg (by omega)]
    obtain ⟨failures, hle, hfail, hlast, htrace⟩ :=
      sendLoopTrace_started hwrite (timeout / 250).toNat 0
    rw [Nat.zero_add] at hlast htrace
    refine ⟨failures, hle, ?_, hlast, htrace⟩
    intro i hi
    exact hfail i (Nat.zero_le i) (by omega)
  · rw [if_neg hpositive, if_pos (by omega)]
    refine ⟨0, Nat.le_refl 0, ?_, ?_, sendNowTrace_started write 0⟩
    · intro i hi
      omega
    · intro hlt
      omega

/-- The attempts that fail and are not the last allowed one are those before the last
attempt made. -/
theorem countP_failed {failures allowed : Nat} (hle : failures ≤ allowed)
    (hfail : ∀ i < failures, write i ≠ .ok ())
    (hlast : failures < allowed → write failures = .ok ()) :
    (List.range (failures + 1)).countP (fun i => failed (write i) && i != allowed) =
      failures := by
  have hbefore : (List.range failures).countP (fun i => failed (write i) && i != allowed) =
      failures := by
    rw [List.countP_eq_length.mpr, List.length_range]
    intro i hi
    have hlt := List.mem_range.mp hi
    rw [Bool.and_eq_true, failed_iff, bne_iff_ne]
    exact ⟨hfail i hlt, by omega⟩
  have hend : (failed (write failures) && failures != allowed) = false := by
    rcases Nat.lt_or_eq_of_le hle with hlt | rfl
    · rw [hlast hlt]
      rfl
    · simp
  rw [List.range_succ, List.countP_append, hbefore, List.countP_singleton, hend]
  rfl

end Started

/-- A bus that is not started makes no write, however often it is to try. -/
theorem sendLoopTrace_notStarted (write : Nat → Result Unit) (retry : Nat) :
    ∀ writes, writesOf (sendLoopTrace false write retry writes).1 = [] ∧
      (sendLoopTrace false write retry writes).2 = throwing .invalidStateException := by
  induction retry with
  | zero => intro writes; exact ⟨rfl, rfl⟩
  | succ retry ih =>
      intro writes
      obtain ⟨hnone, hthrows⟩ := ih writes
      exact ⟨hnone, hthrows⟩

theorem sendTrace_notStarted (write : Nat → Result Unit) (timeout : Int) :
    writesOf (sendTrace false write timeout).1 = [] ∧
      (sendTrace false write timeout).2 = throwing .invalidStateException := by
  unfold sendTrace
  split
  · exact ⟨rfl, rfl⟩
  · exact sendLoopTrace_notStarted write _ 0

/-- A write of a frame that has a header returns or throws an exception of the library,
whatever the native driver answers. -/
theorem driverWrite_ccecOutcome (driver : DriverImpl) (hdmiCecTx : HdmiCecTx)
    {frame : CECFrame} (hframe : 1 ≤ frame.length) :
    CCECOutcome (driver.write hdmiCecTx frame) := by
  by_cases hopened : driver.status = .opened
  · have hne : frame.bytes ≠ [] := by
      rw [← List.length_pos_iff, CECFrame.bytes_length]
      exact hframe
    rw [DriverImpl.write_eq hdmiCecTx hopened hne, DriverImpl.sendOutcome]
    split
    · exact .inr ⟨.ioException, rfl, rfl⟩
    · split
      · exact .inr ⟨.cecNoAckException, rfl, rfl⟩
      · exact .inl rfl
  · rw [DriverImpl.write, if_pos hopened]
    exact .inr ⟨.invalidStateException, rfl, rfl⟩

/-- The attempts of `Bus::send`, its outcome and the time it sleeps. -/
theorem send_retries (write : Nat → CECFrame → Result Unit) (frame : CECFrame)
    (hwrite : ∀ i, CCECOutcome (write i frame)) (timeout : Int) :
    let k := allowedRetries timeout
    let run := sendTrace true (fun i => write i frame) timeout
    let unstarted := sendTrace false (fun i => write i frame) timeout
    (∃ failures ≤ k, writesOf run.1 = List.range (failures + 1) ∧
        (∀ i < failures, write i frame ≠ .ok ()) ∧
        (failures < k → write failures frame = .ok ())) ∧
      (run.2 = .ok () ↔ ∃ i ∈ writesOf run.1, write i frame = .ok ()) ∧
      (run.2 ≠ .ok () → run.2 = write k frame) ∧
      sleepsOf run.1 = List.replicate
        ((writesOf run.1).countP fun i => failed (write i frame) && i != k) 250000 ∧
      (0 < timeout → ((sleepsOf run.1).sum : Int) ≤ timeout * 1000) ∧
      writesOf unstarted.1 = [] ∧ unstarted.2 = throwing .invalidStateException := by
  dsimp only
  obtain ⟨failures, hle, hfail, hlast, htrace⟩ := sendTrace_started hwrite timeout
  have hwrites : writesOf (attempts 0 failures) = List.range (failures + 1) := by
    rw [writesOf_attempts, List.range_eq_range']
  have hsleeps := sleepsOf_attempts failures 0
  rw [htrace, hwrites, hsleeps]
  refine ⟨⟨failures, hle, rfl, hfail, hlast⟩, ?_, ?_, ?_, ?_, sendTrace_notStarted _ timeout⟩
  · constructor
    · intro hok
      exact ⟨failures, List.mem_range.mpr (Nat.lt_succ_self failures), hok⟩
    · rintro ⟨i, hi, hok⟩
      have hlt := List.mem_range.mp hi
      rcases Nat.lt_or_eq_of_le (Nat.le_of_lt_succ hlt) with hbefore | rfl
      · exact absurd hok (hfail i hbefore)
      · exact hok
  · intro hfailed
    rcases Nat.lt_or_eq_of_le hle with hbefore | rfl
    · exact absurd (hlast hbefore) hfailed
    · rfl
  · rw [countP_failed hle hfail hlast]
  · intro hpositive
    rw [allowedRetries, if_pos hpositive] at hle
    rw [List.sum_replicate_nat]
    omega

/-- A standby message on an open driver whose first two transmissions fail: with a timeout of
600 ms the send sleeps for no longer than that. -/
theorem send_retries_standby :
    let driver : DriverImpl :=
      { status := .opened, rQueue := .empty 32, logicalAddresses := [] }
    let answer (i : Nat) : HdmiCecTx := fun _ _ =>
      (HdmiCecIo.success, if i < 2 then HdmiCecIo.sentFailed else HdmiCecIo.sentAndAckd)
    let run := sendTrace true
      (fun i => driver.write (answer i) (CECFrame.ofBytes [0x40, 0x36] (by decide))) 600
    ((sleepsOf run.1).sum : Int) ≤ 600 * 1000 :=
  (send_retries _ (CECFrame.ofBytes [0x40, 0x36] (by decide))
    (fun _ => driverWrite_ccecOutcome _ _ (by decide)) 600).2.2.2.2.1 (by decide)

end Bus

end HdmiCec
