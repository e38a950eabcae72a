import HdmiCec.Driver.DriverImpl
import HdmiCec.Library.StepSystem

/-!
# What a return of `open` and `close` says

`DriverImpl::open` and `DriverImpl::close` in any order, with the native driver behind them.
Both return without a word when the status is not the one they expect, and `close` leaves
`OPENED` before `HdmiCecClose` is called.  A failing `HdmiCecClose` therefore ends in
`CLOSING`, a status from which neither call finds its way out.
-/

namespace HdmiCec

namespace OpenClose

/-- The driver, and whether the native driver is open. -/
structure State where
  driver : DriverImpl
  nativeOpen : Bool

/-- A call, with the success of the native function if it comes to it. -/
inductive Call where
  | driverOpen (hdmiCecOpen : Bool)
  | driverClose (hdmiCecClose : Bool)
  deriving DecidableEq

/-- One call.  The native driver is opened by a successful `HdmiCecOpen` and closed by a
successful `HdmiCecClose`; one that fails leaves it as it is. -/
def call (s : State) : Call → State × Result Unit
  | .driverOpen hdmiCecOpen =>
      let (driver, outcome) := s.driver.driverOpen hdmiCecOpen
      let called := s.driver.status = .closed
      ({ driver := driver, nativeOpen := s.nativeOpen || (called && hdmiCecOpen) }, outcome)
  | .driverClose hdmiCecClose =>
      let (driver, outcome) := s.driver.driverClose hdmiCecClose
      let called := s.driver.status = .opened
      ({ driver := driver, nativeOpen := s.nativeOpen && !(called && hdmiCecClose) }, outcome)

/-- The driver when its constructor has returned, with nothing open behind it. -/
def system : StepSystem State Call where
  initial s := s.driver.status = .closed ∧ s.nativeOpen = false
  step s c := some (call s c).1

/-- The call tells the truth: a return means what it says, and a throw has changed no
status. -/
structure Truthful (s : State) (c : Call) : Prop where
  opened : ∀ ok, c = .driverOpen ok → (call s c).2 = .ok () →
    (call s c).1.driver.status = .opened ∧ (call s c).1.nativeOpen = true
  closed : ∀ ok, c = .driverClose ok → (call s c).2 = .ok () →
    (call s c).1.driver.status = .closed
  unchanged : ∀ e, (call s c).2 = throwing e →
    (call s c).1.driver.status = s.driver.status

/-- `HdmiCecClose` does not fail in the call. -/
def Closes (s : State) (c : Call) : Prop := c = .driverClose false → s.driver.status ≠ .opened

instance (s : State) (c : Call) : Decidable (Closes s c) :=
  inferInstanceAs (Decidable (_ → _))

/-! ## The calls by the status they find -/

section Calls

variable {s : State}

theorem driverOpen_closed (h : s.driver.status = .closed) (ok : Bool) :
    call s (.driverOpen ok) =
      if ok then
        ({ driver := { s.driver with status := .opened }, nativeOpen := true }, .ok ())
      else
        (s, throwing .ioException) := by
  cases ok <;> simp [call, DriverImpl.driverOpen, h]

theorem driverOpen_ignored (h : s.driver.status ≠ .closed) (ok : Bool) :
    call s (.driverOpen ok) = (s, .ok ()) := by
  simp [call, DriverImpl.driverOpen, h]

theorem driverClose_opened (h : s.driver.status = .opened) (ok : Bool) :
    call s (.driverClose ok) =
      if ok then
        ({ driver := { s.driver with
              status := .closed, rQueue := s.driver.rQueue.offer none }
           nativeOpen := false }, .ok ())
      else
        ({ driver := { s.driver with
              status := .closing, rQueue := s.driver.rQueue.offer none }
           nativeOpen := s.nativeOpen }, throwing .ioException) := by
  cases ok <;> simp [call, DriverImpl.driverClose, h]

theorem driverClose_ignored (h : s.driver.status ≠ .opened) (ok : Bool) :
    call s (.driverClose ok) = (s, .ok ()) := by
  simp [call, DriverImpl.driverClose, h]

/-! ## Runs -/

/-- The status is what the native driver is in, and never `CLOSING`. -/
def Agrees (s : State) : Prop :=
  (s.driver.status = .closed ∧ s.nativeOpen = false) ∨
    (s.driver.status = .opened ∧ s.nativeOpen = true)

/-- One call keeps the agreement, unless `HdmiCecClose` fails. -/
theorem call_status (h : Agrees s) {c : Call} (hcloses : Closes s c) :
    Agrees (call s c).1 := by
  rcases h with ⟨hclosed, hnative⟩ | ⟨hopened, hnative⟩
  · cases c with
    | driverOpen ok =>
        rw [driverOpen_closed hclosed]
        cases ok with
        | true => exact .inr ⟨rfl, rfl⟩
        | false => exact .inl ⟨hclosed, hnative⟩
    | driverClose ok =>
        rw [driverClose_ignored (by rw [hclosed]; decide)]
        exact .inl ⟨hclosed, hnative⟩
  · cases c with
    | driverOpen ok =>
        rw [driverOpen_ignored (by rw [hopened]; decide)]
        exact .inr ⟨hopened, hnative⟩
    | driverClose ok =>
        rw [driverClose_opened hopened]
        cases ok with
        | true => exact .inl ⟨rfl, rfl⟩
        | false => exact absurd hopened (hcloses rfl)

theorem reachable_status (h : system.Reachable Closes s) : Agrees s := by
  refine h.invariant (I := Agrees) ?_ ?_
  · intro s hinitial
    exact .inl hinitial
  · intro s c s' _ hagrees hcloses hstep
    cases hstep
    exact call_status hagrees hcloses

theorem truthful_closed (hclosed : s.driver.status = .closed) (c : Call) : Truthful s c := by
  cases c with
  | driverOpen ok =>
      have hcall := driverOpen_closed hclosed ok
      cases ok with
      | true =>
          refine ⟨?_, fun _ h => (nomatch h), ?_⟩
          · intro _ _ _
            rw [hcall]
            exact ⟨rfl, rfl⟩
          · intro e hthrows
            rw [hcall] at hthrows
            cases hthrows
      | false =>
          refine ⟨?_, fun _ h => (nomatch h), ?_⟩
          · intro _ _ hreturns
            rw [hcall] at hreturns
            cases hreturns
          · intro e _
            rw [hcall]
            rfl
  | driverClose ok =>
      have hcall := driverClose_ignored (by rw [hclosed]; decide) ok
      refine ⟨fun _ h => (nomatch h), ?_, ?_⟩
      · intro _ _ _
        rw [hcall]
        exact hclosed
      · intro e hthrows
        rw [hcall] at hthrows
        cases hthrows

theorem truthful_opened_iff (hopened : s.driver.status = .opened) (hnative : s.nativeOpen = true)
    (c : Call) : Truthful s c ↔ Closes s c := by
  cases c with
  | driverOpen ok =>
      have hcall := driverOpen_ignored (by rw [hopened]; decide) ok
      refine iff_of_true ⟨?_, fun _ h => (nomatch h), ?_⟩ (fun h => nomatch h)
      · intro _ _ _
        rw [hcall]
        exact ⟨hopened, hnative⟩
      · intro e hthrows
        rw [hcall] at hthrows
        cases hthrows
  | driverClose ok =>
      have hcall := driverClose_opened hopened ok
      cases ok with
      | true =>
          refine iff_of_true ⟨fun _ h => (nomatch h), ?_, ?_⟩ (fun h => nomatch h)
          · intro _ _ _
            rw [hcall]
            rfl
          · intro e hthrows
            rw [hcall] at hthrows
            cases hthrows
      | false =>
          refine iff_of_false ?_ (fun hcloses => hcloses rfl hopened)
          intro htruthful
          -- the `IOException` has left the driver in `CLOSING`
          have hstatus := htruthful.unchanged .ioException (by rw [hcall]; rfl)
          rw [hcall, hopened] at hstatus
          cases hstatus

/-- In a run in which no `HdmiCecClose` fails every call tells the truth, and the first call
in which it fails does not. -/
theorem truthful_iff (h : system.Reachable Closes s) (c : Call) :
    Truthful s c ↔ Closes s c := by
  rcases reachable_status h with ⟨hclosed, -⟩ | ⟨hopened, hnative⟩
  · refine iff_of_true (truthful_closed hclosed c) ?_
    intro _ hopened
    rw [hclosed] at hopened
    cases hopened
  · exact truthful_opened_iff hopened hnative c

end Calls

/-- The constructed driver. -/
def new : State :=
  { driver := { status := .closed, rQueue := .empty 32, logicalAddresses := [] }
    nativeOpen := false }

/-- A failing and a successful `open`, then a `close`: it returns, and the driver is
closed. -/
theorem truthful_iff_retried :
    ∃ s, system.Reachable Closes s ∧ s.driver.status = .opened ∧
      Truthful s (.driverClose true) := by
  obtain ⟨s, hreach, hopened⟩ :=
    StepSystem.exists_reachable_of_run system Closes new [.driverOpen false, .driverOpen true]
      (fun s => s.driver.status = .opened) ⟨rfl, rfl⟩ (by decide)
  exact ⟨s, hreach, hopened, (truthful_iff hreach _).mpr fun h => nomatch h⟩

/-- `open`, and a `close` whose `HdmiCecClose` fails: the status is not what it was, a retry
of `close` returns although the driver is not closed, and `open` returns although it is not
opened. -/
theorem not_truthful :
    ∃ s, system.Reachable StepSystem.unguarded s ∧ ¬ Truthful s (.driverClose false) ∧
      ∃ s', system.step s (.driverClose false) = some s' ∧
        ¬ Truthful s' (.driverClose true) ∧ ¬ Truthful s' (.driverOpen true) := by
  obtain ⟨s, hreach, hopened, hnative⟩ :=
    StepSystem.exists_reachable_of_run system StepSystem.unguarded new [.driverOpen true]
      (fun s => s.driver.status = .opened ∧ s.nativeOpen = true) ⟨rfl, rfl⟩ (by decide)
  refine ⟨s, hreach, ?_, _, rfl, ?_, ?_⟩
  · rw [truthful_opened_iff hopened hnative]
    exact fun hcloses => hcloses rfl hopened
  · rw [driverClose_opened hopened]
    intro htruthful
    cases htruthful.closed true rfl rfl
  · rw [driverClose_opened hopened]
    intro htruthful
    cases (htruthful.opened true rfl rfl).1

end OpenClose

end HdmiCec
