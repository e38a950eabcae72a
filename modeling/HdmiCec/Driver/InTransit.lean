import HdmiCec.Driver.Arrivals
import HdmiCec.Driver.Sentinel

/-!
# A driver as a stretch of a conveyor

What `DriverReceiveCallback` has received and `read` has not returned yet is in the hands of
a callback, in the queue, or in the hands of `read`.  Put one behind the other these are the
frames on their way through the driver, and a step of the driver does one of three things to
them: a callback adds one behind the last, a `read` that returns takes the first away, and
the other steps leave them in their places or lose some.

A frame is lost when its callback finds the driver not open or the queue full, and in the
flush behind a `close`.  Without a `close` the flush is not entered.

Nor does a frame stay on its way: as long as the driver is open, the reading thread or the
callback has a step, and the step brings the frames nearer to the return of `read`.
-/

universe u

namespace HdmiCec

namespace Sessions

variable {F : Type u}

/-- The frames on their way, the one that is returned next in front. -/
def State.onWay (s : State F) : List (Receipt F) :=
  s.reader.held ++ queued s.rQueue ++ inCallbacks s.callbacks

/-- What `read` returns in this step. -/
def State.returning (s : State F) : Action F → Option (Receipt F)
  | .reader =>
      match s.reader with
      | .returning receipt => some receipt
      | _ => none
  | _ => none

/-- What a callback that begins in this step receives. -/
def State.receiving (s : State F) : Action F → Option (Receipt F)
  | .receive frame => some ⟨s.received, frame⟩
  | _ => none

/-- The steps that lose no frame, as long as the flush is not entered. -/
def Lossless (s : State F) : Action F → Prop
  | .driverClose => False
  | .test _ => s.status = .opened
  | .deliver _ => s.rQueue.items.length < s.rQueue.cap
  | _ => True

instance (s : State F) (a : Action F) : Decidable (Lossless s a) :=
  match a with
  | .driverClose => inferInstanceAs (Decidable False)
  | .test _ => inferInstanceAs (Decidable (_ = _))
  | .deliver _ => inferInstanceAs (Decidable (_ < _))
  | .driverOpen _ | .closeStep _ | .read | .reader | .readerWakes | .receive _ =>
      inferInstanceAs (Decidable True)

/-- No `close` is under way, and `read` waits in an open driver. -/
structure State.Steady (s : State F) : Prop where
  free : s.mutex = none
  notFlushing : s.reader.flushing = false
  serving : s.reader ≠ .idle → s.reader ≠ .readStatus → s.status = .opened

/-- What `read` returns was on its way. -/
theorem returning_mem {s : State F} {a : Action F} {receipt : Receipt F}
    (h : s.returning a = some receipt) : receipt ∈ s.onWay := by
  have hheld : s.reader.held = [receipt] := by
    cases a with
    | reader => cases hreader : s.reader <;> simp_all [State.returning, ReadPc.held]
    | _ => cases h
  simp [State.onWay, hheld]

/-! ## What a step does to the frames on their way -/

section Step

variable {s s' : State F} {a : Action F}

/-- The only callback is the one that delivers. -/
theorem callbacks_eq_of_one {i : Nat} {receipt : Receipt F} {tested : Bool}
    (hone : s.callbacks.length ≤ 1) (hcallback : s.callbacks[i]? = some ⟨receipt, tested⟩) :
    s.callbacks = [⟨receipt, tested⟩] ∧ i = 0 := by
  obtain ⟨callback, hcallbacks⟩ : ∃ callback, s.callbacks = [callback] := by
    rw [← List.length_eq_one_iff]
    have hlt := (List.getElem?_eq_some_iff.mp hcallback).1
    omega
  rw [hcallbacks] at hcallback ⊢
  cases i with
  | zero =>
      cases hcallback
      exact ⟨rfl, rfl⟩
  | succ i => cases hcallback

/-- A step that changes nothing begins no callback and returns no frame. -/
theorem stays_quiet (hstep : step s a = some s) : s.returning a = none ∧ s.receiving a = none := by
  cases a with
  | receive frame =>
      have hcount : s.received + 1 = s.received :=
        congrArg State.received (Option.some.inj hstep)
      omega
  | reader =>
      refine ⟨?_, rfl⟩
      cases hreader : s.reader with
      | returning receipt =>
          simp only [step, readerStep, hreader, Option.some.injEq] at hstep
          -- a `read` that returns leaves its place
          have hidle := congrArg State.reader hstep
          rw [hreader] at hidle
          cases hidle
      | _ => simp [State.returning, hreader]
  | _ => exact ⟨rfl, rfl⟩

/-- A callback is discarded only if the driver is not open. -/
theorem discards_notOpened {i : Nat} {receipt : Receipt F}
    (hcallback : s.callbacks[i]? = some ⟨receipt, false⟩)
    (hstep : step s (.test i) = some { s with callbacks := s.callbacks.eraseIdx i }) :
    s.status ≠ .opened := by
  intro hopened
  have hlt := (List.getElem?_eq_some_iff.mp hcallback).1
  simp only [step, hcallback, if_pos hopened, Option.some.injEq] at hstep
  have hlength : (s.callbacks.set i ⟨receipt, true⟩).length = (s.callbacks.eraseIdx i).length :=
    congrArg (fun t : State F => t.callbacks.length) hstep
  rw [List.length_set, List.length_eraseIdx_of_lt hlt] at hlength
  omega

/-- What leaves the driver, what of the rest stays, and what enters it. -/
theorem step_onWay (hone : s.callbacks.length ≤ 1) (hstep : step s a = some s') :
    ∃ rest kept, s.onWay = (s.returning a).toList ++ rest ∧
      s'.onWay = kept ++ (s.receiving a).toList ∧
      kept.Sublist rest ∧ (s.Steady → Lossless s a → kept = rest) := by
  have hall : ∀ rest : List (Receipt F), rest.Sublist rest ∧
      (s.Steady → Lossless s a → rest = rest) :=
    fun rest => ⟨List.Sublist.refl rest, fun _ _ => rfl⟩
  cases step_moves hstep with
  | stays =>
      obtain ⟨hreturning, hreceiving⟩ := stays_quiet hstep
      refine ⟨s.onWay, s.onWay, ?_, ?_, hall _⟩
      · rw [hreturning]
        rfl
      · rw [hreceiving]
        exact (List.append_nil _).symm
  | opens | closes | closeEnds =>
      exact ⟨s.onWay, s.onWay, rfl, (List.append_nil _).symm, hall _⟩
  | offersSentinel =>
      refine ⟨s.onWay, s.onWay, rfl, ?_, hall _⟩
      show s.reader.held ++ queued (s.rQueue.offer none) ++ _ = s.onWay ++ []
      rw [queued_offer_none, List.append_nil]
      rfl
  | calls hpc | refused hpc | tests receipt hpc | copies receipt hpc | flushes hpc
  | flushGoesOn hpc | flushEnds hpc | flushCopies receipt hpc | wakes hpc | flushWakes hpc =>
      refine ⟨s.onWay, s.onWay, ?_, ?_, hall _⟩ <;>
        simp [State.onWay, State.returning, State.receiving, ReadPc.held, hpc]
  | admitted hpc | copiesNull hpc =>
      refine ⟨s.onWay, s.onWay, ?_, ?_, hall _⟩ <;>
        rcases hpc with hpc | hpc <;>
        simp [State.onWay, State.returning, State.receiving, ReadPc.held, hpc]
  | polls inFrame queue hpc htakes =>
      refine ⟨s.onWay, s.onWay, ?_, ?_, hall _⟩
      · simp [State.returning, hpc]
      · cases inFrame <;>
          simp [State.onWay, State.receiving, ReadPc.held, hpc, queued_of_takes htakes]
  | flushPolls inFrame queue hpc htakes =>
      -- what the flush takes is lost
      refine ⟨s.onWay, queued queue ++ inCallbacks s.callbacks, ?_, ?_, ?_, ?_⟩
      · simp [State.returning, hpc]
      · simp [State.onWay, State.receiving, ReadPc.held]
      · simp only [State.onWay, hpc, ReadPc.held, List.nil_append, queued_of_takes htakes,
          List.append_assoc]
        exact List.sublist_append_right _ _
      · intro hsteady _
        have hflushing := hsteady.notFlushing
        rw [hpc] at hflushing
        cases hflushing
  | returns receipt hpc =>
      refine ⟨queued s.rQueue ++ inCallbacks s.callbacks, _, ?_, ?_, hall _⟩ <;>
        simp [State.onWay, State.returning, State.receiving, ReadPc.held, hpc]
  | receives frame =>
      refine ⟨s.onWay, s.onWay, rfl, ?_, hall _⟩
      simp [State.onWay, State.receiving, inCallbacks]
  | admits i receipt hcallback =>
      refine ⟨s.onWay, s.onWay, rfl, ?_, hall _⟩
      show _ ++ inCallbacks (s.callbacks.set i ⟨receipt, true⟩) = s.onWay ++ []
      rw [inCallbacks_set hcallback, List.append_nil]
      rfl
  | discards i receipt hcallback =>
      -- the callback has found the driver not open
      refine ⟨s.onWay, s.reader.held ++ queued s.rQueue ++ inCallbacks (s.callbacks.eraseIdx i),
        rfl, (List.append_nil _).symm, ?_, ?_⟩
      · exact ((List.eraseIdx_sublist s.callbacks i).map Callback.receipt).append_left _
      · intro _ hopened
        exact absurd (show s.status = .opened from hopened) (discards_notOpened hcallback hstep)
  | delivers i receipt hcallback =>
      obtain ⟨hcallbacks, rfl⟩ := callbacks_eq_of_one hone hcallback
      refine ⟨s.onWay, s.reader.held ++ queued (s.rQueue.offer (some receipt)), rfl, ?_, ?_, ?_⟩
      · simp [State.onWay, State.receiving, hcallbacks, inCallbacks]
      · show List.Sublist _ (s.reader.held ++ queued s.rQueue ++ inCallbacks s.callbacks)
        rw [hcallbacks, List.append_assoc]
        exact (queued_offer_some s.rQueue receipt).append_left _
      · -- a full queue would drop the frame
        intro _ hroom
        simp [State.onWay, queued, BoundedFifo.offer_room _ hroom, hcallbacks, inCallbacks]

/-! ## Without a loss -/

theorem new_steady : (new F).Steady := ⟨rfl, rfl, fun hidle => absurd rfl hidle⟩

/-- Without a `close` the flush is not entered. -/
theorem step_steady (h : s.Steady) (hok : Lossless s a) (hstep : step s a = some s') :
    s'.Steady := by
  obtain ⟨hfree, hnotFlushing, hserving⟩ := h
  cases step_moves hstep with
  | stays => exact ⟨hfree, hnotFlushing, hserving⟩
  | closes => exact hok.elim
  | offersSentinel nativeOk hholds | closeEnds nativeOk hholds =>
      rw [hfree] at hholds
      cases hholds
  -- the flush is entered only if the driver is no longer open
  | flushes hpc _ hshut => exact absurd (hserving (by simp [hpc]) (by simp [hpc])) hshut
  | flushGoesOn hpc | flushEnds hpc | flushPolls inFrame queue hpc | flushWakes hpc
  | flushCopies receipt hpc =>
      rw [hpc] at hnotFlushing
      cases hnotFlushing
  | _ => constructor <;> grind -ring -linarith [ReadPc.flushing]

/-- A driver that is open stays open without a `close`. -/
theorem step_opened (h : s.Steady) (hok : Lossless s a) (hopened : s.status = .opened)
    (hstep : step s a = some s') : s'.status = .opened := by
  cases step_moves hstep with
  | opens _ hclosed => cases hopened.symm.trans hclosed
  | closes => exact hok.elim
  | offersSentinel nativeOk hholds | closeEnds nativeOk hholds =>
      rw [h.free] at hholds
      cases hholds
  | _ => exact hopened

/-! ## The threads alone -/

/-- The steps of the reading thread and of a callback that has begun. -/
def Delivering (s : State F) : Action F → Prop
  | .read | .reader => True
  | .test i => Lossless s (.test i)
  | .deliver i => Lossless s (.deliver i)
  | .driverOpen _ | .driverClose | .closeStep _ | .readerWakes | .receive _ => False

instance (s : State F) (a : Action F) : Decidable (Delivering s a) :=
  match a with
  | .read | .reader => inferInstanceAs (Decidable True)
  | .test i => inferInstanceAs (Decidable (Lossless s (.test i)))
  | .deliver i => inferInstanceAs (Decidable (Lossless s (.deliver i)))
  | .driverOpen _ | .driverClose | .closeStep _ | .readerWakes | .receive _ =>
      inferInstanceAs (Decidable False)

theorem Delivering.lossless (h : Delivering s a) : Lossless s a := by
  cases a with
  | read | reader => trivial
  | test i | deliver i => exact h
  | _ => exact h.elim

/-- The reading thread has not crashed. -/
structure State.Awake (s : State F) : Prop where
  inv : Inv s
  alive : s.reader ≠ .crashed

theorem new_awake : (new F).Awake := ⟨new_inv, nofun⟩

/-- Only the flush crashes. -/
theorem step_awake (h : s.Awake) (hsteady : s.Steady) (hstep : step s a = some s') :
    s'.Awake := by
  refine ⟨step_inv h.inv hstep, ?_⟩
  cases step_moves hstep with
  | copiesNull hpc =>
      rcases hpc with hpc | hpc
      · exact absurd hpc h.inv.tested
      · have hflushing := hsteady.notFlushing
        rw [hpc] at hflushing
        cases hflushing
  | _ => first | exact h.alive | nofun

/-! ### How far the frames are from the return of `read` -/

def Callback.rank (callback : Callback F) : Nat := if callback.tested then 9 else 10

def ReadPc.rank : ReadPc F → Nat
  | .polled (some _) => 7
  | .copy _ => 6
  | .returning _ => 5
  | .polled none => 4
  | .idle => 3
  | .readStatus => 2
  | .poll => 1
  | .flushTest | .flushPoll | .flushCopy _ | .crashed => 0

def callbacksRank : List (Callback F) → Nat
  | [] => 0
  | callback :: rest => callback.rank + callbacksRank rest

def State.rank (s : State F) : Nat :=
  callbacksRank s.callbacks + 8 * s.rQueue.items.length + s.reader.rank

/-- A single callback is 10 steps away from the reading thread at most. -/
theorem rank_le (hone : s.callbacks.length ≤ 1) :
    s.rank ≤ 8 * s.rQueue.items.length + 17 := by
  have hplace : s.reader.rank ≤ 7 := by
    cases s.reader with
    | polled inFrame => cases inFrame <;> simp [ReadPc.rank]
    | _ => simp [ReadPc.rank]
  have hcallback : callbacksRank s.callbacks ≤ 10 := by
    cases hcallbacks : s.callbacks with
    | nil => exact Nat.zero_le 10
    | cons callback rest =>
        rw [hcallbacks, List.length_cons] at hone
        have hnone : rest = [] := List.eq_nil_of_length_eq_zero (by omega)
        subst hnone
        simp only [callbacksRank, Callback.rank]
        split <;> omega
  rw [State.rank]
  omega

/-- With nothing in front of it the callback goes on. -/
theorem callback_goes_on (h : s.Awake) (hopened : s.status = .opened)
    (hitems : s.rQueue.items = []) (hcallbacks : s.callbacks ≠ []) :
    ∃ a s', Delivering s a ∧ step s a = some s' ∧ s'.rank < s.rank := by
  obtain ⟨⟨receipt, tested⟩, rest, hfirst⟩ := List.exists_cons_of_ne_nil hcallbacks
  cases tested with
  | false =>
      refine ⟨.test 0, { s with callbacks := s.callbacks.set 0 ⟨receipt, true⟩ }, hopened, ?_, ?_⟩
      · simp [step, hfirst, hopened]
      · simp [State.rank, hfirst, callbacksRank, Callback.rank]
  | true =>
      have hroom : s.rQueue.items.length < s.rQueue.cap := by
        rw [hitems]
        exact h.inv.capacity
      refine ⟨.deliver 0,
        { s with
          callbacks := s.callbacks.eraseIdx 0
          rQueue := s.rQueue.offer (some receipt)
          arrived := s.arrived ++ [receipt] }, hroom, ?_, ?_⟩
      · simp [step, hfirst]
      · simp [State.rank, hfirst, callbacksRank, Callback.rank, BoundedFifo.offer_room _ hroom,
          hitems]
        omega

/-- The reading thread goes on until it waits at an empty queue. -/
theorem reader_goes_on (h : s.Awake) (hsteady : s.Steady) (hopened : s.status = .opened)
    (hleft : s.reader.held ≠ [] ∨ s.rQueue.items ≠ []) :
    ∃ a s', Delivering s a ∧ step s a = some s' ∧ s'.rank < s.rank := by
  have hfree := hsteady.free
  cases hreader : s.reader with
  | idle =>
      refine ⟨.read, { s with reader := .readStatus }, trivial, by simp [step, hreader], ?_⟩
      simp only [State.rank, hreader, ReadPc.rank]
      omega
  | readStatus =>
      refine ⟨.reader, { s with reader := .poll }, trivial,
        by simp [step, readerStep, hreader, hfree, hopened], ?_⟩
      simp only [State.rank, hreader, ReadPc.rank]
      omega
  | poll =>
      rw [hreader] at hleft
      obtain ⟨entry, rest, hitems⟩ :=
        List.exists_cons_of_ne_nil (hleft.resolve_left (by simp [ReadPc.held]))
      refine ⟨.reader,
        { s with
          reader := .polled entry
          rQueue := { s.rQueue with items := rest, popped := s.rQueue.popped ++ [entry] } },
        trivial, by simp [step, readerStep, hreader, pollStep, BoundedFifo.poll, hitems], ?_⟩
      have hpolled : (ReadPc.polled entry).rank ≤ 7 := by
        cases entry <;> simp [ReadPc.rank]
      have hpoll : (ReadPc.poll (F := F)).rank = 1 := rfl
      simp only [State.rank, hreader, hitems, List.length_cons]
      omega
  | polled inFrame =>
      cases inFrame with
      | none =>
          refine ⟨.reader, { s with reader := .poll }, trivial,
            by simp [step, readerStep, hreader, hfree, hopened], ?_⟩
          simp only [State.rank, hreader, ReadPc.rank]
          omega
      | some receipt =>
          refine ⟨.reader, { s with reader := .copy (some receipt) }, trivial,
            by simp [step, readerStep, hreader], ?_⟩
          simp only [State.rank, hreader, ReadPc.rank]
          omega
  | copy inFrame =>
      cases inFrame with
      | none => exact absurd hreader h.inv.tested
      | some receipt =>
          refine ⟨.reader, { s with reader := .returning receipt }, trivial,
            by simp [step, readerStep, hreader], ?_⟩
          simp only [State.rank, hreader, ReadPc.rank]
          omega
  | returning receipt =>
      refine ⟨.reader, { s with reader := .idle, returned := s.returned ++ [receipt] }, trivial,
        by simp [step, readerStep, hreader], ?_⟩
      simp only [State.rank, hreader, ReadPc.rank]
      omega
  | flushTest | flushPoll | flushCopy inFrame =>
      have hflushing := hsteady.notFlushing
      rw [hreader] at hflushing
      cases hflushing
  | crashed => exact absurd hreader h.alive

/-- As long as a frame is on its way, the driver can take a step of its threads that brings it
nearer to the return of `read`. -/
theorem State.Awake.goes_on (h : s.Awake) (hsteady : s.Steady) (hopened : s.status = .opened)
    (hway : s.onWay ≠ []) : ∃ a s', Delivering s a ∧ step s a = some s' ∧ s'.rank < s.rank := by
  by_cases hleft : s.reader.held ≠ [] ∨ s.rQueue.items ≠ []
  · exact reader_goes_on h hsteady hopened hleft
  · -- nothing is in front of the callback, so it has the frame
    rw [not_or, not_not, not_not] at hleft
    obtain ⟨hheld, hitems⟩ := hleft
    refine callback_goes_on h hopened hitems fun hcallbacks => hway ?_
    simp [State.onWay, hheld, queued, hitems, hcallbacks, inCallbacks]

end Step

end Sessions

end HdmiCec
