import HdmiCec.Driver.DriverImpl

/-!
# The sessions of a driver

`DriverImpl::open`, `DriverImpl::close`, `DriverImpl::read` and
`DriverReceiveCallback`, in any order and any number of times: one thread calls
`read` again and again, as `Bus::Reader::run` does, any threads call `open` and
`close`, and any callbacks are under way at the same time.

`open` and `close` hold the driver's `mutex` from their first statement to their
last.  What the other threads can see of an `open` is one step; `close` has three,
because its sentinel and the end of `HdmiCecClose` are seen apart.  `rQueue` is the
bounded buffer that `EventQueue` refines.

A session lasts from one successful `open` to the next.  Every frame carries the
number of the callback that has received it, so that frames of different sessions
can be told apart: `opened` is the first number of the current session.
-/

universe u

namespace HdmiCec

namespace Sessions

/-- A frame, and the number of the `DriverReceiveCallback` that has received it. -/
structure Receipt (F : Type u) where
  number : Nat
  frame : F
  deriving DecidableEq

/-- A `DriverReceiveCallback` that has built its frame; `tested` says that it has
passed the status test of `getIncomingQueue`. -/
structure Callback (F : Type u) where
  receipt : Receipt F
  tested : Bool
  deriving DecidableEq

/-- Where the holder of the driver's `mutex` is. -/
inductive Holder where
  /-- In `close`, before `rQueue.offer(0)`. -/
  | closeOffer
  /-- In `close`, before `HdmiCecClose`. -/
  | closeNative
  /-- In the flush of `read`. -/
  | reader
  deriving DecidableEq

/-- Where the reading thread is in `DriverImpl::read`. -/
inductive ReadPc (F : Type u) where
  | idle
  | readStatus
  | poll
  /-- `poll` has returned; the test of `inFrame` is next. -/
  | polled (inFrame : Option (Receipt F))
  /-- `frame = *inFrame` outside the flush. -/
  | copy (inFrame : Option (Receipt F))
  | returning (receipt : Receipt F)
  | flushTest
  | flushPoll
  /-- `frame = *inFrame` inside the flush. -/
  | flushCopy (inFrame : Option (Receipt F))
  /-- A null pointer has been dereferenced. -/
  | crashed
  deriving DecidableEq

/-- The driver and its callers between two steps.  `received` counts the callbacks;
`arrived` are the receipts of the session in the order in which they were offered to
the queue, and `returned` those that `read` has returned. -/
structure State (F : Type u) where
  status : DriverStatus
  mutex : Option Holder
  rQueue : BoundedFifo (Option (Receipt F))
  reader : ReadPc F
  callbacks : List (Callback F)
  received : Nat
  opened : Nat
  arrived : List (Receipt F)
  returned : List (Receipt F)

/-- Who takes the next step; `nativeOk` is the result of `HdmiCecOpen` or
`HdmiCecClose`. -/
inductive Action (F : Type u) where
  | driverOpen (nativeOk : Bool)
  | driverClose
  | closeStep (nativeOk : Bool)
  | read
  | reader
  | readerWakes
  | receive (frame : F)
  | test (i : Nat)
  | deliver (i : Nat)
  deriving DecidableEq

variable {F : Type u}

/-! ## The steps -/

/-- `rQueue.poll()` takes the front entry. -/
def pollStep (s : State F) (pc : Option (Receipt F) → ReadPc F) : Option (State F) :=
  match s.rQueue.poll with
  | none => none
  | some (inFrame, rest) => some { s with reader := pc inFrame, rQueue := rest }

/-- The next step of the reading thread inside `read`.  An `InvalidStateException`
leads out of it. -/
def readerStep (s : State F) : Option (State F) :=
  match s.reader with
  | .idle => none
  | .readStatus =>
      match s.mutex with
      | some _ => none
      | none => some { s with reader := if s.status = .opened then .poll else .idle }
  | .poll => pollStep s .polled
  | .polled (some receipt) => some { s with reader := .copy (some receipt) }
  | .polled none =>
      match s.mutex with
      | some _ => none
      | none =>
          if s.status = .opened then
            some { s with reader := .poll }
          else
            some { s with reader := .flushTest, mutex := some .reader }
  | .copy (some receipt) => some { s with reader := .returning receipt }
  | .copy none => some { s with reader := .crashed }
  | .returning receipt => some { s with reader := .idle, returned := s.returned ++ [receipt] }
  | .flushTest =>
      if s.rQueue.items.length > 0 then
        some { s with reader := .flushPoll }
      else
        some { s with reader := .idle, mutex := none }
  | .flushPoll => pollStep s .flushCopy
  | .flushCopy (some _) => some { s with reader := .flushTest }
  | .flushCopy none => some { s with reader := .crashed }
  | .crashed => none

/-- A `poll` wakes up, finds the queue empty and returns null. -/
def readerWakes (s : State F) : Option (State F) :=
  if s.rQueue.items.length > 0 then
    none
  else
    match s.reader with
    | .poll => some { s with reader := .polled none }
    | .flushPoll => some { s with reader := .flushCopy none }
    | _ => none

def step (s : State F) : Action F → Option (State F)
  | .driverOpen nativeOk =>
      match s.mutex with
      | some _ => none
      | none =>
          if s.status = .closed ∧ nativeOk = true then
            some { s with
              status := .opened, opened := s.received, arrived := [], returned := [] }
          else
            some s
  | .driverClose =>
      match s.mutex with
      | some _ => none
      | none =>
          if s.status = .opened then
            some { s with status := .closing, mutex := some .closeOffer }
          else
            some s
  | .closeStep nativeOk =>
      match s.mutex with
      | some .closeOffer =>
          some { s with mutex := some .closeNative, rQueue := s.rQueue.offer none }
      | some .closeNative =>
          some { s with mutex := none, status := if nativeOk then .closed else s.status }
      | _ => none
  | .read =>
      match s.reader with
      | .idle => some { s with reader := .readStatus }
      | _ => none
  | .reader => readerStep s
  | .readerWakes => readerWakes s
  | .receive frame =>
      some { s with
        received := s.received + 1
        callbacks := s.callbacks ++ [⟨⟨s.received, frame⟩, false⟩] }
  | .test i =>
      match s.callbacks[i]? with
      | some ⟨receipt, false⟩ =>
          if s.status = .opened then
            some { s with callbacks := s.callbacks.set i ⟨receipt, true⟩ }
          else
            some { s with callbacks := s.callbacks.eraseIdx i }
      | _ => none
  | .deliver i =>
      match s.callbacks[i]? with
      | some ⟨receipt, true⟩ =>
          some { s with
            callbacks := s.callbacks.eraseIdx i
            rQueue := s.rQueue.offer (some receipt)
            arrived := s.arrived ++ [receipt] }
      | _ => none

/-- A new `DriverImpl`, and a thread that has not called `read` yet. -/
def new (F : Type u) : State F where
  status := .closed
  mutex := none
  rQueue := .empty 32
  reader := .idle
  callbacks := []
  received := 0
  opened := 0
  arrived := []
  returned := []

def system (F : Type u) : StepSystem (State F) (Action F) where
  initial s := s = new F
  step := step

/-! ## What one step does

One constructor for each way a step can turn out, with what it requires of the state
before. -/

/-- The front entry leaves the queue. -/
def Takes (queue queue' : BoundedFifo (Option (Receipt F))) (inFrame : Option (Receipt F)) :
    Prop :=
  queue.items = inFrame :: queue'.items ∧ queue'.cap = queue.cap

inductive Moves (s : State F) : Action F → State F → Prop where
  /-- `open` or `close` returns or throws without having changed anything. -/
  | stays (a : Action F) : Moves s a s
  | opens (free : s.mutex = none) (closed : s.status = .closed) :
      Moves s (.driverOpen true)
        { s with status := .opened, opened := s.received, arrived := [], returned := [] }
  | closes (free : s.mutex = none) (opened : s.status = .opened) :
      Moves s .driverClose { s with status := .closing, mutex := some .closeOffer }
  | offersSentinel (nativeOk : Bool) (holds : s.mutex = some .closeOffer) :
      Moves s (.closeStep nativeOk)
        { s with mutex := some .closeNative, rQueue := s.rQueue.offer none }
  | closeEnds (nativeOk : Bool) (holds : s.mutex = some .closeNative) :
      Moves s (.closeStep nativeOk)
        { s with mutex := none, status := if nativeOk then .closed else s.status }
  | calls (pc : s.reader = .idle) : Moves s .read { s with reader := .readStatus }
  | refused (pc : s.reader = .readStatus) (free : s.mutex = none) (shut : s.status ≠ .opened) :
      Moves s .reader { s with reader := .idle }
  | admitted (pc : s.reader = .readStatus ∨ s.reader = .polled none) (free : s.mutex = none)
      (opened : s.status = .opened) : Moves s .reader { s with reader := .poll }
  | polls (inFrame : Option (Receipt F)) (queue : BoundedFifo (Option (Receipt F)))
      (pc : s.reader = .poll) (takes : Takes s.rQueue queue inFrame) :
      Moves s .reader { s with reader := .polled inFrame, rQueue := queue }
  | wakes (pc : s.reader = .poll) (drained : s.rQueue.items = []) :
      Moves s .readerWakes { s with reader := .polled none }
  | tests (receipt : Receipt F) (pc : s.reader = .polled (some receipt)) :
      Moves s .reader { s with reader := .copy (some receipt) }
  | copies (receipt : Receipt F) (pc : s.reader = .copy (some receipt)) :
      Moves s .reader { s with reader := .returning receipt }
  | copiesNull (pc : s.reader = .copy none ∨ s.reader = .flushCopy none) :
      Moves s .reader { s with reader := .crashed }
  | returns (receipt : Receipt F) (pc : s.reader = .returning receipt) :
      Moves s .reader { s with reader := .idle, returned := s.returned ++ [receipt] }
  | flushes (pc : s.reader = .polled none) (free : s.mutex = none) (shut : s.status ≠ .opened) :
      Moves s .reader { s with reader := .flushTest, mutex := some .reader }
  | flushGoesOn (pc : s.reader = .flushTest) (left : s.rQueue.items ≠ []) :
      Moves s .reader { s with reader := .flushPoll }
  | flushEnds (pc : s.reader = .flushTest) (drained : s.rQueue.items = []) :
      Moves s .reader { s with reader := .idle, mutex := none }
  | flushPolls (inFrame : Option (Receipt F)) (queue : BoundedFifo (Option (Receipt F)))
      (pc : s.reader = .flushPoll) (takes : Takes s.rQueue queue inFrame) :
      Moves s .reader { s with reader := .flushCopy inFrame, rQueue := queue }
  | flushWakes (pc : s.reader = .flushPoll) (drained : s.rQueue.items = []) :
      Moves s .readerWakes { s with reader := .flushCopy none }
  | flushCopies (receipt : Receipt F) (pc : s.reader = .flushCopy (some receipt)) :
      Moves s .reader { s with reader := .flushTest }
  | receives (frame : F) :
      Moves s (.receive frame)
        { s with
          received := s.received + 1
          callbacks := s.callbacks ++ [⟨⟨s.received, frame⟩, false⟩] }
  | admits (i : Nat) (receipt : Receipt F) (callback : s.callbacks[i]? = some ⟨receipt, false⟩)
      (opened : s.status = .opened) :
      Moves s (.test i) { s with callbacks := s.callbacks.set i ⟨receipt, true⟩ }
  | discards (i : Nat) (receipt : Receipt F) (callback : s.callbacks[i]? = some ⟨receipt, false⟩) :
      Moves s (.test i) { s with callbacks := s.callbacks.eraseIdx i }
  | delivers (i : Nat) (receipt : Receipt F)
      (callback : s.callbacks[i]? = some ⟨receipt, true⟩) :
      Moves s (.deliver i)
        { s with
          callbacks := s.callbacks.eraseIdx i
          rQueue := s.rQueue.offer (some receipt)
          arrived := s.arrived ++ [receipt] }

theorem pollStep_takes {s s' : State F} {pc : Option (Receipt F) → ReadPc F}
    (h : pollStep s pc = some s') :
    ∃ inFrame queue, Takes s.rQueue queue inFrame ∧
      s' = { s with reader := pc inFrame, rQueue := queue } := by
  unfold pollStep at h
  cases hpoll : s.rQueue.poll with
  | none => simp [hpoll] at h
  | some front =>
      obtain ⟨inFrame, queue⟩ := front
      simp only [hpoll, Option.some.injEq] at h
      exact ⟨inFrame, queue, BoundedFifo.poll_eq_some hpoll, h.symm⟩

theorem readerStep_moves {s s' : State F} (h : readerStep s = some s') : Moves s .reader s' := by
  unfold readerStep at h
  cases hpc : s.reader with
  | idle => simp [hpc] at h
  | crashed => simp [hpc] at h
  | readStatus =>
      simp only [hpc] at h
      split at h
      · cases h
      · next hfree =>
        cases h
        by_cases hopened : s.status = .opened
        · rw [if_pos hopened]
          exact .admitted (.inl hpc) hfree hopened
        · rw [if_neg hopened]
          exact .refused hpc hfree hopened
  | poll =>
      simp only [hpc] at h
      obtain ⟨inFrame, queue, htakes, rfl⟩ := pollStep_takes h
      exact .polls inFrame queue hpc htakes
  | polled inFrame =>
      cases inFrame with
      | some receipt =>
          simp only [hpc, Option.some.injEq] at h
          subst h
          exact .tests receipt hpc
      | none =>
          simp only [hpc] at h
          split at h
          · cases h
          · next hfree =>
            split at h
            · next hopened =>
              cases h
              exact .admitted (.inr hpc) hfree hopened
            · next hshut =>
              cases h
              exact .flushes hpc hfree hshut
  | copy inFrame =>
      cases inFrame <;> simp only [hpc, Option.some.injEq] at h <;> subst h
      · exact .copiesNull (.inl hpc)
      · exact .copies _ hpc
  | returning receipt =>
      simp only [hpc, Option.some.injEq] at h
      subst h
      exact .returns receipt hpc
  | flushTest =>
      simp only [hpc] at h
      split at h
      · next hleft =>
        cases h
        exact .flushGoesOn hpc (List.ne_nil_of_length_pos hleft)
      · next hdrained =>
        cases h
        exact .flushEnds hpc (List.eq_nil_of_length_eq_zero (by omega))
  | flushPoll =>
      simp only [hpc] at h
      obtain ⟨inFrame, queue, htakes, rfl⟩ := pollStep_takes h
      exact .flushPolls inFrame queue hpc htakes
  | flushCopy inFrame =>
      cases inFrame <;> simp only [hpc, Option.some.injEq] at h <;> subst h
      · exact .copiesNull (.inr hpc)
      · exact .flushCopies _ hpc

theorem readerWakes_moves {s s' : State F} (h : readerWakes s = some s') :
    Moves s .readerWakes s' := by
  unfold readerWakes at h
  split at h
  · cases h
  · next hdrained =>
    have hnil : s.rQueue.items = [] := List.eq_nil_of_length_eq_zero (by omega)
    split at h
    · next hpc =>
      cases h
      exact .wakes hpc hnil
    · next hpc =>
      cases h
      exact .flushWakes hpc hnil
    · cases h

theorem step_moves {s s' : State F} {a : Action F} (h : step s a = some s') : Moves s a s' := by
  cases a with
  | driverOpen nativeOk =>
      simp only [step] at h
      split at h
      · cases h
      · next hfree =>
        split at h
        · next hopens =>
          obtain ⟨hclosed, rfl⟩ := hopens
          cases h
          exact .opens hfree hclosed
        · cases h
          exact .stays _
  | driverClose =>
      simp only [step] at h
      split at h
      · cases h
      · next hfree =>
        split at h
        · next hopened =>
          cases h
          exact .closes hfree hopened
        · cases h
          exact .stays _
  | closeStep nativeOk =>
      simp only [step] at h
      split at h
      · next hholds =>
        cases h
        exact .offersSentinel nativeOk hholds
      · next hholds =>
        cases h
        exact .closeEnds nativeOk hholds
      · cases h
  | read =>
      simp only [step] at h
      split at h
      · next hpc =>
        cases h
        exact .calls hpc
      · cases h
  | reader => exact readerStep_moves h
  | readerWakes => exact readerWakes_moves h
  | receive frame =>
      cases h
      exact .receives frame
  | test i =>
      simp only [step] at h
      split at h
      · next receipt hcallback =>
        split at h
        · next hopened =>
          cases h
          exact .admits i receipt hcallback hopened
        · cases h
          exact .discards i receipt hcallback
      · cases h
  | deliver i =>
      simp only [step] at h
      split at h
      · next receipt hcallback =>
        cases h
        exact .delivers i receipt hcallback
      · cases h

end Sessions

end HdmiCec
