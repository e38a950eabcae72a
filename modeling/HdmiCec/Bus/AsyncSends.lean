import HdmiCec.Core.Exception
import HdmiCec.Library.BoundedFifo
import HdmiCec.Osal.Stoppable

/-!
# Asynchronous sends

`Bus::sendAsync` copies the frame to the heap and offers the pointer to `wQueue`;
`Bus::Writer::run` polls it, hands the copy to `Driver::write` and deletes it.  Any
threads call `sendAsync`, `Bus::start` and `Bus::stop`, and one thread at a time runs the
writer.  Whoever holds `wMutex` is inside one of the three calls; `Bus::stop` holds it
from its first statement to its last.

A copy on the heap is known by its number in the order of allocation.  The state keeps
what happened to the copies of the session: `accepted` are those that the queue has taken,
`written` those that `Driver::write` was called with.  A session begins with a `Bus::start`
behind a `Bus::stop`; what is still under way then counts as accepted.
-/

universe u

namespace HdmiCec

namespace AsyncSends

/-- A `CECFrame` that `sendAsync` has allocated. -/
structure Copy (F : Type u) where
  number : Nat
  frame : F
  deriving DecidableEq

/-- Where `Bus::stop` is. -/
inductive StopPc where
  /-- In `reader.stop(true)`. -/
  | reader
  /-- The rest is `writer.stop(true)`: the test of `isRunning`. -/
  | test
  | stopStarted
  | set
  | offer
  /-- The loop `while (!isStopped())`. -/
  | wait
  deriving DecidableEq

/-- Where the holder of `wMutex` is. -/
inductive Holder (F : Type u) where
  /-- In `sendAsync`, before the test of `started`. -/
  | sendTest (frame : F)
  | sendAllocate (frame : F)
  | sendOffer (copyFrame : Copy F)
  | stop (pc : StopPc)
  deriving DecidableEq

/-- Where the writer thread is in `Bus::Writer::run`. -/
inductive WriterPc (F : Type u) where
  | entry
  | starting
  | poll
  /-- `poll` has returned; the test of `outFrame` is next. -/
  | polled (outFrame : Option (Copy F))
  /-- In `Driver::write(*outFrame)`. -/
  | write (outFrame : Copy F)
  /-- Behind the `try` block and its clauses, before `delete outFrame`. -/
  | delete (outFrame : Option (Copy F))
  /-- The condition of the `do` loop. -/
  | test
  /-- The condition of the `if` behind it. -/
  | retest
  | flushTest
  | flushPoll
  | flushDelete (outFrame : Option (Copy F))
  | completing
  | done
  /-- An exception that is not of the library has left `run`. -/
  | terminated (outFrame : Copy F)
  deriving DecidableEq

/-- The bus between two steps, as far as its writing side goes.  `stopped` says that
`Bus::stop` has been called in the session. -/
structure State (F : Type u) where
  started : Bool
  wMutex : Option (Holder F)
  state : Stoppable
  writer : WriterPc F
  wQueue : BoundedFifo (Option (Copy F))
  allocated : Nat
  stopped : Bool
  accepted : List (Copy F)
  written : List (Copy F)
  deleted : List Nat

/-- Who takes the next step.  `ok` is whether the calls of the driver and of the reader in
it succeed, and `thrown` what `Driver::write` throws. -/
inductive Action (F : Type u) where
  | sendAsync (frame : F)
  | start (ok : Bool)
  | stop
  | holder (ok : Bool)
  | writer (thrown : Option Exception)
  | writerWakes
  deriving DecidableEq

variable {F : Type u}

/-- The frames among the entries of the queue; the others are sentinels. -/
def frames (entries : List (Option (Copy F))) : List (Copy F) := entries.filterMap id

/-- The copy that the writer has polled and not yet handed to `Driver::write`. -/
def WriterPc.held : WriterPc F → List (Copy F)
  | .polled (some outFrame) => [outFrame]
  | _ => []

/-! ## The steps -/

/-- `wQueue.poll()` takes the front entry. -/
def pollStep (s : State F) (pc : Option (Copy F) → WriterPc F) : Option (State F) :=
  match s.wQueue.poll with
  | none => none
  | some (outFrame, rest) => some { s with writer := pc outFrame, wQueue := rest }

/-- `delete outFrame`, which does nothing to a null pointer. -/
def deleteStep (s : State F) (outFrame : Option (Copy F)) (pc : WriterPc F) : State F :=
  { s with writer := pc, deleted := s.deleted ++ (outFrame.map Copy.number).toList }

/-- The next step of `Writer::run`. -/
def writerStep (s : State F) (thrown : Option Exception) : Option (State F) :=
  match s.writer with
  | .entry => some { s with writer := if s.state.isStopped then .starting else .poll }
  | .starting => some { s with writer := .poll, state := .runStarted }
  | .poll => pollStep s .polled
  | .polled (some outFrame) =>
      some { s with writer := .write outFrame, written := s.written ++ [outFrame] }
  -- the sentinel: `throw InvalidStateException()`, which the first clause catches
  | .polled none => some { s with writer := .delete none }
  | .write outFrame =>
      match thrown with
      | none => some { s with writer := .delete (some outFrame) }
      | some e =>
          if e = .invalidStateException then
            some { s with writer := .delete (some outFrame) }
          else if e.isCCEC then
            some { s with writer := .delete (some outFrame) }
          else
            some { s with writer := .terminated outFrame }
  | .delete outFrame => some (deleteStep s outFrame .test)
  | .test => some { s with writer := if s.state.isRunning then .poll else .retest }
  | .retest => some { s with writer := if s.state.isRunning then .completing else .flushTest }
  | .flushTest =>
      some { s with writer := if s.wQueue.items.length > 0 then .flushPoll else .completing }
  | .flushPoll => pollStep s .flushDelete
  | .flushDelete outFrame => some (deleteStep s outFrame .flushTest)
  | .completing => some { s with writer := .done, state := .stopCompleted }
  | .done | .terminated _ => none

/-- A `poll` wakes up, finds the queue empty and returns null. -/
def writerWakes (s : State F) : Option (State F) :=
  if s.wQueue.items.length > 0 then
    none
  else
    match s.writer with
    | .poll => some { s with writer := .polled none }
    | .flushPoll => some { s with writer := .flushDelete none }
    | _ => none

/-- The next step of the holder of `wMutex`. -/
def holderStep (s : State F) (ok : Bool) : Option (State F) :=
  match s.wMutex with
  | none => none
  | some (.sendTest frame) =>
      some { s with wMutex := if s.started then some (.sendAllocate frame) else none }
  | some (.sendAllocate frame) =>
      some { s with
        wMutex := some (.sendOffer ⟨s.allocated, frame⟩), allocated := s.allocated + 1 }
  | some (.sendOffer copyFrame) =>
      some { s with
        wMutex := none
        wQueue := s.wQueue.offer (some copyFrame)
        accepted := if s.wQueue.items.length < s.wQueue.cap then
            s.accepted ++ [copyFrame]
          else
            s.accepted }
  -- an `IOException` of the driver leaves `Bus::stop`
  | some (.stop .reader) => some { s with wMutex := if ok then some (.stop .test) else none }
  | some (.stop .test) =>
      some { s with
        wMutex := some (.stop (if s.state.isRunning then .stopStarted else .wait)) }
  | some (.stop .stopStarted) =>
      some { s with wMutex := some (.stop (if s.state.isRunning then .set else .offer)) }
  | some (.stop .set) => some { s with wMutex := some (.stop .offer), state := .stopStarted }
  | some (.stop .offer) =>
      some { s with wMutex := some (.stop .wait), wQueue := s.wQueue.offer none }
  | some (.stop .wait) => if s.state.isStopped then some { s with wMutex := none } else none

/-- A session begins; copies that are under way are part of it. -/
def beginSession (s : State F) : State F :=
  { s with
    started := true
    stopped := false
    accepted := s.writer.held ++ frames s.wQueue.items
    written := [] }

/-- The end of `Bus::start`: `Driver::open`, and `started = true` if it returns. -/
def openDriver (s : State F) (ok : Bool) : State F :=
  if ok then if s.stopped then beginSession s else { s with started := true } else s

section

variable (s : State F) (ok : Bool)

theorem openDriver_cases :
    openDriver s ok = s ∨ openDriver s ok = beginSession s ∨
      openDriver s ok = { s with started := true } := by
  unfold openDriver
  split
  · split
    · exact .inr (.inl rfl)
    · exact .inr (.inr rfl)
  · exact .inl rfl

@[simp] theorem openDriver_wMutex : (openDriver s ok).wMutex = s.wMutex := by
  obtain h | h | h := openDriver_cases s ok <;> rw [h] <;> rfl

@[simp] theorem openDriver_state : (openDriver s ok).state = s.state := by
  obtain h | h | h := openDriver_cases s ok <;> rw [h] <;> rfl

@[simp] theorem openDriver_writer : (openDriver s ok).writer = s.writer := by
  obtain h | h | h := openDriver_cases s ok <;> rw [h] <;> rfl

@[simp] theorem openDriver_wQueue : (openDriver s ok).wQueue = s.wQueue := by
  obtain h | h | h := openDriver_cases s ok <;> rw [h] <;> rfl

@[simp] theorem openDriver_allocated : (openDriver s ok).allocated = s.allocated := by
  obtain h | h | h := openDriver_cases s ok <;> rw [h] <;> rfl

@[simp] theorem openDriver_deleted : (openDriver s ok).deleted = s.deleted := by
  obtain h | h | h := openDriver_cases s ok <;> rw [h] <;> rfl

/-- A session that begins has not been stopped. -/
theorem openDriver_live (h : s.stopped = false) : (openDriver s ok).stopped = false := by
  obtain heq | heq | heq := openDriver_cases s ok <;> rw [heq]
  · exact h
  · rfl
  · exact h

end

/-- `Bus::start()`, which holds `wMutex` for its whole body.  A new writer is created when
the last one has returned. -/
def startStep (s : State F) (ok : Bool) : Option (State F) :=
  match s.wMutex with
  | some _ => none
  | none =>
      if s.state.isStopped then
        match s.writer with
        | .done => some (openDriver { s with writer := .entry } ok)
        | _ => none
      else
        some (openDriver s ok)

def step (s : State F) : Action F → Option (State F)
  | .sendAsync frame =>
      match s.wMutex with
      | some _ => none
      | none => some { s with wMutex := some (.sendTest frame) }
  | .start ok => startStep s ok
  | .stop =>
      match s.wMutex with
      | some _ => none
      | none => some { s with wMutex := some (.stop .reader), started := false, stopped := true }
  | .holder ok => holderStep s ok
  | .writer thrown => writerStep s thrown
  | .writerWakes => writerWakes s

/-- The bus when its constructor has returned: the first writer has been created. -/
def new (F : Type u) : State F where
  started := false
  wMutex := none
  state := .running
  writer := .entry
  wQueue := .empty 32
  allocated := 0
  stopped := false
  accepted := []
  written := []
  deleted := []

def system (F : Type u) : StepSystem (State F) (Action F) where
  initial s := s = new F
  step := step

/-! ## What one step does -/

/-- The copies that the writer has in its hands, and has not deleted. -/
def WriterPc.hand : WriterPc F → List (Copy F)
  | .polled outFrame | .delete outFrame | .flushDelete outFrame => outFrame.toList
  | .write outFrame | .terminated outFrame => [outFrame]
  | _ => []

/-- The steps of the writer that change nothing but its place. -/
inductive Follows (state : Stoppable) : WriterPc F → WriterPc F → Prop where
  | restarts (stopped : state = .stopped) : Follows state .entry .starting
  | enters (notStopped : state ≠ .stopped) : Follows state .entry .poll
  | wakes : Follows state .poll (.polled none)
  | sentinel : Follows state (.polled none) (.delete none)
  | returns (outFrame : Copy F) : Follows state (.write outFrame) (.delete (some outFrame))
  | escapes (outFrame : Copy F) : Follows state (.write outFrame) (.terminated outFrame)
  | loops (running : state = .running) : Follows state .test .poll
  | leaves (notRunning : state ≠ .running) : Follows state .test .retest
  | skips (running : state = .running) : Follows state .retest .completing
  | flushes (notRunning : state ≠ .running) : Follows state .retest .flushTest
  | flushGoesOn : Follows state .flushTest .flushPoll
  | flushEnds : Follows state .flushTest .completing
  | flushWakes : Follows state .flushPoll (.flushDelete none)

/-- The front entry leaves the queue. -/
def Takes (queue queue' : BoundedFifo (Option (Copy F))) (outFrame : Option (Copy F)) : Prop :=
  queue.items = outFrame :: queue'.items ∧ queue'.cap = queue.cap

inductive Moves (s : State F) : Action F → State F → Prop where
  | calls (frame : F) (free : s.wMutex = none) :
      Moves s (.sendAsync frame) { s with wMutex := some (.sendTest frame) }
  | refused (ok : Bool) (frame : F) (holds : s.wMutex = some (.sendTest frame)) :
      Moves s (.holder ok) { s with wMutex := none }
  | admitted (ok : Bool) (frame : F) (holds : s.wMutex = some (.sendTest frame)) :
      Moves s (.holder ok) { s with wMutex := some (.sendAllocate frame) }
  | allocates (ok : Bool) (frame : F) (holds : s.wMutex = some (.sendAllocate frame)) :
      Moves s (.holder ok)
        { s with
          wMutex := some (.sendOffer ⟨s.allocated, frame⟩), allocated := s.allocated + 1 }
  | accepts (ok : Bool) (copyFrame : Copy F) (holds : s.wMutex = some (.sendOffer copyFrame))
      (room : s.wQueue.items.length < s.wQueue.cap) :
      Moves s (.holder ok)
        { s with
          wMutex := none
          wQueue := s.wQueue.offer (some copyFrame)
          accepted := s.accepted ++ [copyFrame] }
  | drops (ok : Bool) (copyFrame : Copy F) (holds : s.wMutex = some (.sendOffer copyFrame))
      (full : s.wQueue.cap ≤ s.wQueue.items.length) :
      Moves s (.holder ok) { s with wMutex := none }
  | starts (ok : Bool) (pc : WriterPc F) (free : s.wMutex = none)
      (creates : s.state ≠ .stopped ∧ pc = s.writer ∨
        s.state = .stopped ∧ s.writer = .done ∧ pc = .entry) :
      Moves s (.start ok) (openDriver { s with writer := pc } ok)
  | stops (free : s.wMutex = none) :
      Moves s .stop { s with wMutex := some (.stop .reader), started := false, stopped := true }
  /-- `Bus::stop` goes on, or is left. -/
  | stopGoes (ok : Bool) (pc : StopPc) (next : Option StopPc)
      (holds : s.wMutex = some (.stop pc)) (before : pc ≠ .offer)
      (marking : next = some .set → s.state = .running)
      (leaving : next = none → pc = .wait → s.state = .stopped)
      (waiting : pc = .wait → next = none) :
      Moves s (.holder ok) { s with wMutex := next.map .stop }
  | marks (ok : Bool) (holds : s.wMutex = some (.stop .set)) :
      Moves s (.holder ok) { s with wMutex := some (.stop .offer), state := .stopping }
  | offersSentinel (ok : Bool) (holds : s.wMutex = some (.stop .offer)) :
      Moves s (.holder ok) { s with wMutex := some (.stop .wait), wQueue := s.wQueue.offer none }
  | follows (a : Action F) (pc : WriterPc F) (edge : Follows s.state s.writer pc) :
      Moves s a { s with writer := pc }
  | runs (thrown : Option Exception) (starting : s.writer = .starting) :
      Moves s (.writer thrown) { s with writer := .poll, state := .running }
  | polls (thrown : Option Exception) (outFrame : Option (Copy F))
      (queue : BoundedFifo (Option (Copy F))) (polling : s.writer = .poll)
      (takes : Takes s.wQueue queue outFrame) :
      Moves s (.writer thrown) { s with writer := .polled outFrame, wQueue := queue }
  | flushPolls (thrown : Option Exception) (outFrame : Option (Copy F))
      (queue : BoundedFifo (Option (Copy F))) (polling : s.writer = .flushPoll)
      (takes : Takes s.wQueue queue outFrame) :
      Moves s (.writer thrown) { s with writer := .flushDelete outFrame, wQueue := queue }
  | hands (thrown : Option Exception) (outFrame : Copy F)
      (polled : s.writer = .polled (some outFrame)) :
      Moves s (.writer thrown)
        { s with writer := .write outFrame, written := s.written ++ [outFrame] }
  | deletes (thrown : Option Exception) (outFrame : Option (Copy F)) (pc : WriterPc F)
      (place : s.writer = .delete outFrame ∧ pc = .test ∨
        s.writer = .flushDelete outFrame ∧ pc = .flushTest) :
      Moves s (.writer thrown) (deleteStep s outFrame pc)
  | completes (thrown : Option Exception) (completing : s.writer = .completing) :
      Moves s (.writer thrown) { s with writer := .done, state := .stopped }

theorem pollStep_takes {s s' : State F} {pc : Option (Copy F) → WriterPc F}
    (h : pollStep s pc = some s') :
    ∃ outFrame queue, Takes s.wQueue queue outFrame ∧
      s' = { s with writer := pc outFrame, wQueue := queue } := by
  unfold pollStep at h
  cases hpoll : s.wQueue.poll with
  | none => simp [hpoll] at h
  | some front =>
      obtain ⟨outFrame, queue⟩ := front
      simp only [hpoll, Option.some.injEq] at h
      exact ⟨outFrame, queue, BoundedFifo.poll_eq_some hpoll, h.symm⟩

theorem writerStep_moves {s s' : State F} {thrown : Option Exception}
    (h : writerStep s thrown = some s') : Moves s (.writer thrown) s' := by
  unfold writerStep at h
  cases hwriter : s.writer with
  | entry =>
      simp only [hwriter, Stoppable.isStopped_iff] at h
      split at h
      · next hstopped =>
        cases h
        exact .follows _ _ (hwriter ▸ .restarts hstopped)
      · next hnot =>
        cases h
        exact .follows _ _ (hwriter ▸ .enters hnot)
  | starting =>
      simp only [hwriter, Option.some.injEq] at h
      subst h
      exact .runs thrown hwriter
  | poll =>
      simp only [hwriter] at h
      obtain ⟨outFrame, queue, htakes, rfl⟩ := pollStep_takes h
      exact .polls thrown outFrame queue hwriter htakes
  | polled outFrame =>
      cases outFrame with
      | none =>
          simp only [hwriter, Option.some.injEq] at h
          subst h
          exact .follows _ _ (hwriter ▸ .sentinel)
      | some copyFrame =>
          simp only [hwriter, Option.some.injEq] at h
          subst h
          exact .hands thrown copyFrame hwriter
  | write outFrame =>
      have hreturns : Moves s (.writer thrown) { s with writer := .delete (some outFrame) } :=
        .follows _ _ (hwriter ▸ .returns outFrame)
      cases thrown with
      | none =>
          simp only [hwriter, Option.some.injEq] at h
          subst h
          exact hreturns
      | some e =>
          simp only [hwriter] at h
          split at h
          · cases h
            exact hreturns
          · split at h
            · cases h
              exact hreturns
            · cases h
              exact .follows _ _ (hwriter ▸ .escapes outFrame)
  | delete outFrame =>
      simp only [hwriter, Option.some.injEq] at h
      subst h
      exact .deletes thrown outFrame _ (.inl ⟨hwriter, rfl⟩)
  | test =>
      simp only [hwriter, Stoppable.isRunning_iff] at h
      split at h
      · next hrunning =>
        cases h
        exact .follows _ _ (hwriter ▸ .loops hrunning)
      · next hnot =>
        cases h
        exact .follows _ _ (hwriter ▸ .leaves hnot)
  | retest =>
      simp only [hwriter, Stoppable.isRunning_iff] at h
      split at h
      · next hrunning =>
        cases h
        exact .follows _ _ (hwriter ▸ .skips hrunning)
      · next hnot =>
        cases h
        exact .follows _ _ (hwriter ▸ .flushes hnot)
  | flushTest =>
      simp only [hwriter] at h
      split at h
      · cases h
        exact .follows _ _ (hwriter ▸ .flushGoesOn)
      · cases h
        exact .follows _ _ (hwriter ▸ .flushEnds)
  | flushPoll =>
      simp only [hwriter] at h
      obtain ⟨outFrame, queue, htakes, rfl⟩ := pollStep_takes h
      exact .flushPolls thrown outFrame queue hwriter htakes
  | flushDelete outFrame =>
      simp only [hwriter, Option.some.injEq] at h
      subst h
      exact .deletes thrown outFrame _ (.inr ⟨hwriter, rfl⟩)
  | completing =>
      simp only [hwriter, Option.some.injEq] at h
      subst h
      exact .completes thrown hwriter
  | done | terminated => simp [hwriter] at h

theorem writerWakes_moves {s s' : State F} (h : writerWakes s = some s') :
    Moves s .writerWakes s' := by
  unfold writerWakes at h
  split at h
  · cases h
  · split at h
    · next hwriter =>
      cases h
      exact .follows _ _ (hwriter ▸ .wakes)
    · next hwriter =>
      cases h
      exact .follows _ _ (hwriter ▸ .flushWakes)
    · cases h

theorem stopStep_moves {s s' : State F} {ok : Bool} {pc : StopPc}
    (holds : s.wMutex = some (.stop pc)) (h : holderStep s ok = some s') :
    Moves s (.holder ok) s' := by
  unfold holderStep at h
  cases pc with
  | reader =>
      simp only [holds, Option.some.injEq] at h
      subst h
      cases ok with
      | true => exact .stopGoes true .reader (some .test) holds nofun nofun nofun nofun
      | false => exact .stopGoes false .reader none holds nofun nofun nofun nofun
  | test =>
      simp only [holds, Option.some.injEq] at h
      subst h
      by_cases hrunning : s.state.isRunning = true
      · rw [if_pos hrunning]
        exact .stopGoes ok .test (some .stopStarted) holds nofun nofun nofun nofun
      · rw [if_neg hrunning]
        exact .stopGoes ok .test (some .wait) holds nofun nofun nofun nofun
  | stopStarted =>
      simp only [holds, Option.some.injEq] at h
      subst h
      by_cases hrunning : s.state.isRunning = true
      · rw [if_pos hrunning]
        have hmarking := (Stoppable.isRunning_iff s.state).mp hrunning
        exact .stopGoes ok .stopStarted (some .set) holds nofun (fun _ => hmarking) nofun nofun
      · rw [if_neg hrunning]
        exact .stopGoes ok .stopStarted (some .offer) holds nofun nofun nofun nofun
  | set =>
      simp only [holds, Option.some.injEq] at h
      subst h
      exact .marks ok holds
  | offer =>
      simp only [holds, Option.some.injEq] at h
      subst h
      exact .offersSentinel ok holds
  | wait =>
      simp only [holds] at h
      split at h
      · next hstopped =>
        cases h
        have hleaving := (Stoppable.isStopped_iff s.state).mp hstopped
        exact .stopGoes ok .wait none holds nofun nofun (fun _ _ => hleaving) (fun _ => rfl)
      · cases h

theorem holderStep_moves {s s' : State F} {ok : Bool} (h : holderStep s ok = some s') :
    Moves s (.holder ok) s' := by
  cases hholds : s.wMutex with
  | none => simp [holderStep, hholds] at h
  | some holder =>
      cases holder with
      | sendTest frame =>
          simp only [holderStep, hholds, Option.some.injEq] at h
          subst h
          by_cases hstarted : s.started = true
          · rw [if_pos hstarted]
            exact .admitted ok frame hholds
          · rw [if_neg hstarted]
            exact .refused ok frame hholds
      | sendAllocate frame =>
          simp only [holderStep, hholds, Option.some.injEq] at h
          subst h
          exact .allocates ok frame hholds
      | sendOffer copyFrame =>
          simp only [holderStep, hholds, Option.some.injEq] at h
          subst h
          by_cases hroom : s.wQueue.items.length < s.wQueue.cap
          · rw [if_pos hroom]
            exact .accepts ok copyFrame hholds hroom
          · have hfull := Nat.le_of_not_lt hroom
            rw [if_neg hroom, BoundedFifo.offer_full _ hfull]
            exact .drops ok copyFrame hholds hfull
      | stop pc => exact stopStep_moves hholds h

theorem step_moves {s s' : State F} {a : Action F} (h : step s a = some s') : Moves s a s' := by
  cases a with
  | sendAsync frame =>
      simp only [step] at h
      split at h
      · cases h
      · next hfree =>
        cases h
        exact .calls frame hfree
  | start ok =>
      simp only [step, startStep] at h
      split at h
      · cases h
      · next hfree =>
        split at h
        · next hstopped =>
          split at h
          · next hdone =>
            cases h
            have hstate := (Stoppable.isStopped_iff s.state).mp hstopped
            exact .starts ok .entry hfree (.inr ⟨hstate, hdone, rfl⟩)
          · cases h
        · next hnot =>
          cases h
          have hstate : s.state ≠ .stopped := fun hstopped =>
            hnot ((Stoppable.isStopped_iff s.state).mpr hstopped)
          exact .starts ok s.writer hfree (.inl ⟨hstate, rfl⟩)
  | stop =>
      simp only [step] at h
      split at h
      · cases h
      · next hfree =>
        cases h
        exact .stops hfree
  | holder ok => exact holderStep_moves h
  | writer thrown => exact writerStep_moves h
  | writerWakes => exact writerWakes_moves h

/-! ## The state and the place of the thread -/

/-- Which state of the `Stoppable` goes with a place of the thread. -/
def Fits (state : Stoppable) : WriterPc F → Prop
  | .entry | .terminated _ => True
  | .starting | .done => state = .stopped
  | .poll | .polled _ | .write _ | .delete _ | .test => state ≠ .stopped
  | .retest | .flushTest | .flushPoll | .flushDelete _ | .completing => state = .stopping

/-- Until `Bus::stop` is called nobody makes the writer leave its loop. -/
structure Control (s : State F) : Prop where
  fits : Fits s.state s.writer
  marking : s.wMutex = some (.stop .set) → s.state = .running
  stopping : s.state = .stopping → s.wMutex = some (.stop .offer) ∨ s.wMutex = some (.stop .wait)
  live : s.stopped = false → ∀ pc, s.wMutex ≠ some (.stop pc)

theorem Follows.fits {state : Stoppable} {pc pc' : WriterPc F} (h : Follows state pc pc')
    (hfits : Fits state pc) : Fits state pc' := by
  cases h with
  | restarts hstopped => exact hstopped
  | enters hnot => exact hnot
  | leaves hnot =>
      cases state with
      | running => exact absurd rfl hnot
      | stopping => rfl
      | stopped => exact absurd rfl hfits
  | escapes => trivial
  | loops hrunning | skips hrunning => exact hfits
  | wakes | sentinel | returns | flushes | flushGoesOn | flushEnds | flushWakes => exact hfits

theorem Fits.marked {pc : WriterPc F} (h : Fits .running pc) : Fits .stopping pc := by
  cases pc <;> simp_all [Fits]

theorem new_control : Control (new F) := ⟨trivial, nofun, nofun, fun _ => nofun⟩

theorem openDriver_control {s : State F} {ok : Bool} (h : Control s) (hfree : s.wMutex = none) :
    Control (openDriver s ok) := by
  refine ⟨by simpa using h.fits, ?_, by simpa using h.stopping, ?_⟩
  · rw [openDriver_wMutex, hfree]
    nofun
  · rw [openDriver_wMutex, hfree]
    exact fun _ => nofun

/-- The writer is only told to stop by a holder of `wMutex` that is in `Bus::stop`. -/
theorem Control.not_stopping {s : State F} (h : Control s)
    (hother : ∀ pc, s.wMutex ≠ some (.stop pc)) : s.state ≠ .stopping := by
  intro hstate
  rcases h.stopping hstate with hoffer | hwait
  · exact hother _ hoffer
  · exact hother _ hwait

theorem step_control {s s' : State F} {a : Action F} (h : Control s) (hmove : Moves s a s') :
    Control s' := by
  have hsends {holder : Holder F} (hholds : s.wMutex = some holder)
      (hother : ∀ pc, holder ≠ .stop pc) : s.state ≠ .stopping := by
    refine h.not_stopping ?_
    rw [hholds]
    exact fun pc heq => hother pc (Option.some.inj heq)
  obtain ⟨hfits, hmarking, hstopping, hlive⟩ := id h
  cases hmove with
  | calls frame hfree =>
      have hnot := h.not_stopping (by rw [hfree]; nofun)
      exact ⟨hfits, nofun, fun hstate => absurd hstate hnot, fun _ => nofun⟩
  | refused ok frame hholds | drops ok copyFrame hholds | admitted ok frame hholds
  | allocates ok frame hholds | accepts ok copyFrame hholds =>
      exact ⟨hfits, nofun, fun hstate => absurd hstate (hsends hholds nofun), fun _ => nofun⟩
  | starts ok pc hfree hcreates =>
      refine openDriver_control ⟨?_, hmarking, hstopping, hlive⟩ hfree
      rcases hcreates with ⟨-, rfl⟩ | ⟨-, -, rfl⟩
      · exact hfits
      · trivial
  | stops hfree =>
      have hnot := h.not_stopping (by rw [hfree]; nofun)
      exact ⟨hfits, nofun, fun hstate => absurd hstate hnot, nofun⟩
  | stopGoes ok pc next hholds hbefore hmark hleaving hwaiting =>
      refine ⟨hfits, fun hset => ?_, fun hstate => ?_, fun hnot => absurd hholds (hlive hnot pc)⟩
      · cases next with
        | none => cases hset
        | some pc' => cases hset; exact hmark rfl
      · -- a stopping writer is waited for until it has stopped
        rcases hstopping hstate with hoffer | hwait
        · rw [hholds] at hoffer
          cases hoffer
          exact absurd rfl hbefore
        · rw [hholds] at hwait
          cases hwait
          have hstopped := hleaving (hwaiting rfl) rfl
          change s.state = .stopping at hstate
          rw [hstopped] at hstate
          cases hstate
  | marks ok hholds =>
      have hrunning := hmarking hholds
      rw [hrunning] at hfits
      exact ⟨hfits.marked, nofun, fun _ => .inl rfl, fun hnot => absurd hholds (hlive hnot _)⟩
  | offersSentinel ok hholds =>
      exact ⟨hfits, nofun, fun _ => .inr rfl, fun hnot => absurd hholds (hlive hnot _)⟩
  | follows a pc hedge => exact ⟨hedge.fits hfits, hmarking, hstopping, hlive⟩
  | runs thrown hstarting => exact ⟨nofun, fun _ => rfl, nofun, hlive⟩
  | polls thrown outFrame queue hpolling =>
      rw [hpolling] at hfits
      exact ⟨hfits, hmarking, hstopping, hlive⟩
  | flushPolls thrown outFrame queue hpolling =>
      rw [hpolling] at hfits
      exact ⟨hfits, hmarking, hstopping, hlive⟩
  | hands thrown outFrame hpolled =>
      rw [hpolled] at hfits
      exact ⟨hfits, hmarking, hstopping, hlive⟩
  | deletes thrown outFrame pc hplace =>
      rcases hplace with ⟨hdelete, rfl⟩ | ⟨hdelete, rfl⟩ <;> rw [hdelete] at hfits <;>
        exact ⟨hfits, hmarking, hstopping, hlive⟩
  | completes thrown hcompleting =>
      rw [hcompleting] at hfits
      refine ⟨rfl, fun hset => ?_, nofun, hlive⟩
      rw [hmarking hset] at hfits
      cases hfits

theorem reachable_control {ok : State F → Action F → Prop} {s : State F}
    (h : (system F).Reachable ok s) : Control s := by
  refine h.invariant ?_ ?_
  · rintro s rfl
    exact new_control
  · intro s a s' _ hs _ hstep
    exact step_control hs (step_moves hstep)

/-! ## In order, and once each -/

/-- Until `Bus::stop` is called, what was handed to `Driver::write`, what the writer has
polled, and what is in the queue make up what the queue has accepted. -/
def InOrder (s : State F) : Prop :=
  s.stopped = false → s.written ++ s.writer.held ++ frames s.wQueue.items = s.accepted

theorem frames_cons (entry : Option (Copy F)) (rest : List (Option (Copy F))) :
    frames (entry :: rest) = entry.toList ++ frames rest := by
  cases entry <;> rfl

theorem frames_append (entries rest : List (Option (Copy F))) :
    frames (entries ++ rest) = frames entries ++ frames rest := List.filterMap_append

theorem held_polled (outFrame : Option (Copy F)) :
    (WriterPc.polled outFrame).held = outFrame.toList := by
  cases outFrame <;> rfl

/-- Between two steps that change its place only, the writer has nothing polled. -/
theorem Follows.held {state : Stoppable} {pc pc' : WriterPc F} (h : Follows state pc pc') :
    pc'.held = pc.held := by
  cases h <;> rfl

/-- The writer is in its flush only behind a call of `Bus::stop`. -/
theorem Control.flushing {s : State F} (h : Control s) (hstopping : s.state = .stopping) :
    s.stopped = true := by
  rw [← Bool.not_eq_false]
  intro hlive
  exact h.not_stopping (h.live hlive) hstopping

theorem openDriver_inOrder {s : State F} (h : InOrder s) (ok : Bool) :
    InOrder (openDriver s ok) := by
  obtain heq | heq | heq := openDriver_cases s ok <;> rw [heq]
  · exact h
  · intro _
    simp [beginSession]
  · exact h

theorem step_inOrder {s s' : State F} {a : Action F} (hcontrol : Control s) (h : InOrder s)
    (hmove : Moves s a s') : InOrder s' := by
  cases hmove with
  | calls | refused | admitted | allocates | drops | stopGoes | marks => exact h
  | accepts ok copyFrame hholds hroom =>
      intro hlive
      have horder := h hlive
      show s.written ++ s.writer.held ++ frames (s.wQueue.offer (some copyFrame)).items =
        s.accepted ++ [copyFrame]
      rw [BoundedFifo.offer_room _ hroom, frames_append, ← List.append_assoc, horder]
      rfl
  | starts ok pc hfree hcreates =>
      refine openDriver_inOrder ?_ ok
      rcases hcreates with ⟨-, rfl⟩ | ⟨-, hdone, rfl⟩
      · exact h
      · intro hlive
        have horder := h hlive
        rw [hdone] at horder
        exact horder
  | stops => exact nofun
  | offersSentinel ok hholds => exact fun hlive => absurd hholds (hcontrol.live hlive _)
  | follows a pc hedge =>
      intro hlive
      have horder := h hlive
      rw [← hedge.held] at horder
      exact horder
  | runs thrown hstarting =>
      intro hlive
      have horder := h hlive
      rw [hstarting] at horder
      exact horder
  | polls thrown outFrame queue hpolling htakes =>
      intro hlive
      have horder := h hlive
      rw [hpolling, htakes.1, frames_cons] at horder
      show s.written ++ (WriterPc.polled outFrame).held ++ frames queue.items = s.accepted
      rw [held_polled, ← horder]
      simp [WriterPc.held]
  | flushPolls thrown outFrame queue hpolling =>
      intro hlive
      have hfits := hcontrol.fits
      rw [hpolling] at hfits
      rw [hcontrol.flushing hfits] at hlive
      cases hlive
  | hands thrown outFrame hpolled =>
      intro hlive
      have horder := h hlive
      rw [hpolled] at horder
      show s.written ++ [outFrame] ++ [] ++ frames s.wQueue.items = s.accepted
      rw [List.append_nil]
      exact horder
  | deletes thrown outFrame pc hplace =>
      intro hlive
      have horder := h hlive
      rcases hplace with ⟨hdelete, rfl⟩ | ⟨hdelete, rfl⟩ <;> rw [hdelete] at horder <;>
        exact horder
  | completes thrown hcompleting =>
      intro hlive
      have horder := h hlive
      rw [hcompleting] at horder
      exact horder

/-- In every session, until `Bus::stop` is called, the copies that `Driver::write` was
called with, then the one the writer has polled, then those in `wQueue`, are the copies that
`wQueue` has accepted, in the order in which it has. -/
theorem sends_in_order {s : State F} (h : (system F).Reachable StepSystem.unguarded s)
    (hlive : s.stopped = false) :
    s.written ++ s.writer.held ++ frames s.wQueue.items = s.accepted := by
  have horder : InOrder s := by
    refine h.invariant ?_ ?_
    · rintro s rfl
      exact fun _ => rfl
    · intro s a s' hreach hs _ hstep
      exact step_inOrder (reachable_control hreach) hs (step_moves hstep)
  exact horder hlive

/-- `sendAsync`, from the lock to the offer. -/
def sendCall (frame : F) : List (Action F) :=
  [.sendAsync frame, .holder true, .holder true, .holder true]

/-- Three sends: the first was written without success, the second is in the writer's
hands and the third in the queue. -/
theorem sends_in_order_failing :
    ∃ s : State Nat, (system Nat).Reachable StepSystem.unguarded s ∧ s.stopped = false ∧
      s.written.map Copy.frame = [10] ∧ s.writer.held.map Copy.frame = [20] ∧
      (frames s.wQueue.items).map Copy.frame = [30] ∧
      s.accepted.map Copy.frame = [10, 20, 30] := by
  obtain ⟨s, hreach, hlive, hwritten, hheld, hqueued⟩ :=
    (system Nat).exists_reachable_of_run StepSystem.unguarded (new Nat)
      ([.start true, .writer none] ++ sendCall 10 ++ sendCall 20 ++
        [.writer none, .writer none, .writer (some .ioException), .writer none, .writer none,
          .writer none] ++ sendCall 30)
      (fun s => s.stopped = false ∧ s.written.map Copy.frame = [10] ∧
        s.writer.held.map Copy.frame = [20] ∧
        (frames s.wQueue.items).map Copy.frame = [30]) rfl (by decide +kernel)
  refine ⟨s, hreach, hlive, hwritten, hheld, hqueued, ?_⟩
  rw [← sends_in_order hreach hlive, List.map_append, List.map_append, hwritten, hheld, hqueued]
  rfl

end AsyncSends

end HdmiCec
