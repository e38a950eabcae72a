import HdmiCec.Bus.Threads
import HdmiCec.Driver.Sentinel

/-!
# The writer and its sentinel, and both workers

`Bus::Writer::run` by one thread at a time, with `Bus::Writer::stop`,
`Bus::sendAsync` and the creation of a new thread by `Bus::start` from any other
threads.  `Writer::stop` offers its sentinel under `wMutex`, and only if it finds the
writer running; the thread polls before it looks at its state for the first time.

At the end of the file the reader and the writer run side by side.  They meet in the
driver's `mutex`, which `DriverImpl::write` takes.
-/

universe u

namespace HdmiCec

namespace Bus

namespace Writer

/-- Where the holder of `wMutex` is in the locked section of `Writer::stop`. -/
inductive StopPc where
  | test
  | stopStarted
  | set
  | offer
  deriving DecidableEq

/-- The writer, its queue and its thread between two steps. -/
structure State (F : Type u) where
  state : Stoppable
  wMutex : Option StopPc
  wQueue : BoundedFifo (Option F)
  thread : WriterPc F

inductive Action (F : Type u) where
  | start
  | stop
  | stopStep
  | sendAsync (frame : F)
  | thread
  | threadWakes
  deriving DecidableEq

variable {F : Type u}

/-! ## The steps -/

/-- The next step of the locked section of `Writer::stop`. -/
def stopStep (s : State F) : Option (State F) :=
  match s.wMutex with
  | none => none
  | some .test =>
      some { s with wMutex := if s.state.isRunning then some .stopStarted else none }
  | some .stopStarted =>
      some { s with wMutex := if s.state.isRunning then some .set else some .offer }
  | some .set => some { s with wMutex := some .offer, state := .stopStarted }
  | some .offer => some { s with wMutex := none, wQueue := s.wQueue.offer none }

/-- `wQueue.poll()` takes the front entry. -/
def pollStep (s : State F) (pc : Option F → WriterPc F) : Option (State F) :=
  match s.wQueue.poll with
  | none => none
  | some (outFrame, rest) => some { s with thread := pc outFrame, wQueue := rest }

/-- The next step of `Writer::run`. -/
def threadStep (s : State F) : Option (State F) :=
  match s.thread with
  | .entry => some { s with thread := if s.state.isStopped then .starting else .poll }
  | .starting => some { s with thread := .poll, state := .runStarted }
  | .poll =>
      pollStep s fun outFrame =>
        match outFrame with
        | some frame => .write frame
        | none => .test
  | .write _ => some { s with thread := .test }
  | .test => some { s with thread := if s.state.isRunning then .poll else .retest }
  | .retest => some { s with thread := if s.state.isRunning then .completing else .flushTest }
  | .flushTest =>
      some { s with thread := if s.wQueue.items.length > 0 then .flushPoll else .completing }
  | .flushPoll => pollStep s fun _ => .flushTest
  | .completing => some { s with thread := .done, state := .stopCompleted }
  | .done => none

/-- A `poll` wakes up, finds the queue empty and returns null. -/
def threadWakes (s : State F) : Option (State F) :=
  if s.wQueue.items.length > 0 then
    none
  else
    match s.thread with
    | .poll => some { s with thread := .test }
    | .flushPoll => some { s with thread := .flushTest }
    | _ => none

def step (s : State F) : Action F → Option (State F)
  -- `if (writer.isStopped()) Thread(writer).start()`, with the last thread gone
  | .start =>
      match s.wMutex, s.state, s.thread with
      | none, .stopped, .done => some { s with thread := .entry }
      | _, _, _ => none
  | .stop =>
      match s.wMutex with
      | some _ => none
      | none => some { s with wMutex := some .test }
  | .stopStep => stopStep s
  | .sendAsync frame =>
      match s.wMutex with
      | some _ => none
      | none => some { s with wQueue := s.wQueue.offer (some frame) }
  | .thread => threadStep s
  | .threadWakes => threadWakes s

/-- The writer when the constructor of `Bus` has returned. -/
def new (F : Type u) : State F where
  state := .running
  wMutex := none
  wQueue := .empty 32
  thread := .entry

def system (F : Type u) : StepSystem (State F) (Action F) where
  initial s := s = new F
  step := step

/-! ## What holds in every run -/

/-- The invariant.  `served` is about a thread that is about to poll: once the writer
has been told to stop, and unless the sentinel is about to come, there is an entry for
it. -/
structure Inv (s : State F) : Prop where
  capacity : 0 < s.wQueue.cap
  drains : s.thread = .flushPoll → s.wQueue.items ≠ []
  served : s.state = .stopping → s.wMutex ≠ some .offer →
    s.thread = .entry ∨ s.thread = .poll → s.wQueue.items ≠ []

theorem new_inv : Inv (new F) := by
  constructor <;> simp [new, BoundedFifo.empty]

theorem stopStep_inv {s s' : State F} (h : Inv s) (hstep : stopStep s = some s') : Inv s' := by
  obtain ⟨hcap, hdrains, hserved⟩ := h
  unfold stopStep at hstep
  split at hstep
  · cases hstep
  · cases hstep
    exact ⟨hcap, hdrains, fun hstopping _ => hserved hstopping (by simp [*])⟩
  · cases hstep
    exact ⟨hcap, hdrains, fun hstopping _ => hserved hstopping (by simp [*])⟩
  · cases hstep
    exact ⟨hcap, hdrains, fun _ hoffer => absurd rfl hoffer⟩
  · -- the sentinel is in the queue, or the queue is full
    cases hstep
    have hsome := BoundedFifo.offer_ne_nil none hcap
    exact ⟨by rw [BoundedFifo.offer_cap]; exact hcap, fun _ => hsome, fun _ _ _ => hsome⟩

theorem pollStep_eq_some {s s' : State F} {pc : Option F → WriterPc F}
    (h : pollStep s pc = some s') :
    ∃ outFrame queue, queue.cap = s.wQueue.cap ∧
      s' = { s with thread := pc outFrame, wQueue := queue } := by
  unfold pollStep at h
  cases hpoll : s.wQueue.poll with
  | none => simp [hpoll] at h
  | some front =>
      obtain ⟨outFrame, queue⟩ := front
      simp only [hpoll, Option.some.injEq] at h
      exact ⟨outFrame, queue, (BoundedFifo.poll_eq_some hpoll).2, h.symm⟩

theorem threadStep_inv {s s' : State F} (h : Inv s) (hstep : threadStep s = some s') :
    Inv s' := by
  obtain ⟨hcap, hdrains, hserved⟩ := h
  unfold threadStep at hstep
  cases hthread : s.thread with
  | poll =>
      simp only [hthread] at hstep
      obtain ⟨outFrame, queue, hqueue, rfl⟩ := pollStep_eq_some hstep
      cases outFrame <;> exact ⟨hqueue ▸ hcap, nofun, fun _ _ => nofun⟩
  | flushPoll =>
      simp only [hthread] at hstep
      obtain ⟨outFrame, queue, hqueue, rfl⟩ := pollStep_eq_some hstep
      exact ⟨hqueue ▸ hcap, nofun, fun _ _ => nofun⟩
  | flushTest =>
      simp only [hthread, Option.some.injEq] at hstep
      subst hstep
      constructor <;> grind
  | entry | test | retest =>
      simp only [hthread, Option.some.injEq] at hstep
      subst hstep
      constructor <;> grind [Stoppable.isRunning, Stoppable.isStopped]
  | starting | completing | write =>
      simp only [hthread, Option.some.injEq] at hstep
      subst hstep
      constructor <;> grind [Stoppable.runStarted, Stoppable.stopCompleted]
  | done => simp [hthread] at hstep

theorem threadWakes_inv {s s' : State F} (h : Inv s) (hstep : threadWakes s = some s') :
    Inv s' := by
  unfold threadWakes at hstep
  split at hstep
  · cases hstep
  · split at hstep <;> cases hstep <;> exact ⟨h.capacity, nofun, fun _ _ => nofun⟩

theorem step_inv {s s' : State F} {a : Action F} (h : Inv s) (hstep : step s a = some s') :
    Inv s' := by
  cases a with
  | start =>
      simp only [step] at hstep
      split at hstep
      · next hstopped _ =>
        cases hstep
        refine ⟨h.capacity, nofun, fun hstopping => ?_⟩
        rw [hstopped] at hstopping
        cases hstopping
      · cases hstep
  | stop =>
      simp only [step] at hstep
      split at hstep
      · cases hstep
      · cases hstep
        exact ⟨h.capacity, h.drains, fun hstopping _ => h.served hstopping (by simp [*])⟩
  | stopStep => exact stopStep_inv h hstep
  | sendAsync frame =>
      simp only [step] at hstep
      split at hstep
      · cases hstep
      · cases hstep
        have hsome := BoundedFifo.offer_ne_nil (some frame) h.capacity
        exact ⟨by rw [BoundedFifo.offer_cap]; exact h.capacity, fun _ => hsome,
          fun _ _ _ => hsome⟩
  | thread => exact threadStep_inv h hstep
  | threadWakes => exact threadWakes_inv h hstep

theorem reachable_inv {ok : State F → Action F → Prop} {s : State F}
    (h : (system F).Reachable ok s) : Inv s := by
  refine h.invariant ?_ ?_
  · rintro s rfl
    exact new_inv
  · intro s a s' _ hs _ hstep
    exact step_inv hs hstep

/-- The thread is inside `wQueue.poll`, where it sleeps or is about to, and there is
nothing to take. -/
def State.AsleepOnEmpty (s : State F) : Prop :=
  (s.thread = .poll ∨ s.thread = .flushPoll) ∧ s.wQueue.items = []

/-- A writer that has been told to stop is not left waiting. -/
theorem Inv.not_asleep {s : State F} (h : Inv s) (hstopping : s.state = .stopping)
    (hoffered : s.wMutex ≠ some .offer) : ¬ s.AsleepOnEmpty := by
  rintro ⟨hpoll | hflush, hempty⟩
  · exact h.served hstopping hoffered (.inr hpoll) hempty
  · exact h.drains hflush hempty

end Writer

/-! ## Reader and writer side by side -/

/-- The writer's call of `DriverImpl::write` needs the driver's mutex. -/
def writeEnabled {F : Type u} (driver : Sessions.State F) (writer : Writer.State F) :
    Writer.Action F → Bool
  | .thread =>
      match writer.thread with
      | .write _ => driver.mutex.isNone
      | _ => true
  | _ => true

/-- The driver with its reading thread, and the writer. -/
def workers (F : Type u) :
    StepSystem (Sessions.State F × Writer.State F) (Sessions.Action F ⊕ Writer.Action F) :=
  (Sessions.system F).par (Writer.system F) writeEnabled

/-- In a closed driver the reader does not sleep on an empty queue; nor does the
writer, once `Writer::stop` has told it to stop and left its locked section. -/
theorem workers_not_asleep {F : Type u} {s : Sessions.State F × Writer.State F}
    (h : (workers F).Reachable StepSystem.unguarded s) :
    (s.1.status = .closed → ¬ s.1.AsleepOnEmpty) ∧
      (s.2.state = .stopping → s.2.wMutex ≠ some .offer → ¬ s.2.AsleepOnEmpty) :=
  ⟨(Sessions.reachable_inv h.left).not_asleep, (Writer.reachable_inv h.right).not_asleep⟩

/-- Both threads are polling on their empty queues when the driver is closed and the
writer is told to stop. -/
theorem workers_not_asleep_polling :
    ∃ s : Sessions.State CECFrame × Writer.State CECFrame,
      (workers CECFrame).Reachable StepSystem.unguarded s ∧
      s.1.reader = .poll ∧ s.2.thread = .poll ∧ ¬ s.1.AsleepOnEmpty ∧ ¬ s.2.AsleepOnEmpty := by
  obtain ⟨s, hreach, hreader, hthread, hclosed, hstopping, hfree⟩ :=
    StepSystem.exists_reachable_of_run (workers CECFrame) StepSystem.unguarded
      (Sessions.new CECFrame, Writer.new CECFrame)
      [.inl (.driverOpen true), .inl .read, .inl .reader, .inr .thread, .inr .stop,
        .inr .stopStep, .inr .stopStep, .inr .stopStep, .inr .stopStep, .inl .driverClose,
        .inl (.closeStep true), .inl (.closeStep true)]
      (fun s => s.1.reader = .poll ∧ s.2.thread = .poll ∧ s.1.status = .closed ∧
        s.2.state = .stopping ∧ s.2.wMutex = none) ⟨rfl, rfl⟩ (by decide)
  have hasleep := workers_not_asleep hreach
  exact ⟨s, hreach, hreader, hthread, hasleep.1 hclosed,
    hasleep.2 hstopping (by simp [hfree])⟩

end Bus

end HdmiCec
