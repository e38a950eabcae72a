import Mathlib.Tactic.ByContra

/-!
# `Stoppable` and the life of its worker

A `Stoppable` that is also a `Runnable` has a state that two sides write: the
starter looks whether it is `STOPPED` before it creates a thread, the stopper
turns `RUNNING` into `STOPPING`, and the thread itself turns `STOPPED` into
`RUNNING` when it begins and anything into `STOPPED` when it ends.

The second half of the file is an abstract worker: the state together with the
stage of every thread ever created for it.  Both `Bus::Reader` and `Bus::Writer`
are such workers, whatever their loops do.
-/

namespace HdmiCec

/-! ## The member functions -/

/-- The states of a `Stoppable`. -/
inductive Stoppable where
  | running
  | stopping
  | stopped
  deriving DecidableEq

namespace Stoppable

def isStopped (state : Stoppable) : Bool := state = .stopped

def isRunning (state : Stoppable) : Bool := state = .running

/-- What `runStarted` leaves behind. -/
def runStarted : Stoppable := .running

/-- The assignment inside `stopStarted`. -/
def stopStarted : Stoppable := .stopping

/-- What `stopCompleted` leaves behind. -/
def stopCompleted : Stoppable := .stopped

@[simp] theorem isStopped_iff (state : Stoppable) :
    state.isStopped = true ↔ state = .stopped := by
  simp [isStopped]

@[simp] theorem isRunning_iff (state : Stoppable) :
    state.isRunning = true ↔ state = .running := by
  simp [isRunning]

end Stoppable

/-! ## Workers -/

/-- How far a thread of the worker is in `run`. -/
inductive Stage where
  /-- Before the test of `isStopped`. -/
  | entry
  /-- Behind that test and before `runStarted`. -/
  | starting
  /-- In the loop. -/
  | looping
  /-- Behind the loop and before `stopCompleted`. -/
  | leaving
  /-- `run` has returned. -/
  | done
  deriving DecidableEq

/-- A `Stoppable` and the stages of the threads created for it, oldest first. -/
structure Worker where
  state : Stoppable
  threads : List Stage

namespace Worker

/-- One step of one of the threads.  Inside the loop and behind it the thread
does other things as well, which the worker does not see. -/
inductive Advances (w : Worker) : Worker → Prop where
  | works : Advances w w
  | enters (i : Nat) (hstage : w.threads[i]? = some .entry) (hstate : w.state ≠ .stopped) :
      Advances w { w with threads := w.threads.set i .looping }
  | restarts (i : Nat) (hstage : w.threads[i]? = some .entry) (hstate : w.state = .stopped) :
      Advances w { w with threads := w.threads.set i .starting }
  | runStarted (i : Nat) (hstage : w.threads[i]? = some .starting) :
      Advances w { state := .runStarted, threads := w.threads.set i .looping }
  | leaves (i : Nat) (hstage : w.threads[i]? = some .looping) (hstate : w.state ≠ .running) :
      Advances w { w with threads := w.threads.set i .leaving }
  | stopCompleted (i : Nat) (hstage : w.threads[i]? = some .leaving) :
      Advances w { state := .stopCompleted, threads := w.threads.set i .done }

/-- `Thread(worker).start()`. -/
def create (w : Worker) : Worker := { w with threads := w.threads ++ [.entry] }

/-- The assignment of `stopStarted`. -/
def mark (w : Worker) : Worker := { w with state := .stopStarted }

/-- At most one thread has not returned. -/
def Unique (w : Worker) : Prop :=
  ∀ (i j : Nat) (stage stage' : Stage), w.threads[i]? = some stage →
    w.threads[j]? = some stage' → stage ≠ .done → stage' ≠ .done → i = j

/-- Every thread has returned. -/
def Quiet (w : Worker) : Prop := ∀ stage ∈ w.threads, stage = .done

/-- Thread `i` is at this stage and every other one has returned. -/
structure Sole (w : Worker) (i : Nat) (stage : Stage) : Prop where
  here : w.threads[i]? = some stage
  others : ∀ j stage', w.threads[j]? = some stage' → stage' ≠ .done → j = i

/-- The four ways a worker and its single thread fit together. -/
inductive Life where
  /-- No thread is left. -/
  | gone
  /-- A thread has been created, and `STOPPED` still stands. -/
  | pending
  | serving
  | ending
  deriving DecidableEq

def Is (w : Worker) : Life → Prop
  | .gone => w.state = .stopped ∧ w.Quiet
  | .pending => w.state = .stopped ∧ ∃ i stage, w.Sole i stage ∧
      (stage = .entry ∨ stage = .starting)
  | .serving => w.state = .running ∧ ∃ i stage, w.Sole i stage ∧
      (stage = .entry ∨ stage = .looping)
  | .ending => w.state = .stopping ∧ ∃ i stage, w.Sole i stage ∧
      (stage = .entry ∨ stage = .looping ∨ stage = .leaving)

/-- The state of a worker that leads this life. -/
def Life.state : Life → Stoppable
  | .gone | .pending => .stopped
  | .serving => .running
  | .ending => .stopping

theorem Is.state {w : Worker} {life : Life} (h : w.Is life) : w.state = life.state := by
  cases life <;> exact h.1

/-- The lives a step of the thread can lead to. -/
def Life.next : Life → List Life
  | .gone => [.gone]
  | .pending => [.pending, .serving]
  | .serving => [.serving]
  | .ending => [.ending, .gone]

theorem Sole.unique {w : Worker} {i : Nat} {stage : Stage} (h : w.Sole i stage) : w.Unique := by
  intro j k stage' stage'' hj hk hlive hlive'
  rw [h.others j stage' hj hlive, h.others k stage'' hk hlive']

theorem Quiet.unique {w : Worker} (h : w.Quiet) : w.Unique := by
  intro i j stage stage' hi hj hlive
  exact absurd (h stage (List.mem_of_getElem? hi)) hlive

/-- Whatever its life, the worker has at most one thread that has not returned. -/
theorem Is.unique {w : Worker} {life : Life} (h : w.Is life) : w.Unique := by
  cases life with
  | gone => exact h.2.unique
  | pending | serving | ending =>
      obtain ⟨-, i, stage, hsole, -⟩ := h
      exact hsole.unique

/-- A live thread seen at index `i` is the sole one. -/
theorem Sole.eq_of_live {w : Worker} {i j : Nat} {stage stage' : Stage} (h : w.Sole i stage)
    (hj : w.threads[j]? = some stage') (hlive : stage' ≠ .done) : j = i ∧ stage' = stage := by
  have hij := h.others j stage' hj hlive
  subst hij
  exact ⟨rfl, Option.some.inj (hj.symm.trans h.here)⟩

/-- The sole thread moves on. -/
theorem Sole.set {w : Worker} {i : Nat} {stage : Stage} (h : w.Sole i stage) (state : Stoppable)
    (stage' : Stage) : Sole { state := state, threads := w.threads.set i stage' } i stage' := by
  have hlt : i < w.threads.length := (List.getElem?_eq_some_iff.mp h.here).1
  constructor
  · simp [hlt]
  · intro j stage'' hj hlive
    by_cases hij : i = j
    · exact hij.symm
    · rw [List.getElem?_set_ne hij] at hj
      exact h.others j stage'' hj hlive

/-- The sole thread returns. -/
theorem Sole.quiet {w : Worker} {i : Nat} {stage : Stage} (h : w.Sole i stage)
    (state : Stoppable) : Quiet { state := state, threads := w.threads.set i .done } := by
  intro stage' hmem
  obtain ⟨j, hj⟩ := List.mem_iff_getElem?.mp hmem
  by_contra hlive
  have hset := h.set state .done
  obtain ⟨-, rfl⟩ := hset.eq_of_live hj hlive
  exact hlive rfl

theorem Quiet.not_live {w : Worker} (h : w.Quiet) {i : Nat} {stage : Stage}
    (hi : w.threads[i]? = some stage) : stage = .done :=
  h stage (List.mem_of_getElem? hi)

/-- What a thread that has not returned says about the life of its worker. -/
theorem Is.of_live {w : Worker} {life : Life} (h : w.Is life) {i : Nat} {stage : Stage}
    (hi : w.threads[i]? = some stage) (hlive : stage ≠ .done) :
    w.Sole i stage ∧
      (life = .pending ∧ w.state = .stopped ∧ (stage = .entry ∨ stage = .starting) ∨
        life = .serving ∧ w.state = .running ∧ (stage = .entry ∨ stage = .looping) ∨
        life = .ending ∧ w.state = .stopping ∧
          (stage = .entry ∨ stage = .looping ∨ stage = .leaving)) := by
  cases life with
  | gone => exact absurd (h.2.not_live hi) hlive
  | pending =>
      obtain ⟨hstate, j, stage', hsole, hstage⟩ := h
      obtain ⟨rfl, rfl⟩ := hsole.eq_of_live hi hlive
      exact ⟨hsole, Or.inl ⟨rfl, hstate, hstage⟩⟩
  | serving =>
      obtain ⟨hstate, j, stage', hsole, hstage⟩ := h
      obtain ⟨rfl, rfl⟩ := hsole.eq_of_live hi hlive
      exact ⟨hsole, Or.inr (Or.inl ⟨rfl, hstate, hstage⟩)⟩
  | ending =>
      obtain ⟨hstate, j, stage', hsole, hstage⟩ := h
      obtain ⟨rfl, rfl⟩ := hsole.eq_of_live hi hlive
      exact ⟨hsole, Or.inr (Or.inr ⟨rfl, hstate, hstage⟩)⟩

/-- Replacing a stage by itself is no step. -/
theorem Advances.of_set {w : Worker} {i : Nat} {stage : Stage}
    (hi : w.threads[i]? = some stage) :
    Advances w { w with threads := w.threads.set i stage } := by
  obtain ⟨hlt, hget⟩ := List.getElem?_eq_some_iff.mp hi
  have hset : w.threads.set i stage = w.threads := by
    rw [← hget]
    exact List.set_getElem_self hlt
  rw [hset]
  exact .works

/-- A step of a thread keeps the life of the worker or moves it on. -/
theorem Advances.is {w w' : Worker} {life : Life} (h : w.Is life) (hstep : Advances w w') :
    ∃ life' ∈ life.next, w'.Is life' := by
  cases hstep with
  | works => exact ⟨life, by cases life <;> decide, h⟩
  | enters i hi hstate =>
      obtain ⟨hsole, ⟨-, hstopped, -⟩ | ⟨rfl, hrunning, -⟩ | ⟨rfl, hstopping, -⟩⟩ :=
        h.of_live hi nofun
      · exact absurd hstopped hstate
      · exact ⟨.serving, by decide, hrunning, i, .looping, hsole.set _ _, Or.inr rfl⟩
      · exact ⟨.ending, by decide, hstopping, i, .looping, hsole.set _ _, Or.inr (Or.inl rfl)⟩
  | restarts i hi hstate =>
      obtain ⟨hsole, ⟨rfl, -, -⟩ | ⟨-, hrunning, -⟩ | ⟨-, hstopping, -⟩⟩ := h.of_live hi nofun
      · exact ⟨.pending, by decide, hstate, i, .starting, hsole.set _ _, Or.inr rfl⟩
      · simp [hstate] at hrunning
      · simp [hstate] at hstopping
  | runStarted i hi =>
      -- only a pending worker has a thread at this stage
      obtain ⟨hsole, ⟨rfl, -, -⟩ | ⟨-, -, hstage⟩ | ⟨-, -, hstage⟩⟩ := h.of_live hi nofun
      · exact ⟨.serving, by decide, rfl, i, .looping, hsole.set _ _, Or.inr rfl⟩
      · simp at hstage
      · simp at hstage
  | leaves i hi hstate =>
      obtain ⟨hsole, ⟨-, -, hstage⟩ | ⟨-, hrunning, -⟩ | ⟨rfl, hstopping, -⟩⟩ :=
        h.of_live hi nofun
      · simp at hstage
      · exact absurd hrunning hstate
      · exact ⟨.ending, by decide, hstopping, i, .leaving, hsole.set _ _, Or.inr (Or.inr rfl)⟩
  | stopCompleted i hi =>
      obtain ⟨hsole, ⟨-, -, hstage⟩ | ⟨-, -, hstage⟩ | ⟨rfl, -, -⟩⟩ := h.of_live hi nofun
      · simp at hstage
      · simp at hstage
      · exact ⟨.gone, by decide, rfl, hsole.quiet _⟩

/-! ## What the starter and the stopper do -/

/-- A thread created while none is left is the sole one. -/
theorem Is.create {w : Worker} (h : w.Is .gone) : w.create.Is .pending := by
  refine ⟨h.1, w.threads.length, .entry, ⟨?_, ?_⟩, Or.inl rfl⟩
  · simp [Worker.create]
  · intro j stage hj hlive
    obtain hlt | heq | hgt := Nat.lt_trichotomy j w.threads.length
    · have hold : w.threads[j]? = some stage := by
        simpa [Worker.create, List.getElem?_append_left hlt] using hj
      exact absurd (h.2.not_live hold) hlive
    · exact heq
    · have hnone : w.create.threads[j]? = none := by
        simp only [Worker.create, List.getElem?_eq_none_iff, List.length_append,
          List.length_singleton]
        omega
      rw [hnone] at hj
      cases hj

/-- A thread is created exactly if none is left. -/
theorem Is.started {w w' : Worker} {life : Life} (h : w.Is life)
    (hlife : life = .gone ∨ life = .serving)
    (hw' : w' = if w.state = .stopped then w.create else w) :
    ∃ life', (life' = .pending ∨ life' = .serving) ∧ w'.Is life' := by
  rcases hlife with rfl | rfl
  · rw [if_pos h.1] at hw'
    exact ⟨.pending, .inl rfl, hw' ▸ h.create⟩
  · rw [if_neg (by rw [h.1]; nofun)] at hw'
    exact ⟨.serving, .inr rfl, hw' ▸ h⟩

/-- A worker that is waited for and found stopped has no thread left. -/
theorem Is.gone_of_stopped {w : Worker} {life : Life} (h : w.Is life)
    (hlife : life = .gone ∨ life = .ending) (hstopped : w.state.isStopped = true) :
    life = .gone := by
  rcases hlife with rfl | rfl
  · rfl
  · rw [h.1] at hstopped
    cases hstopped

/-- `stopStarted` on a running worker. -/
theorem Is.mark {w : Worker} (h : w.Is .serving) : w.mark.Is .ending := by
  obtain ⟨-, i, stage, hsole, hstage⟩ := h
  exact ⟨rfl, i, stage, ⟨hsole.here, hsole.others⟩, hstage.imp id Or.inl⟩

end Worker

end HdmiCec
