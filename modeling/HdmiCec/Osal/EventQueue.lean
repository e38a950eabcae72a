import HdmiCec.Library.BoundedFifo
import Mathlib.Logic.Function.Basic

/-!
# The event queue and its condition variable

`EventQueue::offer`, `EventQueue::poll` and `EventQueue::size` run by any number
of threads, one program point at a time.  Two locks are involved.  The queue's
`mutex` is held from the `AutoLock` to the end of its scope, so the steps inside
are separate.  The condition variable's own mutex is held only inside `set`,
`reset`, `isSet`, `notifyAll` and the test of `wait`, so each of those is one
step.  `pthread_cond_wait` releases that mutex and goes to sleep at once, may
return without a signal, and does not look at the flag again.
-/

universe u v

namespace HdmiCec

/-! ## `ConditionVariable` -/

/-- The flag of the `Condition` and the threads inside `pthread_cond_wait` that
no signal has reached. -/
structure ConditionVariable (T : Type u) where
  cond : Bool
  asleep : T → Bool

namespace ConditionVariable

variable {T : Type u}

/-- The constructor's `new Condition(false)`. -/
def new : ConditionVariable T :=
  { cond := false, asleep := fun _ => false }

def isSet (c : ConditionVariable T) : Bool := c.cond

def set (c : ConditionVariable T) : ConditionVariable T :=
  { c with cond := true }

def reset (c : ConditionVariable T) : ConditionVariable T :=
  { c with cond := false }

/-- Set the flag and broadcast. -/
def notifyAll (_ : ConditionVariable T) : ConditionVariable T :=
  { cond := true, asleep := fun _ => false }

variable [DecidableEq T]

/-- The thread enters `pthread_cond_wait`. -/
def sleep (c : ConditionVariable T) (t : T) : ConditionVariable T :=
  { c with asleep := Function.update c.asleep t true }

/-- The thread's `pthread_cond_wait` returns although nobody signalled. -/
def spuriousWake (c : ConditionVariable T) (t : T) : ConditionVariable T :=
  { c with asleep := Function.update c.asleep t false }

end ConditionVariable

/-! ## `EventQueue` -/

/-- The members of an `EventQueue<E>`; `mutex` is the thread that holds it. -/
structure EventQueue (T : Type u) (E : Type v) where
  events : List E
  cap : Nat
  mutex : Option T
  cond : ConditionVariable T

namespace EventQueue

/-- Where a thread stands in `offer`, `poll` or `size`. -/
inductive Pc (E : Type v) where
  | idle
  | offerLock (element : E)
  | offerTest (element : E)
  | offerSet
  | offerNotify
  | offerUnlock
  | pollWait
  | pollAsleep
  | pollLock
  | pollTest
  | pollTake
  | pollReset (front : E)
  | pollUnlock (front : E)
  | sizeLock
  | sizeRead
  | sizeUnlock (size : Nat)
  deriving DecidableEq

/-- The queue, the threads that use it, and in order the elements whose `offer`
found room, those that left the deque and those that `poll` returned. -/
structure State (T : Type u) (E : Type v) where
  queue : EventQueue T E
  pc : T → Pc E
  accepted : List E
  removed : List E
  returned : List E

/-- A thread calls an operation or takes its next step, or a sleeping thread
wakes up by itself. -/
inductive Action (T : Type u) (E : Type v) where
  | offer (t : T) (element : E)
  | poll (t : T)
  | size (t : T)
  | run (t : T)
  | spuriousWake (t : T)

variable {T : Type u} {E : Type v} [DecidableEq T]

namespace State

/-- The thread moves on; nothing else changes. -/
def goto (s : State T E) (t : T) (pc : Pc E) : State T E :=
  { s with pc := Function.update s.pc t pc }

/-- The thread moves on and the members of the queue change. -/
def put (s : State T E) (t : T) (queue : EventQueue T E) (pc : Pc E) : State T E :=
  { s with queue := queue, pc := Function.update s.pc t pc }

/-- The thread takes the queue's mutex, if it is free. -/
def lock (s : State T E) (t : T) (pc : Pc E) : Option (State T E) :=
  match s.queue.mutex with
  | none => some (s.put t { s.queue with mutex := some t } pc)
  | some _ => none

/-- The thread leaves the scope of its `AutoLock`, which ends the call. -/
def unlock (s : State T E) (t : T) : State T E :=
  s.put t { s.queue with mutex := none } .idle

def accept (s : State T E) (element : E) : State T E :=
  { s with accepted := s.accepted ++ [element] }

def remove (s : State T E) (front : E) : State T E :=
  { s with removed := s.removed ++ [front] }

def giveBack (s : State T E) (front : E) : State T E :=
  { s with returned := s.returned ++ [front] }

@[grind =] theorem goto_pc (s : State T E) (t : T) (pc : Pc E) (u : T) :
    (s.goto t pc).pc u = if u = t then pc else s.pc u :=
  Function.update_apply ..

@[grind =] theorem put_pc (s : State T E) (t : T) (queue : EventQueue T E) (pc : Pc E) (u : T) :
    (s.put t queue pc).pc u = if u = t then pc else s.pc u :=
  Function.update_apply ..

omit [DecidableEq T] in
@[grind =] theorem accept_pc (s : State T E) (element : E) (u : T) :
    (s.accept element).pc u = s.pc u := rfl

omit [DecidableEq T] in
@[grind =] theorem remove_pc (s : State T E) (front : E) (u : T) :
    (s.remove front).pc u = s.pc u := rfl

omit [DecidableEq T] in
@[grind =] theorem giveBack_pc (s : State T E) (front : E) (u : T) :
    (s.giveBack front).pc u = s.pc u := rfl

theorem lock_eq_some {s s' : State T E} {t : T} {pc : Pc E} (h : s.lock t pc = some s') :
    s.queue.mutex = none ∧ s' = s.put t { s.queue with mutex := some t } pc := by
  unfold lock at h
  cases hmutex : s.queue.mutex with
  | none =>
      simp only [hmutex, Option.some.injEq] at h
      exact ⟨rfl, h.symm⟩
  | some u => simp [hmutex] at h

end State

/-- The steps of `offer`.  A full queue drops the element silently. -/
def offerStep (s : State T E) (t : T) (element : E) : State T E :=
  if s.queue.events.length = s.queue.cap then
    s.goto t .offerUnlock
  else
    (s.put t { s.queue with events := s.queue.events ++ [element] } .offerSet).accept element

/-- The second test of `poll` and the removal of the front element.  The local
`front` has no initial value: `uninitialised` is whatever it holds. -/
def takeStep (uninitialised : E) (s : State T E) (t : T) : State T E :=
  if s.queue.cond.isSet then
    match s.queue.events with
    | front :: rest =>
        (s.put t { s.queue with events := rest }
          (if rest.isEmpty then .pollReset front else .pollUnlock front)).remove front
    | [] => s.put t { s.queue with cond := s.queue.cond.reset } (.pollUnlock uninitialised)
  else
    s.goto t (.pollUnlock uninitialised)

/-- The next step of a thread inside a call.  `default` is the `ET()` that
`poll` returns when there is nothing to take. -/
def runStep [Inhabited E] (uninitialised : E) (s : State T E) (t : T) : Option (State T E) :=
  match s.pc t with
  | .idle => none
  | .offerLock element => s.lock t (.offerTest element)
  | .offerTest element => some (offerStep s t element)
  | .offerSet => some (s.put t { s.queue with cond := s.queue.cond.set } .offerNotify)
  | .offerNotify => some (s.put t { s.queue with cond := s.queue.cond.notifyAll } .offerUnlock)
  | .offerUnlock => some (s.unlock t)
  | .pollWait =>
      if s.queue.cond.isSet then
        some (s.goto t .pollLock)
      else
        some (s.put t { s.queue with cond := s.queue.cond.sleep t } .pollAsleep)
  | .pollAsleep =>
      if s.queue.cond.asleep t then none else some (s.goto t .pollLock)
  | .pollLock => s.lock t .pollTest
  | .pollTest =>
      if !s.queue.cond.isSet || s.queue.events.isEmpty then
        some (s.goto t (.pollUnlock default))
      else
        some (s.goto t .pollTake)
  | .pollTake => some (takeStep uninitialised s t)
  | .pollReset front =>
      some (s.put t { s.queue with cond := s.queue.cond.reset } (.pollUnlock front))
  | .pollUnlock front => some ((s.unlock t).giveBack front)
  | .sizeLock => s.lock t .sizeRead
  | .sizeRead => some (s.goto t (.sizeUnlock s.queue.events.length))
  | .sizeUnlock _ => some (s.unlock t)

/-- A thread that is in no call enters one. -/
def callStep (s : State T E) (t : T) (pc : Pc E) : Option (State T E) :=
  match s.pc t with
  | .idle => some (s.goto t pc)
  | _ => none

def step [Inhabited E] (uninitialised : E) (s : State T E) : Action T E → Option (State T E)
  | .offer t element => callStep s t (.offerLock element)
  | .poll t => callStep s t .pollWait
  | .size t => callStep s t .sizeLock
  | .run t => runStep uninitialised s t
  | .spuriousWake t =>
      some { s with queue := { s.queue with cond := s.queue.cond.spuriousWake t } }

/-- The constructor: an empty deque, and no thread in a call. -/
def new (T : Type u) (E : Type v) (cap : Nat) : State T E :=
  { queue := { events := [], cap := cap, mutex := none, cond := .new }
    pc := fun _ => .idle
    accepted := []
    removed := []
    returned := [] }

/-- Queues of every capacity, used by the threads of `T`. -/
def system (T : Type u) [DecidableEq T] [Inhabited E] (uninitialised : E) :
    StepSystem (State T E) (Action T E) where
  initial s := ∃ cap, s = new T E cap
  step := step uninitialised

/-! ## Who holds the mutex, and what the flag says meanwhile -/

/-- The program points between the `AutoLock` and the end of its scope. -/
def Pc.locked : Pc E → Bool
  | .offerTest _ | .offerSet | .offerNotify | .offerUnlock => true
  | .pollTest | .pollTake | .pollReset _ | .pollUnlock _ => true
  | .sizeRead | .sizeUnlock _ => true
  | .idle | .offerLock _ | .pollWait | .pollAsleep | .pollLock | .sizeLock => false

/-- How flag and deque are related while the thread that holds the mutex stands
at this point.  Between the push and `cond.set` the flag may be behind, and
between the removal of the last element and `cond.reset` it is ahead. -/
def Pc.FlagFits (pc : Pc E) (flag : Bool) (events : List E) : Prop :=
  match pc with
  | .offerSet => events ≠ []
  | .offerNotify | .pollTake => flag = true ∧ events ≠ []
  | .pollReset _ => flag = true ∧ events = []
  | _ => flag = true ↔ events ≠ []

/-- The program point of the thread that holds the mutex, `idle` if none does. -/
def State.holder (s : State T E) : Pc E :=
  match s.queue.mutex with
  | none => .idle
  | some t => s.pc t

omit [DecidableEq T] in
theorem State.remove_holder (s : State T E) (front : E) :
    (s.remove front).holder = s.holder := rfl

/-- What holds in every state, whatever is offered.  `awake` is the reason why
no wake-up is lost: sleepers exist beside a set flag only until the `offer` that
set it has broadcast. -/
structure Inv (s : State T E) : Prop where
  owner : ∀ t, (s.pc t).locked = true ↔ s.queue.mutex = some t
  flag : s.holder.FlagFits s.queue.cond.isSet s.queue.events
  awake : s.queue.cond.isSet = true → s.holder = .offerNotify ∨
    ∀ t, s.queue.cond.asleep t = false

omit [DecidableEq T] in
theorem Inv.not_owner {s : State T E} (h : Inv s) {t : T} (hpc : (s.pc t).locked = false) :
    s.queue.mutex ≠ some t := by
  intro hmutex
  rw [(h.owner t).mpr hmutex] at hpc
  cases hpc

theorem Inv.holder_outside {s : State T E} (h : Inv s) {t : T} (pc : Pc E)
    (cond : ConditionVariable T) (hpc : (s.pc t).locked = false) :
    (s.put t { s.queue with cond := cond } pc).holder = s.holder := by
  have hne := h.not_owner hpc
  unfold State.holder State.put
  cases hmutex : s.queue.mutex with
  | none => rfl
  | some u =>
      have hu : u ≠ t := by
        rintro rfl
        exact hne hmutex
      simp [hu]

theorem holder_put {s : State T E} {t : T} {queue : EventQueue T E} {pc : Pc E}
    (hmutex : queue.mutex = some t) : (s.put t queue pc).holder = pc := by
  simp [State.holder, State.put, hmutex]

/-- A step outside the mutex: it may put the thread to sleep or wake threads up. -/
theorem Inv.outside {s : State T E} (h : Inv s) {t : T} {pc : Pc E}
    {cond : ConditionVariable T} (hpc : (s.pc t).locked = false) (hpc' : pc.locked = false)
    (hset : cond.isSet = s.queue.cond.isSet)
    (hasleep : cond.isSet = true → ∀ u, s.queue.cond.asleep u = false → cond.asleep u = false) :
    Inv (s.put t { s.queue with cond := cond } pc) := by
  have hne := h.not_owner hpc
  have hholder := h.holder_outside pc cond hpc
  constructor
  · intro u
    by_cases hu : u = t
    · subst u
      simp [State.put, hpc', hne]
    · simp [State.put, hu, h.owner u]
  · rw [hholder]
    show s.holder.FlagFits cond.isSet s.queue.events
    rw [hset]
    exact h.flag
  · intro hflag
    have hflag' : cond.isSet = true := hflag
    rw [hholder]
    exact (h.awake (hset ▸ hflag')).imp id fun hall u => hasleep hflag' u (hall u)

/-- The thread takes the free mutex.  At the point behind the `AutoLock` flag and
deque fit as they do outside. -/
theorem Inv.locks {s : State T E} (h : Inv s) {t : T} {pc : Pc E}
    (hfree : s.queue.mutex = none) (hpc' : pc.locked = true)
    (hfits : ∀ flag events, Pc.FlagFits (E := E) .idle flag events → pc.FlagFits flag events) :
    Inv (s.put t { s.queue with mutex := some t } pc) := by
  have hidle : s.holder = .idle := by simp [State.holder, hfree]
  have hholder : (s.put t { s.queue with mutex := some t } pc).holder = pc := holder_put rfl
  have hflag := h.flag
  rw [hidle] at hflag
  constructor
  · intro u
    by_cases hu : u = t
    · subst u
      simp [State.put, hpc']
    · have hother := h.owner u
      rw [hfree] at hother
      simp [State.put, hu, hother, Ne.symm hu]
  · rw [hholder]
    exact hfits _ _ hflag
  · intro hset
    obtain hnotify | hall := h.awake hset
    · rw [hidle] at hnotify
      cases hnotify
    · exact Or.inr hall

omit [DecidableEq T] in
theorem Inv.mutex_eq {s : State T E} (h : Inv s) {t : T} {pc : Pc E} (hpc : s.pc t = pc)
    (hlocked : pc.locked = true) : s.queue.mutex = some t := by
  subst hpc
  exact (h.owner t).mp hlocked

omit [DecidableEq T] in
theorem Inv.holder_eq {s : State T E} (h : Inv s) {t : T} {pc : Pc E} (hpc : s.pc t = pc)
    (hlocked : pc.locked = true) : s.holder = pc := by
  simp [State.holder, h.mutex_eq hpc hlocked, hpc]

omit [DecidableEq T] in
theorem Inv.flag_at {s : State T E} (h : Inv s) {t : T} {pc : Pc E} (hpc : s.pc t = pc)
    (hlocked : pc.locked = true) : pc.FlagFits s.queue.cond.isSet s.queue.events := by
  rw [← h.holder_eq hpc hlocked]
  exact h.flag

omit [DecidableEq T] in
/-- Inside the scope nobody sleeps beside a set flag, except while the flag has
just been set. -/
theorem Inv.all_awake {s : State T E} (h : Inv s) {t : T} {pc : Pc E} (hpc : s.pc t = pc)
    (hlocked : pc.locked = true) (hne : pc ≠ .offerNotify) (hset : s.queue.cond.isSet = true) :
    ∀ u, s.queue.cond.asleep u = false := by
  have hnotify := h.awake hset
  rw [h.holder_eq hpc hlocked] at hnotify
  exact hnotify.resolve_left hne

/-- The thread that holds the mutex moves on inside its scope. -/
theorem Inv.inside {s : State T E} (h : Inv s) {t : T} {pc pc' : Pc E}
    {queue : EventQueue T E} (hpc : s.pc t = pc) (hlocked : pc.locked = true)
    (hlocked' : pc'.locked = true) (hmutex : queue.mutex = s.queue.mutex)
    (hfits : pc'.FlagFits queue.cond.isSet queue.events)
    (hawake : queue.cond.isSet = true →
      pc' = .offerNotify ∨ ∀ u, queue.cond.asleep u = false) :
    Inv (s.put t queue pc') := by
  have howner : queue.mutex = some t := hmutex.trans (h.mutex_eq hpc hlocked)
  have hholder : (s.put t queue pc').holder = pc' := holder_put howner
  constructor
  · intro u
    by_cases hu : u = t
    · subst u
      simp [State.put, hlocked', howner]
    · have hother := h.owner u
      rw [h.mutex_eq hpc hlocked] at hother
      simp [State.put, hu, hother, howner]
  · rw [hholder]
    exact hfits
  · rw [hholder]
    exact hawake

/-- A step inside the scope that changes neither the flag nor the deque. -/
theorem Inv.inside_goto {s : State T E} (h : Inv s) {t : T} {pc pc' : Pc E}
    (hpc : s.pc t = pc) (hlocked : pc.locked = true) (hlocked' : pc'.locked = true)
    (hne : pc ≠ .offerNotify) (hfits : pc'.FlagFits s.queue.cond.isSet s.queue.events) :
    Inv (s.goto t pc') := by
  show Inv (s.put t s.queue pc')
  exact h.inside hpc hlocked hlocked' rfl hfits fun hset =>
    Or.inr (h.all_awake hpc hlocked hne hset)

/-- The thread leaves its scope. -/
theorem Inv.unlocks {s : State T E} (h : Inv s) {t : T} {pc : Pc E} (hpc : s.pc t = pc)
    (hlocked : pc.locked = true) (hne : pc ≠ .offerNotify)
    (hfits : Pc.FlagFits (E := E) .idle s.queue.cond.isSet s.queue.events) :
    Inv (s.unlock t) := by
  constructor
  · intro u
    by_cases hu : u = t
    · subst u
      simp [State.unlock, State.put, Pc.locked]
    · have hother := h.owner u
      rw [h.mutex_eq hpc hlocked] at hother
      have hnot : (s.pc u).locked ≠ true := by
        rw [Ne, hother]
        exact fun heq => hu (Option.some.inj heq).symm
      simp [State.unlock, State.put, hu, hnot]
  · exact hfits
  · intro hset
    exact Or.inr (h.all_awake hpc hlocked hne hset)

/-! ## Every step keeps the invariant -/

theorem offerStep_inv {s : State T E} (h : Inv s) {t : T} {element : E}
    (hpc : s.pc t = .offerTest element) : Inv (offerStep s t element) := by
  have hflag := h.flag_at hpc rfl
  unfold offerStep
  split
  · exact h.inside_goto hpc rfl rfl nofun hflag
  · have hput : Inv (s.put t { s.queue with events := s.queue.events ++ [element] } .offerSet) :=
      h.inside hpc rfl rfl rfl (by simp [Pc.FlagFits]) fun hset =>
        Or.inr (h.all_awake hpc rfl nofun hset)
    exact ⟨hput.owner, hput.flag, hput.awake⟩

theorem takeStep_inv {uninitialised : E} {s : State T E} (h : Inv s) {t : T}
    (hpc : s.pc t = .pollTake) : Inv (takeStep uninitialised s t) := by
  obtain ⟨hset, hnonempty⟩ := h.flag_at hpc rfl
  obtain ⟨front, rest, hevents⟩ := List.exists_cons_of_ne_nil hnonempty
  have hall : ∀ u, s.queue.cond.asleep u = false := h.all_awake hpc rfl nofun hset
  unfold takeStep
  simp only [hset, if_true, hevents]
  have hput : Inv (s.put t { s.queue with events := rest }
      (if rest.isEmpty then .pollReset front else .pollUnlock front)) := by
    cases rest with
    | nil => exact h.inside hpc rfl rfl rfl ⟨hset, rfl⟩ fun _ => Or.inr hall
    | cons next rest =>
        exact h.inside hpc rfl rfl rfl (by simp [Pc.FlagFits, hset]) fun _ => Or.inr hall
  exact ⟨hput.owner, hput.flag, hput.awake⟩

/-- One case per program point. -/
theorem runStep_inv [Inhabited E] {uninitialised : E} {s s' : State T E} (h : Inv s) {t : T}
    (hstep : runStep uninitialised s t = some s') : Inv s' := by
  unfold runStep at hstep
  cases hpc : s.pc t with
  | idle => simp [hpc] at hstep
  | offerLock element =>
      simp only [hpc] at hstep
      obtain ⟨hfree, rfl⟩ := State.lock_eq_some hstep
      exact h.locks hfree rfl fun _ _ => id
  | offerTest element =>
      simp only [hpc, Option.some.injEq] at hstep
      subst hstep
      exact offerStep_inv h hpc
  | offerSet =>
      simp only [hpc, Option.some.injEq] at hstep
      subst hstep
      exact h.inside hpc rfl rfl rfl ⟨rfl, h.flag_at hpc rfl⟩ fun _ => Or.inl rfl
  | offerNotify =>
      simp only [hpc, Option.some.injEq] at hstep
      subst hstep
      obtain ⟨-, hnonempty⟩ := h.flag_at hpc rfl
      have hflag : true = true ↔ s.queue.events ≠ [] := by simp [hnonempty]
      exact h.inside hpc rfl rfl rfl hflag fun _ => Or.inr fun _ => rfl
  | offerUnlock =>
      simp only [hpc, Option.some.injEq] at hstep
      subst hstep
      have hflag := h.flag_at hpc rfl
      exact h.unlocks hpc rfl nofun hflag
  | pollWait =>
      simp only [hpc] at hstep
      split at hstep
      · cases hstep
        exact h.outside (by rw [hpc]; rfl) rfl rfl fun _ _ hu => hu
      · next hset =>
        -- the thread goes to sleep, but only beside a cleared flag
        cases hstep
        exact h.outside (by rw [hpc]; rfl) rfl rfl fun hflag => absurd hflag hset
  | pollAsleep =>
      simp only [hpc] at hstep
      split at hstep
      · cases hstep
      · cases hstep
        exact h.outside (by rw [hpc]; rfl) rfl rfl fun _ _ hu => hu
  | pollLock =>
      simp only [hpc] at hstep
      obtain ⟨hfree, rfl⟩ := State.lock_eq_some hstep
      exact h.locks hfree rfl fun _ _ => id
  | pollTest =>
      have hflag := h.flag_at hpc rfl
      simp only [hpc] at hstep
      split at hstep
      · cases hstep
        exact h.inside_goto hpc rfl rfl nofun hflag
      · next htest =>
        cases hstep
        exact h.inside_goto hpc rfl rfl nofun (by simpa [Pc.FlagFits] using htest)
  | pollTake =>
      simp only [hpc, Option.some.injEq] at hstep
      subst hstep
      exact takeStep_inv h hpc
  | pollReset front =>
      simp only [hpc, Option.some.injEq] at hstep
      subst hstep
      obtain ⟨-, hempty⟩ := h.flag_at hpc rfl
      have hflag : false = true ↔ s.queue.events ≠ [] := by simp [hempty]
      exact h.inside hpc rfl rfl rfl hflag fun hset => nomatch hset
  | pollUnlock front =>
      simp only [hpc, Option.some.injEq] at hstep
      subst hstep
      have hflag := h.flag_at hpc rfl
      have hunlock := h.unlocks hpc rfl nofun hflag
      exact ⟨hunlock.owner, hunlock.flag, hunlock.awake⟩
  | sizeLock =>
      simp only [hpc] at hstep
      obtain ⟨hfree, rfl⟩ := State.lock_eq_some hstep
      exact h.locks hfree rfl fun _ _ => id
  | sizeRead =>
      simp only [hpc, Option.some.injEq] at hstep
      subst hstep
      have hflag := h.flag_at hpc rfl
      exact h.inside_goto hpc rfl rfl nofun hflag
  | sizeUnlock size =>
      simp only [hpc, Option.some.injEq] at hstep
      subst hstep
      have hflag := h.flag_at hpc rfl
      exact h.unlocks hpc rfl nofun hflag

theorem callStep_eq_some {s s' : State T E} {t : T} {pc : Pc E}
    (h : callStep s t pc = some s') : s.pc t = .idle ∧ s' = s.goto t pc := by
  unfold callStep at h
  cases hpc : s.pc t <;> simp_all

theorem callStep_inv {s s' : State T E} (h : Inv s) {t : T} {pc : Pc E}
    (hpc' : pc.locked = false) (hstep : callStep s t pc = some s') : Inv s' := by
  obtain ⟨hpc, rfl⟩ := callStep_eq_some hstep
  exact h.outside (by rw [hpc]; rfl) hpc' rfl fun _ _ hu => hu

theorem step_inv [Inhabited E] {uninitialised : E} {s s' : State T E} (h : Inv s)
    {a : Action T E} (hstep : step uninitialised s a = some s') : Inv s' := by
  cases a with
  | offer t element => exact callStep_inv h rfl hstep
  | poll t => exact callStep_inv h rfl hstep
  | size t => exact callStep_inv h rfl hstep
  | run t => exact runStep_inv h hstep
  | spuriousWake t =>
      cases hstep
      refine ⟨h.owner, h.flag, fun hset => (h.awake hset).imp id fun hall u => ?_⟩
      by_cases hu : u = t
      · simp [ConditionVariable.spuriousWake, hu]
      · simp [ConditionVariable.spuriousWake, hu, hall u]

omit [DecidableEq T] in
theorem new_inv (cap : Nat) : Inv (new T E cap) := by
  constructor
  · intro t
    simp [new, Pc.locked]
  · simp [new, State.holder, Pc.FlagFits, ConditionVariable.new, ConditionVariable.isSet]
  · intro _
    exact Or.inr fun _ => rfl

theorem reachable_inv [Inhabited E] {uninitialised : E}
    {ok : State T E → Action T E → Prop} {s : State T E}
    (h : (system T uninitialised).Reachable ok s) : Inv s := by
  refine h.invariant ?_ ?_
  · rintro s ⟨cap, rfl⟩
    exact new_inv cap
  · intro s a s' _ hs _ hstep
    exact step_inv hs hstep

/-! ## No lost wake-up -/

/-- With the queue's mutex free and elements in the queue, no thread is blocked
in `pthread_cond_wait`: every waiting consumer has been woken. -/
theorem not_asleep_of_nonempty [Inhabited E] {uninitialised : E} {s : State T E}
    (h : (system T uninitialised).Reachable StepSystem.unguarded s)
    (hfree : s.queue.mutex = none) (hnonempty : s.queue.events ≠ []) (t : T) :
    s.queue.cond.asleep t = false := by
  have hinv := reachable_inv h
  have hidle : s.holder = .idle := by simp [State.holder, hfree]
  have hflag := hinv.flag
  rw [hidle] at hflag
  obtain hnotify | hall := hinv.awake (hflag.mpr hnonempty)
  · rw [hidle] at hnotify
    cases hnotify
  · exact hall t

/-- A consumer goes to sleep on the empty queue and one `offer` wakes it up. -/
theorem not_asleep_of_nonempty_after_offer :
    ∃ s : State (Fin 2) Nat, (system (Fin 2) 0).Reachable StepSystem.unguarded s ∧
      s.queue.mutex = none ∧ s.queue.events = [5] ∧ s.pc 1 = .pollAsleep ∧
      s.queue.cond.asleep 1 = false := by
  obtain ⟨s, hreach, hfree, hevents, hpc⟩ :=
    StepSystem.exists_reachable_of_run (system (Fin 2) 0) StepSystem.unguarded (new (Fin 2) Nat 32)
      [.poll 1, .run 1, .offer 0 5, .run 0, .run 0, .run 0, .run 0, .run 0]
      (fun s => s.queue.mutex = none ∧ s.queue.events = [5] ∧ s.pc 1 = .pollAsleep)
      ⟨32, rfl⟩ (by decide)
  exact ⟨s, hreach, hfree, hevents, hpc,
    not_asleep_of_nonempty hreach hfree (by simp [hevents]) 1⟩

end EventQueue

end HdmiCec
