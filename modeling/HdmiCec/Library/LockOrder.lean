import HdmiCec.Library.StepSystem
import Mathlib.Logic.Function.Basic
import Mathlib.Order.Defs.PartialOrder

/-!
# Lock orders

Threads run programs that take recursive mutexes in nested scopes.  A program is kept as far
as its mutexes go: which branch it takes, how often it repeats and where it throws are left
open, and an exception leaves every scope that it passes.

The mutexes are ranked.  A program respects the ranks if each mutex that it takes is one
that it already holds, or ranks above all that it holds.  If all programs do, then in no
state that any number of threads reach in any interleaving does a thread wait, through a
chain of mutexes and their owners, for itself.
-/

universe u v w x

namespace LockOrder

variable {L : Type u} {T : Type v} {R : Type w} {Op : Type x}

/-! ## Programs -/

/-- What a program does with its mutexes.  `lock` is a scope that takes a mutex and releases
it at its end, `choose` takes one of its branches, `loop` repeats its body any number of
times, and `attempt` runs its handler if it catches what its body throws. -/
inductive Prog (L : Type u) where
  | skip
  | throws
  | lock (l : L) (body : Prog L)
  | seq (p q : Prog L)
  | choose (branch : Nat → Prog L)
  | loop (body : Prog L)
  | attempt (body handler : Prog L)

namespace Prog

def choice (p q : Prog L) : Prog L :=
  choose fun
    | 0 => p
    | _ + 1 => q

/-- A call or a test that may throw. -/
def mayThrow : Prog L := choice skip throws

/-- `while (test) body`. -/
def whileDo (test body : Prog L) : Prog L := seq (loop (seq test body)) test

/-- `do body while (..)`. -/
def doWhile (body : Prog L) : Prog L := seq body (loop body)

end Prog

/-! ## Ranks -/

section Ranks

variable [Preorder R] {rank : L → R} {held : List L} {k l : L}

/-- All mutexes held rank below `l`. -/
def Below (rank : L → R) (held : List L) (l : L) : Prop := ∀ k ∈ held, rank k < rank l

/-- A thread may take `l`: it has it already, or all that it holds rank below. -/
def Admits (rank : L → R) (held : List L) (l : L) : Prop := l ∈ held ∨ Below rank held l

theorem Below.nil (l : L) : Below rank [] l := by
  intro k hk
  cases hk

theorem Below.cons (h : Below rank held l) (hk : rank k < rank l) : Below rank (k :: held) l := by
  intro j hj
  rcases List.mem_cons.mp hj with rfl | hj
  · exact hk
  · exact h j hj

theorem Below.mono (h : Below rank held k) (hk : rank k < rank l) : Below rank held l :=
  fun j hj => lt_trans (h j hj) hk

/-- A mutex that was just taken leaves those above it free to take. -/
theorem Below.above (h : Below rank held k) (hk : rank k < rank l) : Below rank (k :: held) l :=
  (h.mono hk).cons hk

theorem Below.admits (h : Below rank held l) : Admits rank held l := .inr h

theorem Admits.again (held : List L) (l : L) : Admits rank (l :: held) l :=
  .inl List.mem_cons_self

theorem Admits.cons (h : Admits rank held l) (hk : rank k < rank l) :
    Admits rank (k :: held) l := by
  rcases h with hmem | hbelow
  · exact .inl (List.mem_cons_of_mem k hmem)
  · exact (hbelow.cons hk).admits

/-- A program that is started with the mutexes `held` respects the ranks. -/
def Prog.Ordered (rank : L → R) : List L → Prog L → Prop
  | _, .skip => True
  | _, .throws => True
  | held, .lock l body => Admits rank held l ∧ Ordered rank (l :: held) body
  | held, .seq p q => Ordered rank held p ∧ Ordered rank held q
  | held, .choose branch => ∀ n, Ordered rank held (branch n)
  | held, .loop body => Ordered rank held body
  | held, .attempt body handler => Ordered rank held body ∧ Ordered rank held handler

namespace Prog

variable {p q : Prog L}

theorem skip_ordered : (skip : Prog L).Ordered rank held := trivial

theorem throws_ordered : (throws : Prog L).Ordered rank held := trivial

theorem choice_ordered (hp : p.Ordered rank held) (hq : q.Ordered rank held) :
    (choice p q).Ordered rank held := by
  intro n
  cases n with
  | zero => exact hp
  | succ n => exact hq

theorem mayThrow_ordered : (mayThrow : Prog L).Ordered rank held :=
  choice_ordered skip_ordered throws_ordered

theorem whileDo_ordered (hp : p.Ordered rank held) (hq : q.Ordered rank held) :
    (whileDo p q).Ordered rank held :=
  ⟨⟨hp, hq⟩, hp⟩

theorem doWhile_ordered (hp : p.Ordered rank held) : (doWhile p).Ordered rank held := ⟨hp, hp⟩

end Prog

end Ranks

/-! ## Threads -/

/-- What is left on a thread's stack: a program to run, a mutex to release at the end of its
scope, a handler that stands by. -/
inductive Item (L : Type u) where
  | run (p : Prog L)
  | release (l : L)
  | handler (p : Prog L)

/-- A thread, and whether it is on its way out of scopes with an exception. -/
structure Thread (L : Type u) where
  stack : List (Item L)
  throwing : Bool

/-- The mutexes in whose scopes a stack is, each as often as it was taken. -/
def held : List (Item L) → List L
  | [] => []
  | .run _ :: rest => held rest
  | .release l :: rest => l :: held rest
  | .handler _ :: rest => held rest

/-- What a step of a thread does with the mutexes. -/
inductive Effect (L : Type u) where
  | none
  | lock (l : L)
  | unlock (l : L)

/-- The step that starts a program above `rest`; `n` decides what the program leaves open. -/
def Prog.start (rest : List (Item L)) (n : Nat) : Prog L → Thread L × Effect L
  | skip => (⟨rest, false⟩, .none)
  | throws => (⟨rest, true⟩, .none)
  | lock l body => (⟨.run body :: .release l :: rest, false⟩, .lock l)
  | seq p q => (⟨.run p :: .run q :: rest, false⟩, .none)
  | choose branch => (⟨.run (branch n) :: rest, false⟩, .none)
  | loop body =>
      match n with
      | 0 => (⟨rest, false⟩, .none)
      | _ + 1 => (⟨.run body :: .run (loop body) :: rest, false⟩, .none)
  | attempt body handler => (⟨.run body :: .handler handler :: rest, false⟩, .none)

/-- The step of a thread. -/
def Thread.next (th : Thread L) (n : Nat) : Option (Thread L × Effect L) :=
  match th with
  | ⟨[], _⟩ => none
  | ⟨.run p :: rest, false⟩ => some (p.start rest n)
  | ⟨.run _ :: rest, true⟩ => some (⟨rest, true⟩, .none)
  | ⟨.release l :: rest, throwing⟩ => some (⟨rest, throwing⟩, .unlock l)
  | ⟨.handler _ :: rest, false⟩ => some (⟨rest, false⟩, .none)
  | ⟨.handler p :: rest, true⟩ =>
      -- the exception is of a class that the handler catches, or it is not
      match n with
      | 0 => some (⟨.run p :: rest, false⟩, .none)
      | _ + 1 => some (⟨rest, true⟩, .none)

/-- The mutex that a thread takes in its next step. -/
def Thread.wants : Thread L → Option L
  | ⟨.run (.lock l _) :: _, false⟩ => some l
  | _ => none

/-! ## What a stack says about the mutexes -/

/-- What is left to run on a stack respects the ranks where it stands. -/
def Formed [Preorder R] (rank : L → R) : List (Item L) → Prop
  | [] => True
  | .run p :: rest => p.Ordered rank (held rest) ∧ Formed rank rest
  | .release _ :: rest => Formed rank rest
  | .handler p :: rest => p.Ordered rank (held rest) ∧ Formed rank rest

/-- The mutexes in whose scopes a thread is before and after a step with this effect. -/
def Effect.Between : Effect L → List L → List L → Prop
  | .none, before, after => after = before
  | .lock l, before, after => after = l :: before
  | .unlock l, before, after => before = l :: after

section Steps

variable {rest : List (Item L)} {n : Nat} {th th' : Thread L} {e : Effect L}

theorem start_formed [Preorder R] {rank : L → R} {p : Prog L} (hstep : p.start rest n = (th', e))
    (hp : p.Ordered rank (held rest)) (h : Formed rank rest) : Formed rank th'.stack := by
  cases p with
  | skip => cases hstep; exact h
  | throws => cases hstep; exact h
  | lock l body => cases hstep; exact ⟨hp.2, h⟩
  | seq p q => cases hstep; exact ⟨hp.1, hp.2, h⟩
  | choose branch => cases hstep; exact ⟨hp n, h⟩
  | loop body =>
      cases n with
      | zero => cases hstep; exact h
      | succ n => cases hstep; exact ⟨hp, hp, h⟩
  | attempt body handler => cases hstep; exact ⟨hp.1, hp.2, h⟩

theorem start_between {p : Prog L} (hstep : p.start rest n = (th', e)) :
    e.Between (held rest) (held th'.stack) := by
  cases p with
  | loop body => cases n <;> cases hstep <;> rfl
  | _ => cases hstep; rfl

theorem next_formed [Preorder R] {rank : L → R} (hstep : th.next n = some (th', e))
    (h : Formed rank th.stack) : Formed rank th'.stack := by
  fun_cases Thread.next th n with
  | case1 => cases hstep
  | case2 =>
      have hstart := Option.some.inj hstep
      exact start_formed hstart h.1 h.2
  | case3 => cases hstep; exact h.2
  | case4 => cases hstep; exact h
  | case5 => cases hstep; exact h.2
  | case6 => cases hstep; exact ⟨h.1, h.2⟩
  | case7 => cases hstep; exact h.2

theorem next_between (hstep : th.next n = some (th', e)) :
    e.Between (held th.stack) (held th'.stack) := by
  fun_cases Thread.next th n with
  | case1 => cases hstep
  | case2 =>
      have hbetween := start_between (Option.some.inj hstep)
      exact hbetween
  | _ => cases hstep; rfl

/-- A thread that is not done always has a step of its own to take. -/
theorem next_ne_none (hwork : th.stack ≠ []) (n : Nat) :
    ∃ th' e, th.next n = some (th', e) := by
  fun_cases Thread.next th n with
  | case1 => exact absurd rfl hwork
  | _ => exact ⟨_, _, rfl⟩

theorem of_wants {l : L} (h : th.wants = some l) :
    ∃ body rest, th = ⟨.run (.lock l body) :: rest, false⟩ := by
  unfold Thread.wants at h
  split at h
  · next k body rest =>
    cases h
    exact ⟨body, rest, rfl⟩
  · cases h

/-- The steps that take a mutex are those of a thread that wants it. -/
theorem wants_iff {l : L} (hstep : th.next n = some (th', e)) :
    th.wants = some l ↔ e = .lock l := by
  constructor
  · intro hwant
    obtain ⟨body, rest, rfl⟩ := of_wants hwant
    cases hstep
    rfl
  · rintro rfl
    fun_cases Thread.next th n with
    | case1 => cases hstep
    | case2 rest p =>
        have hstart := Option.some.inj hstep
        cases p with
        | lock k body => cases hstart; rfl
        | loop body => cases n <;> cases hstart
        | _ => cases hstart
    | _ => cases hstep

end Steps

/-! ## The system -/

/-- The owner of each mutex, with how many times it took it again since. -/
abbrev Owners (L : Type u) (T : Type v) := L → Option (T × Nat)

structure State (L : Type u) (T : Type v) where
  thread : T → Thread L
  owner : Owners L T

/-- A thread starts one of the operations, or goes on with the one that it is in. -/
inductive Action (T : Type v) (Op : Type x) where
  | call (t : T) (op : Op)
  | next (t : T) (n : Nat)

section System

variable [DecidableEq L] [DecidableEq T]

/-- A recursive mutex can be taken if it is free, or by its owner. -/
def Owners.acquire (owner : Owners L T) (t : T) (l : L) : Option (Owners L T) :=
  match owner l with
  | none => some (Function.update owner l (some (t, 0)))
  | some (u, n) => if u = t then some (Function.update owner l (some (t, n + 1))) else none

/-- A mutex becomes free when its owner has released it as often as it took it. -/
def Owners.release (owner : Owners L T) (t : T) (l : L) : Owners L T :=
  match owner l with
  | some (u, n + 1) => if u = t then Function.update owner l (some (t, n)) else owner
  | some (u, 0) => if u = t then Function.update owner l none else owner
  | none => owner

def Owners.effect (owner : Owners L T) (t : T) : Effect L → Option (Owners L T)
  | .none => some owner
  | .lock l => owner.acquire t l
  | .unlock l => some (owner.release t l)

def State.setThread (s : State L T) (t : T) (th : Thread L) (owner : Owners L T) : State L T where
  thread := Function.update s.thread t th
  owner := owner

/-- Threads in any number whose operations run the programs `code`. -/
def system (code : Op → Prog L) : StepSystem (State L T) (Action T Op) where
  initial s := (∀ t, (s.thread t).stack = []) ∧ ∀ l, s.owner l = none
  step s
    | .call t op =>
        if (s.thread t).stack.isEmpty then
          some (s.setThread t ⟨[.run (code op)], false⟩ s.owner)
        else none
    | .next t n =>
        match (s.thread t).next n with
        | none => none
        | some (th, e) => (s.owner.effect t e).map (s.setThread t th)

/-- Thread `t` is about to take a mutex that thread `u` has. -/
def WaitsFor (s : State L T) (t u : T) : Prop :=
  ∃ l n, (s.thread t).wants = some l ∧ s.owner l = some (u, n) ∧ u ≠ t

omit [DecidableEq L] in
theorem State.setThread_self (s : State L T) (t : T) (th : Thread L) (owner : Owners L T) :
    (s.setThread t th owner).thread t = th := by
  simp [State.setThread]

omit [DecidableEq L] in
theorem State.setThread_other {t u : T} (hne : u ≠ t) (s : State L T) (th : Thread L)
    (owner : Owners L T) : (s.setThread t th owner).thread u = s.thread u := by
  simp [State.setThread, hne]

theorem next_cases {code : Op → Prog L} {s s' : State L T} {t : T} {n : Nat}
    (hstep : (system code).step s (.next t n) = some s') :
    ∃ th e owner', (s.thread t).next n = some (th, e) ∧ s.owner.effect t e = some owner' ∧
      s' = s.setThread t th owner' := by
  simp only [system] at hstep
  split at hstep
  · cases hstep
  · next th e hnext =>
    obtain ⟨owner', heff, hs'⟩ := Option.map_eq_some_iff.mp hstep
    exact ⟨th, e, owner', hnext, heff, hs'.symm⟩

theorem Owners.acquire_eq_none_iff {owner : Owners L T} {t : T} {l : L} :
    owner.acquire t l = none ↔ ∃ u n, owner l = some (u, n) ∧ u ≠ t := by
  unfold Owners.acquire
  split
  · next hfree => simp [hfree]
  · next u n howner =>
    by_cases hu : u = t <;> simp [howner, hu]

/-- A thread with something left to run is stopped only by a mutex that another thread has. -/
theorem next_eq_none_iff {code : Op → Prog L} {s : State L T} {t : T} {n : Nat}
    (hwork : (s.thread t).stack ≠ []) :
    (system code).step s (.next t n) = none ↔ ∃ u, WaitsFor s t u := by
  obtain ⟨th, e, hnext⟩ := next_ne_none hwork n
  have hstep : (system code).step s (.next t n) =
      (s.owner.effect t e).map (s.setThread t th) := by
    simp only [system, hnext]
  rw [hstep, Option.map_eq_none_iff]
  constructor
  · intro hnone
    cases e with
    | none => cases hnone
    | lock l =>
        obtain ⟨u, k, howner, hne⟩ := Owners.acquire_eq_none_iff.mp hnone
        exact ⟨u, l, k, (wants_iff hnext).mpr rfl, howner, hne⟩
    | unlock l => cases hnone
  · rintro ⟨u, l, k, hwant, howner, hne⟩
    rw [(wants_iff hnext).mp hwant]
    exact Owners.acquire_eq_none_iff.mpr ⟨u, k, howner, hne⟩

/-- How often a thread has taken a mutex without having released it. -/
def Owners.times (owner : Owners L T) (t : T) (l : L) : Nat :=
  match owner l with
  | some (u, n) => if t = u then n + 1 else 0
  | none => 0

section Owners

variable {owner owner' : Owners L T} {t u : T} {l : L} {n : Nat}

omit [DecidableEq L] in
theorem Owners.times_owner (h : owner l = some (t, n)) : owner.times t l = n + 1 := by
  simp [Owners.times, h]

omit [DecidableEq L] in
/-- Who has taken a mutex is its owner. -/
theorem Owners.owner_of_times (h : owner.times t l ≠ 0) :
    ∃ n, owner l = some (t, n) := by
  unfold Owners.times at h
  split at h
  · next u n howner =>
    split at h
    · next heq => exact ⟨n, heq.symm ▸ howner⟩
    · exact absurd rfl h
  · exact absurd rfl h

theorem Owners.acquire_times (h : owner.acquire t l = some owner') (u : T) (k : L) :
    owner'.times u k = owner.times u k + if u = t ∧ l = k then 1 else 0 := by
  unfold Owners.acquire at h
  split at h
  · next hfree =>
    cases h
    by_cases hk : k = l
    · subst hk
      by_cases hu : u = t <;> simp [Owners.times, hfree, hu]
    · simp [Owners.times, hk, Ne.symm hk]
  · next v n howner =>
    split at h
    · next hv =>
      cases h
      subst hv
      by_cases hk : k = l
      · subst hk
        by_cases hu : u = v <;> simp [Owners.times, howner, hu]
      · simp [Owners.times, hk, Ne.symm hk]
    · cases h

theorem Owners.release_times (h : owner.times t l ≠ 0) (u : T) (k : L) :
    (owner.release t l).times u k + (if u = t ∧ l = k then 1 else 0) = owner.times u k := by
  obtain ⟨n, howner⟩ := Owners.owner_of_times h
  by_cases hk : k = l
  · subst hk
    cases n <;> by_cases hu : u = t <;> simp [Owners.times, Owners.release, howner, hu]
  · cases n <;> simp [Owners.times, Owners.release, howner, hk, Ne.symm hk]

end Owners

/-- The owners of the mutexes are the threads in whose scopes they are, and each thread's
stack respects the ranks. -/
structure Inv [Preorder R] (rank : L → R) (s : State L T) : Prop where
  formed : ∀ t, Formed rank (s.thread t).stack
  times : ∀ t l, s.owner.times t l = (held (s.thread t).stack).count l

section Invariant

variable [Preorder R] {rank : L → R} {s s' : State L T} {t u v : T} {k l : L} {n : Nat}
  {th : Thread L} {e : Effect L} {owner' : Owners L T}

/-- A step of a thread changes its own count of each mutex as it changes its scopes. -/
theorem Inv.effect_self (h : Inv rank s) (hstep : (s.thread t).next n = some (th, e))
    (heff : s.owner.effect t e = some owner') (l : L) :
    owner'.times t l = (held th.stack).count l := by
  have hbefore := h.times t
  have hbetween := next_between hstep
  cases e with
  | none =>
      cases heff
      rw [hbetween]
      exact hbefore l
  | lock k =>
      rw [Owners.acquire_times heff t l, hbefore l, hbetween, List.count_cons]
      simp
  | unlock k =>
      cases heff
      have htaken : s.owner.times t k ≠ 0 := by
        rw [hbefore k, hbetween, List.count_cons_self]
        exact Nat.succ_ne_zero _
      have hrelease := Owners.release_times htaken t l
      rw [hbefore l, hbetween, List.count_cons] at hrelease
      simpa using hrelease

theorem Inv.effect_other (h : Inv rank s) (hstep : (s.thread t).next n = some (th, e))
    (heff : s.owner.effect t e = some owner') (hne : u ≠ t) (l : L) :
    owner'.times u l = s.owner.times u l := by
  have hbetween := next_between hstep
  cases e with
  | none =>
      cases heff
      rfl
  | lock k =>
      have hacquire := Owners.acquire_times heff u l
      simpa [hne] using hacquire
  | unlock k =>
      cases heff
      have htaken : s.owner.times t k ≠ 0 := by
        rw [h.times t k, hbetween, List.count_cons_self]
        exact Nat.succ_ne_zero _
      have hrelease := Owners.release_times htaken u l
      simpa [hne] using hrelease

/-- A thread goes on: its own stack and count fit together, those of the others stay. -/
theorem Inv.setThread (h : Inv rank s) (hformed : Formed rank th.stack)
    (hself : ∀ l, owner'.times t l = (held th.stack).count l)
    (hother : ∀ u, u ≠ t → ∀ l, owner'.times u l = s.owner.times u l) :
    Inv rank (s.setThread t th owner') := by
  constructor
  · intro u
    by_cases hu : u = t
    · rw [hu, State.setThread_self]
      exact hformed
    · rw [State.setThread_other hu]
      exact h.formed u
  · intro u l
    by_cases hu : u = t
    · rw [hu, State.setThread_self]
      exact hself l
    · rw [State.setThread_other hu, ← h.times u l]
      exact hother u hu l

variable {code : Op → Prog L}

theorem Inv.step {a : Action T Op} (hcode : ∀ op, (code op).Ordered rank []) (h : Inv rank s)
    (hstep : (system code).step s a = some s') : Inv rank s' := by
  cases a with
  | call t op =>
      obtain ⟨hidle, hs'⟩ := Option.ite_none_right_eq_some.mp hstep
      have hempty : (s.thread t).stack = [] := List.isEmpty_iff.mp hidle
      cases hs'
      refine h.setThread ⟨hcode op, trivial⟩ (fun l => ?_) (fun u _ l => rfl)
      have htimes := h.times t l
      rw [hempty] at htimes
      exact htimes
  | next t n =>
      obtain ⟨th, e, owner', hnext, heff, rfl⟩ := next_cases hstep
      refine h.setThread (next_formed hnext (h.formed t)) ?_ ?_
      · intro l
        exact h.effect_self hnext heff l
      · intro u hu l
        exact h.effect_other hnext heff hu l

theorem Inv.reachable (hcode : ∀ op, (code op).Ordered rank [])
    (h : (system code).Reachable StepSystem.unguarded s) : Inv (T := T) rank s := by
  refine h.invariant (I := Inv rank) ?_ ?_
  · rintro s ⟨hstack, howner⟩
    refine ⟨fun t => ?_, fun t l => ?_⟩
    · rw [hstack t]
      trivial
    · rw [hstack t, Owners.times, howner l]
      rfl
  · intro s a s' _ hs _ hstep
    exact hs.step hcode hstep

/-! ## Waiting -/

/-- A mutex that a thread holds has that thread as its owner. -/
theorem Inv.mem_held_iff (h : Inv rank s) :
    l ∈ held (s.thread t).stack ↔ ∃ n, s.owner l = some (t, n) := by
  rw [← List.count_pos_iff, ← h.times t l]
  constructor
  · intro hpos
    exact Owners.owner_of_times (Nat.ne_of_gt hpos)
  · rintro ⟨n, howner⟩
    rw [Owners.times_owner howner]
    exact Nat.succ_pos n

/-- The mutex that a thread waits for ranks above all that the thread holds. -/
theorem Inv.below_of_waits (h : Inv rank s) (hwant : (s.thread t).wants = some l)
    (hwaits : ∃ u, WaitsFor s t u) : Below rank (held (s.thread t).stack) l := by
  obtain ⟨u, k, n, hwant', howner, hne⟩ := hwaits
  obtain rfl : l = k := Option.some.inj (hwant.symm.trans hwant')
  have hformed := h.formed t
  have hnot : l ∉ held (s.thread t).stack := by
    intro hmem
    obtain ⟨m, howner'⟩ := h.mem_held_iff.mp hmem
    rw [howner] at howner'
    cases howner'
    exact hne rfl
  obtain ⟨body, rest, hth⟩ := of_wants hwant
  rw [hth] at hformed hnot ⊢
  exact hformed.1.1.resolve_left hnot

/-- Along a chain of waiting threads the ranks of the mutexes that they wait for rise. -/
theorem Inv.rank_lt_of_chain (h : Inv rank s) (hchain : Relation.TransGen (WaitsFor s) t u)
    (hwaits : ∃ v, WaitsFor s u v) (hwant : (s.thread u).wants = some l) :
    ∃ k, (s.thread t).wants = some k ∧ rank k < rank l := by
  induction hchain generalizing l with
  | single hfirst =>
      obtain ⟨k, n, hwant', howner, -⟩ := hfirst
      have hheld := h.mem_held_iff.mpr ⟨n, howner⟩
      exact ⟨k, hwant', h.below_of_waits hwant hwaits k hheld⟩
  | tail _ hlast ih =>
      obtain ⟨k, n, hwant', howner, -⟩ := id hlast
      have hheld := h.mem_held_iff.mpr ⟨n, howner⟩
      have hlt := h.below_of_waits hwant hwaits k hheld
      obtain ⟨j, hfirst, hrise⟩ := ih ⟨_, hlast⟩ hwant'
      exact ⟨j, hfirst, lt_trans hrise hlt⟩

/-- No thread waits for itself, through any number of others. -/
theorem acyclic_of_ordered (hcode : ∀ op, (code op).Ordered rank [])
    (h : (system code).Reachable StepSystem.unguarded s) (t : T) :
    ¬ Relation.TransGen (WaitsFor s) t t := by
  intro hcycle
  obtain ⟨u, hfirst, -⟩ := Relation.TransGen.head'_iff.mp hcycle
  obtain ⟨l, n, hwant, howner, hne⟩ := id hfirst
  obtain ⟨k, hwant', hlt⟩ :=
    (Inv.reachable hcode h).rank_lt_of_chain hcycle ⟨u, hfirst⟩ hwant
  obtain rfl : k = l := Option.some.inj (hwant'.symm.trans hwant)
  exact lt_irrefl _ hlt

/-- Of the threads that are not done one does not wait, if no chain of ranks rises for ever. -/
theorem Inv.exists_not_waiting (h : Inv rank s)
    (hwf : WellFounded fun k l : L => rank l < rank k) (hwork : (s.thread t).stack ≠ []) :
    ∃ u, (s.thread u).stack ≠ [] ∧ ¬ ∃ v, WaitsFor s u v := by
  by_cases hwaits : ∃ u, WaitsFor s t u
  · obtain ⟨u, l, n, hwant, howner, hne⟩ := hwaits
    clear hwant hne
    -- go from the owner of the mutex that is waited for to the owner of the next one
    induction l using hwf.induction generalizing u n with
    | _ l ih =>
        have hheld := h.mem_held_iff.mpr ⟨n, howner⟩
        by_cases hnext : ∃ v, WaitsFor s u v
        · obtain ⟨v, k, m, hwant, howner', hne⟩ := id hnext
          have hlt := h.below_of_waits hwant hnext l hheld
          exact ih k hlt v m howner'
        · refine ⟨u, ?_, hnext⟩
          intro hempty
          rw [hempty] at hheld
          cases hheld
  · exact ⟨t, hwork, hwaits⟩

/-- As long as a thread has something left to run, some thread can go on. -/
theorem exists_step_of_ordered (hcode : ∀ op, (code op).Ordered rank [])
    (hwf : WellFounded fun k l : L => rank l < rank k)
    (h : (system code).Reachable StepSystem.unguarded s) (hwork : (s.thread t).stack ≠ []) :
    ∃ u, ∀ n, ∃ s', (system code).step s (.next u n) = some s' := by
  obtain ⟨u, hwork', hnot⟩ := (Inv.reachable hcode h).exists_not_waiting hwf hwork
  refine ⟨u, fun n => Option.ne_none_iff_exists'.mp ?_⟩
  intro hnone
  exact hnot ((next_eq_none_iff hwork').mp hnone)

end Invariant

end System

end LockOrder
