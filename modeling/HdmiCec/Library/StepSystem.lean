import Mathlib.Logic.Relation

/-!
# Labelled step systems

A step system is a set of initial states and a partial step function: the
label says which part of the system moves and how every choice left open is
taken, so that one step is a computation and a run is a list of labels.

Runs are restricted by a guard on steps.  A guard is a condition on the state
before a step and on its label; `unguarded` allows everything.  The file has
the rules that proofs about such systems use:

* `Reachable.invariant`: what holds initially and is preserved by the allowed
  steps holds in every reachable state;
* `Leads.invariant`: the same rule for the states behind a given one;
* `exists_reachable_of_run`: a computed run ends in a reachable state;
* `run_bound`: a measure bounds how often a run takes the steps that lower it;
* `exists_run_of_decreasing`: a measure that can be lowered until the goal is reached;
* `Simulation.reachable`: a system whose steps are matched by another one only
  reaches states that are related to states the other one reaches;
* `Reachable.left` and `Reachable.right`: of two systems side by side each one
  reaches only what it reaches alone.
-/

universe u v w x

/-- Initial states and a partial step function on labels. -/
structure StepSystem (σ : Type u) (α : Type v) where
  initial : σ → Prop
  step : σ → α → Option σ

namespace StepSystem

variable {σ : Type u} {α : Type v} {τ : Type w} {β : Type x}

/-- The guard that allows every step. -/
def unguarded (_ : σ) (_ : α) : Prop := True

/-- One allowed step. -/
def Moves (S : StepSystem σ α) (ok : σ → α → Prop) (s s' : σ) : Prop :=
  ∃ a, ok s a ∧ S.step s a = some s'

/-- The states that allowed steps lead to from an initial state. -/
def Reachable (S : StepSystem σ α) (ok : σ → α → Prop) (s : σ) : Prop :=
  ∃ s₀, S.initial s₀ ∧ Relation.ReflTransGen (S.Moves ok) s₀ s

variable {S : StepSystem σ α} {ok ok' : σ → α → Prop}

/-- Allowed steps lead from one state to the other. -/
def Leads (S : StepSystem σ α) (ok : σ → α → Prop) (s s' : σ) : Prop :=
  Relation.ReflTransGen (S.Moves ok) s s'

theorem Leads.refl (s : σ) : S.Leads ok s s := Relation.ReflTransGen.refl

theorem Leads.next {s s' s'' : σ} {a : α} (h : S.Leads ok s s') (hok : ok s' a)
    (hstep : S.step s' a = some s'') : S.Leads ok s s'' :=
  h.tail ⟨a, hok, hstep⟩

theorem Leads.single {s s' : σ} {a : α} (hok : ok s a) (hstep : S.step s a = some s') :
    S.Leads ok s s' :=
  (Leads.refl s).next hok hstep

theorem Leads.trans {s s' s'' : σ} (h : S.Leads ok s s') (h' : S.Leads ok s' s'') :
    S.Leads ok s s'' :=
  Relation.ReflTransGen.trans h h'

/-- What holds in a state and is preserved by the allowed steps holds in every state
that they lead to. -/
theorem Leads.invariant {I : σ → Prop} {s s' : σ} (h : S.Leads ok s s')
    (hstep : ∀ t a t', S.Leads ok s t → I t → ok t a → S.step t a = some t' → I t')
    (hs : I s) : I s' := by
  induction h with
  | refl => exact hs
  | tail hrun hmove ih =>
      obtain ⟨a, hok, hnext⟩ := hmove
      exact hstep _ a _ hrun ih hok hnext

/-- A weaker guard leads to more states. -/
theorem Leads.mono (himp : ∀ s a, ok s a → ok' s a) {s s' : σ} (h : S.Leads ok s s') :
    S.Leads ok' s s' := by
  have hmoves : ∀ t t', S.Moves ok t t' → S.Moves ok' t t' := by
    rintro t t' ⟨a, hok, hstep⟩
    exact ⟨a, himp t a hok, hstep⟩
  exact Relation.ReflTransGen.mono hmoves _ _ h

theorem Reachable.of_initial {s : σ} (h : S.initial s) : S.Reachable ok s :=
  ⟨s, h, .refl⟩

/-- What a reachable state leads to is reachable. -/
theorem Reachable.leads {s s' : σ} (h : S.Reachable ok s) (hlead : S.Leads ok s s') :
    S.Reachable ok s' := by
  obtain ⟨s₀, hinitial, hrun⟩ := h
  exact ⟨s₀, hinitial, hrun.trans hlead⟩

theorem Reachable.next {s s' : σ} {a : α} (h : S.Reachable ok s) (hok : ok s a)
    (hstep : S.step s a = some s') : S.Reachable ok s' :=
  h.leads (Leads.single hok hstep)

/-- A weaker guard reaches more states. -/
theorem Reachable.mono (himp : ∀ s a, ok s a → ok' s a) {s : σ}
    (h : S.Reachable ok s) : S.Reachable ok' s := by
  obtain ⟨s₀, hinitial, hrun⟩ := h
  exact ⟨s₀, hinitial, Leads.mono himp hrun⟩

theorem Reachable.unguarded {s : σ} (h : S.Reachable ok s) :
    S.Reachable StepSystem.unguarded s :=
  h.mono fun _ _ _ => trivial

/-- The invariant rule.  The step case may use that the state before the step
is itself reachable, and hence every invariant proved earlier. -/
theorem Reachable.invariant {I : σ → Prop} (hinitial : ∀ s, S.initial s → I s)
    (hstep : ∀ s a s', S.Reachable ok s → I s → ok s a → S.step s a = some s' → I s')
    {s : σ} (h : S.Reachable ok s) : I s := by
  obtain ⟨s₀, h₀, hrun⟩ := h
  refine Leads.invariant hrun ?_ (hinitial s₀ h₀)
  intro t a t' hlead
  exact hstep t a t' ⟨s₀, h₀, hlead⟩

/-! ## Computed runs -/

instance (s : σ) (a : α) : Decidable (unguarded s a) := inferInstanceAs (Decidable True)

/-- Take the steps of a list of labels in order, as long as the guard allows
them. -/
def run (S : StepSystem σ α) (ok : σ → α → Prop) [∀ s a, Decidable (ok s a)] :
    σ → List α → Option σ
  | s, [] => some s
  | s, a :: rest => if ok s a then (S.step s a).bind fun s' => S.run ok s' rest else none

theorem leads_of_run [∀ s a, Decidable (ok s a)] {labels : List α} :
    ∀ {s s' : σ}, S.run ok s labels = some s' → S.Leads ok s s' := by
  induction labels with
  | nil =>
      intro s s' hrun
      cases hrun
      exact .refl s
  | cons a rest ih =>
      intro s s' hrun
      rw [StepSystem.run] at hrun
      split at hrun
      · next hok =>
        obtain ⟨next, hstep, hrest⟩ := Option.bind_eq_some_iff.mp hrun
        exact (Leads.single hok hstep).trans (ih hrest)
      · cases hrun

theorem Reachable.run [∀ s a, Decidable (ok s a)] {labels : List α} {s s' : σ}
    (h : S.Reachable ok s) (hrun : S.run ok s labels = some s') : S.Reachable ok s' :=
  h.leads (leads_of_run hrun)

/-- The labels of a run that satisfy `p` are as many as the measure of its first state,
and `k` more for each label that satisfies `q`, when every step of the first kind lowers
the measure and none but those of the second kind raises it. -/
theorem run_bound [∀ s a, Decidable (ok s a)] {I : σ → Prop} {measure : σ → Nat}
    {p q : α → Bool} {k : Nat}
    (hstep : ∀ s a s', I s → ok s a → S.step s a = some s' → I s' ∧
      measure s' + (if p a then 1 else 0) ≤ measure s + k * (if q a then 1 else 0))
    {labels : List α} : ∀ {s s' : σ}, I s → S.run ok s labels = some s' →
      measure s' + labels.countP p ≤ measure s + k * labels.countP q := by
  induction labels with
  | nil =>
      intro s s' _ hrun
      cases hrun
      simp
  | cons a rest ih =>
      intro s s' hs hrun
      rw [StepSystem.run] at hrun
      split at hrun
      · next hok =>
        obtain ⟨next, hnext, hrest⟩ := Option.bind_eq_some_iff.mp hrun
        obtain ⟨hI, hfirst⟩ := hstep s a next hs hok hnext
        have hthen := ih hI hrest
        rw [List.countP_cons, List.countP_cons, Nat.mul_add]
        omega
      · cases hrun

/-- Where an allowed step lowers the measure as long as the goal is not reached, a run of at
most as many steps reaches it. -/
theorem exists_run_of_decreasing [∀ s a, Decidable (ok s a)] {I goal : σ → Prop}
    (measure : σ → Nat)
    (hprogress : ∀ s, I s → ¬ goal s →
      ∃ a s', ok s a ∧ S.step s a = some s' ∧ I s' ∧ measure s' < measure s) {s : σ} (hs : I s) :
    ∃ labels s', S.run ok s labels = some s' ∧ labels.length ≤ measure s ∧ I s' ∧ goal s' := by
  induction hn : measure s using Nat.strongRecOn generalizing s with
  | ind n ih =>
      by_cases hgoal : goal s
      · exact ⟨[], s, rfl, Nat.zero_le n, hs, hgoal⟩
      · obtain ⟨a, next, hok, hstep, hnext, hlower⟩ := hprogress s hs hgoal
        obtain ⟨labels, s', hrun, hlength, hs', hreached⟩ :=
          ih (measure next) (hn ▸ hlower) hnext rfl
        refine ⟨a :: labels, s', ?_, ?_, hs', hreached⟩
        · rw [StepSystem.run, if_pos hok, hstep]
          exact hrun
        · rw [List.length_cons]
          omega

variable (S ok) in
/-- A computed run whose last state passes a test reaches such a state. -/
theorem exists_reachable_of_run [∀ s a, Decidable (ok s a)] (s₀ : σ) (labels : List α)
    (P : σ → Prop) [DecidablePred P] (hinitial : S.initial s₀)
    (hrun : (S.run ok s₀ labels).map (fun s => decide (P s)) = some true) :
    ∃ s, S.Reachable ok s ∧ P s := by
  obtain ⟨s, hlast, htest⟩ := Option.map_eq_some_iff.mp hrun
  exact ⟨s, (Reachable.of_initial hinitial).run hlast, of_decide_eq_true htest⟩

/-! ## Simulation -/

/-- `R` relates the states of `S` to states of `T` so that every allowed step
of `S` is matched by allowed steps of `T`, possibly none. -/
structure Simulation (S : StepSystem σ α) (ok : σ → α → Prop)
    (T : StepSystem τ β) (okT : τ → β → Prop) (R : σ → τ → Prop) : Prop where
  initial : ∀ s, S.initial s → ∃ t, T.initial t ∧ R s t
  step : ∀ s t a s', S.Reachable ok s → T.Reachable okT t → R s t → ok s a →
    S.step s a = some s' → ∃ t', Relation.ReflTransGen (T.Moves okT) t t' ∧ R s' t'

/-- Every reachable state of the simulated system is related to a reachable
state of the simulating one. -/
theorem Simulation.reachable {T : StepSystem τ β} {okT : τ → β → Prop}
    {R : σ → τ → Prop} (h : Simulation S ok T okT R) {s : σ}
    (hs : S.Reachable ok s) : ∃ t, T.Reachable okT t ∧ R s t := by
  refine Reachable.invariant (I := fun s => ∃ t, T.Reachable okT t ∧ R s t) ?_ ?_ hs
  · intro s hinitial
    obtain ⟨t, ht, hR⟩ := h.initial s hinitial
    exact ⟨t, .of_initial ht, hR⟩
  · rintro s a s' hreach ⟨t, ht, hR⟩ hok hstep
    obtain ⟨t', hmatch, hR'⟩ := h.step s t a s' hreach ht hR hok hstep
    obtain ⟨t₀, ht₀, hrun⟩ := ht
    exact ⟨t', ⟨t₀, ht₀, hrun.trans hmatch⟩, hR'⟩

/-! ## Two systems side by side -/

/-- Each step is one of the first system or one of the second; `enabled` says which
steps of the second the state of the first admits. -/
def par (S : StepSystem σ α) (T : StepSystem τ β) (enabled : σ → τ → β → Bool) :
    StepSystem (σ × τ) (α ⊕ β) where
  initial p := S.initial p.1 ∧ T.initial p.2
  step p
    | .inl a => (S.step p.1 a).map fun s => (s, p.2)
    | .inr b => if enabled p.1 p.2 b then (T.step p.2 b).map fun t => (p.1, t) else none

section Par

variable {T : StepSystem τ β} {enabled : σ → τ → β → Bool}

theorem par_step_inl {p p' : σ × τ} {a : α} (h : (S.par T enabled).step p (.inl a) = some p') :
    S.step p.1 a = some p'.1 ∧ p'.2 = p.2 := by
  obtain ⟨s, hs, rfl⟩ := Option.map_eq_some_iff.mp h
  exact ⟨hs, rfl⟩

theorem par_step_inr {p p' : σ × τ} {b : β} (h : (S.par T enabled).step p (.inr b) = some p') :
    T.step p.2 b = some p'.2 ∧ p'.1 = p.1 := by
  simp only [par] at h
  split at h
  · obtain ⟨t, ht, rfl⟩ := Option.map_eq_some_iff.mp h
    exact ⟨ht, rfl⟩
  · cases h

/-- A reachable state of the pair has a reachable first half. -/
theorem Reachable.left {p : σ × τ} (h : (S.par T enabled).Reachable StepSystem.unguarded p) :
    S.Reachable StepSystem.unguarded p.1 := by
  refine h.invariant (I := fun p => S.Reachable StepSystem.unguarded p.1) ?_ ?_
  · exact fun p hp => .of_initial hp.1
  · intro p a p' _ hp _ hstep
    cases a with
    | inl a => exact hp.next trivial (par_step_inl hstep).1
    | inr b => rw [(par_step_inr hstep).2]; exact hp

/-- A reachable state of the pair has a reachable second half. -/
theorem Reachable.right {p : σ × τ} (h : (S.par T enabled).Reachable StepSystem.unguarded p) :
    T.Reachable StepSystem.unguarded p.2 := by
  refine h.invariant (I := fun p => T.Reachable StepSystem.unguarded p.2) ?_ ?_
  · exact fun p hp => .of_initial hp.2
  · intro p a p' _ hp _ hstep
    cases a with
    | inl a => rw [(par_step_inl hstep).2]; exact hp
    | inr b => exact hp.next trivial (par_step_inr hstep).1

end Par

end StepSystem
