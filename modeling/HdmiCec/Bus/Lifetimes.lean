import HdmiCec.Bus.FanOut
import HdmiCec.Library.StepSystem

/-!
# Connections that come and go

A `Connection` is constructed, opened by its constructor or later, closed, and
destroyed; the destructor does nothing.  The list of the bus holds a pointer into every
connection that is open, and `close` takes it out again on a started bus only.

`C` are the objects, so that an address which is used again counts as a new element.
The pointers in the list are those of the connections that are open
(`reachable_listed_iff`), so they stay alive exactly as long as no open connection is
destroyed.
-/

namespace HdmiCec

namespace Lifetimes

/-- The life of an object. -/
inductive Life where
  | unborn
  | alive
  | destroyed
  deriving DecidableEq

/-- The lists and the objects.  `isOpen` says that an `open` of the connection has
returned, that of the constructor included, and no `close` has returned since. -/
structure State (C L : Type) where
  registry : Registry C L
  life : C → Life
  isOpen : C → Bool

inductive Action (C L : Type) where
  | construct (c : C) (opened : Bool)
  | call (function : Registry.Call C L)
  | destroy (c : C)
  deriving DecidableEq

variable {C L : Type}

/-- The object that a call is made on. -/
def connection : Registry.Call C L → Option C
  | .connectionOpen c | .connectionClose c => some c
  | .addFrameListener c _ | .removeFrameListener c _ => some c
  | .busStarted _ => none

variable [DecidableEq C] [DecidableEq L]

/-- The marks behind a call that has returned or thrown. -/
def marks (isOpen : C → Bool) : Registry.Call C L → Result Unit → C → Bool
  | .connectionOpen c, .ok () => Function.update isOpen c true
  | .connectionClose c, .ok () => Function.update isOpen c false
  | _, _ => isOpen

/-- An exception in the constructor leaves no object behind. -/
def step (s : State C L) : Action C L → Option (State C L)
  | .construct c opened =>
      if s.life c = .unborn then
        if opened then
          match s.registry.call (Registry.connectionOpen c) with
          | (registry, .ok ()) =>
              some
                { registry := registry
                  life := Function.update s.life c .alive
                  isOpen := Function.update s.isOpen c true }
          | (registry, .error _) =>
              some { s with
                registry := registry
                life := Function.update s.life c .destroyed }
        else
          some { s with life := Function.update s.life c .alive }
      else
        none
  | .call function =>
      if ∀ c ∈ connection function, s.life c = .alive then
        let answer := s.registry.call function.blocks
        some { s with registry := answer.1, isOpen := marks s.isOpen function answer.2 }
      else
        none
  | .destroy c =>
      if s.life c = .alive then
        some { s with life := Function.update s.life c .destroyed }
      else
        none

/-- No object has been constructed yet. -/
def new (C L : Type) : State C L where
  registry := .empty false
  life _ := .unborn
  isOpen _ := false

def system (C L : Type) [DecidableEq C] [DecidableEq L] :
    StepSystem (State C L) (Action C L) where
  initial s := s = new C L
  step := step

/-! ## What is in the list of the bus -/

/-- The list and the marks agree. -/
def Listed (s : State C L) : Prop := ∀ c, c ∈ s.registry.listeners ↔ s.isOpen c = true

theorem call_listed {s : State C L} (h : Listed s) (function : Registry.Call C L)
    (c : C) :
    c ∈ (s.registry.call function.blocks).1.listeners ↔
      marks s.isOpen function (s.registry.call function.blocks).2 c = true := by
  have hc := h c
  cases hstarted : s.registry.started with
  | true =>
      cases function with
      | connectionOpen c' =>
          rw [Registry.Call.blocks, Registry.call_connectionOpen hstarted]
          show c ∈ s.registry.listeners ++ [c'] ↔ Function.update s.isOpen c' true c = true
          grind
      | connectionClose c' =>
          rw [Registry.Call.blocks, Registry.call_connectionClose hstarted]
          show c ∈ s.registry.listeners.filter (· ≠ c') ↔
            Function.update s.isOpen c' false c = true
          grind
      | addFrameListener | removeFrameListener | busStarted => exact hc
  | false =>
      cases function with
      | connectionOpen c' =>
          rw [Registry.Call.blocks, Registry.call_connectionOpen_stopped hstarted]
          exact hc
      | connectionClose c' =>
          rw [Registry.Call.blocks, Registry.call_connectionClose_stopped hstarted]
          exact hc
      | addFrameListener | removeFrameListener | busStarted => exact hc

theorem step_listed {s s' : State C L} {a : Action C L} (h : Listed s)
    (hstep : step s a = some s') : Listed s' := by
  cases a with
  | construct c opened =>
      have hopen := call_listed h (.connectionOpen c)
      simp only [step] at hstep
      split at hstep
      · split at hstep
        · split at hstep
          · next registry hcall =>
            cases hstep
            rw [Registry.Call.blocks, hcall] at hopen
            exact hopen
          · next registry e hcall =>
            cases hstep
            rw [Registry.Call.blocks, hcall] at hopen
            exact hopen
        · cases hstep
          exact h
      · cases hstep
  | call function =>
      simp only [step] at hstep
      split at hstep
      · cases hstep
        exact call_listed h function
      · cases hstep
  | destroy c =>
      simp only [step] at hstep
      split at hstep
      · cases hstep
        exact h
      · cases hstep

/-- The pointers in the list are those of the open connections, whether these are
alive or not. -/
theorem reachable_listed_iff {ok : State C L → Action C L → Prop} {s : State C L}
    (h : (system C L).Reachable ok s) (c : C) :
    c ∈ s.registry.listeners ↔ s.isOpen c = true := by
  refine h.invariant (I := Listed) ?_ ?_ c
  · rintro s rfl c
    simp [new, Registry.empty]
  · intro s a s' _ hs _ hstep
    exact step_listed hs hstep

/-! ## When they are alive -/

/-- A connection is destroyed only when it is not open. -/
def DestroysClosed (s : State C L) : Action C L → Prop
  | .destroy c => s.isOpen c = false
  | _ => True

instance (s : State C L) (a : Action C L) : Decidable (DestroysClosed s a) :=
  match a with
  | .destroy c => inferInstanceAs (Decidable (s.isOpen c = false))
  | .construct _ _ | .call _ => inferInstanceAs (Decidable True)

omit [DecidableEq L] in
/-- A call marks no connection but the one it opens. -/
theorem marks_eq_true {isOpen : C → Bool} {function : Registry.Call C L} {answer : Result Unit}
    {c : C} (h : marks isOpen function answer c = true) :
    isOpen c = true ∨ function = .connectionOpen c := by
  unfold marks at h
  split at h
  · next c' =>
    rcases eq_or_ne c c' with rfl | hne
    · exact .inr rfl
    · rw [Function.update_of_ne hne] at h
      exact .inl h
  · next c' =>
    rcases eq_or_ne c c' with rfl | hne
    · rw [Function.update_self] at h
      cases h
    · rw [Function.update_of_ne hne] at h
      exact .inl h
  · exact .inl h

theorem step_alive {s s' : State C L} {a : Action C L}
    (h : ∀ c, s.isOpen c = true → s.life c = .alive) (hok : DestroysClosed s a)
    (hstep : step s a = some s') : ∀ c, s'.isOpen c = true → s'.life c = .alive := by
  intro c
  have hc := h c
  cases a with
  | construct c' opened =>
      simp only [step] at hstep
      split at hstep
      · split at hstep
        · split at hstep <;> cases hstep <;> grind
        · cases hstep
          grind
      · cases hstep
  | call function =>
      simp only [step] at hstep
      split at hstep
      · next halive =>
        cases hstep
        intro hopen
        rcases marks_eq_true hopen with hold | rfl
        · exact hc hold
        · exact halive c rfl
      · cases hstep
  | destroy c' =>
      have hclosed : s.isOpen c' = false := hok
      simp only [step] at hstep
      split at hstep
      · cases hstep
        grind
      · cases hstep

/-- Where no open connection is destroyed, every pointer in the list of the bus is one
into a connection that is alive. -/
theorem listeners_alive {s : State C L} (h : (system C L).Reachable DestroysClosed s) {c : C}
    (hmem : c ∈ s.registry.listeners) : s.life c = .alive := by
  have halive : ∀ c, s.isOpen c = true → s.life c = .alive := by
    refine h.invariant (I := fun s => ∀ c, s.isOpen c = true → s.life c = .alive) ?_ ?_
    · rintro s rfl c hopen
      cases hopen
    · intro s a s' _ hs hok hstep
      exact step_alive hs hok hstep
  exact halive c ((reachable_listed_iff h c).mp hmem)

/-- A connection is opened by its constructor, closed and destroyed, while another one
stays open. -/
theorem listeners_alive_closed :
    ∃ s : State (Fin 2) (Fin 1), (system (Fin 2) (Fin 1)).Reachable DestroysClosed s ∧
      s.life 0 = .destroyed ∧ 1 ∈ s.registry.listeners ∧ s.life 1 = .alive := by
  obtain ⟨s, hreach, hlife, hmem⟩ :=
    StepSystem.exists_reachable_of_run (system (Fin 2) (Fin 1)) DestroysClosed
      (new (Fin 2) (Fin 1))
      [.call (.busStarted true), .construct 0 true, .construct 1 false,
        .call (.connectionOpen 1), .call (.connectionClose 0), .destroy 0]
      (fun s => s.life 0 = .destroyed ∧ 1 ∈ s.registry.listeners) rfl (by decide)
  exact ⟨s, hreach, hlife, hmem, listeners_alive hreach hmem⟩

/-- A temporary connection on a started bus: its constructor opens it, and nothing
closes it. -/
theorem not_listeners_alive :
    ¬ ∀ s : State (Fin 1) (Fin 1), (system (Fin 1) (Fin 1)).Reachable StepSystem.unguarded s →
      ∀ c ∈ s.registry.listeners, s.life c = .alive := by
  intro hall
  obtain ⟨s, hreach, hlife, hmem⟩ :=
    StepSystem.exists_reachable_of_run (system (Fin 1) (Fin 1)) StepSystem.unguarded
      (new (Fin 1) (Fin 1)) [.call (.busStarted true), .construct 0 true, .destroy 0]
      (fun s => s.life 0 = .destroyed ∧ 0 ∈ s.registry.listeners) rfl (by decide)
  have halive := hall s hreach 0 hmem
  rw [hlife] at halive
  cases halive

/-- Every step against the guard leaves a pointer into a dead connection. -/
theorem destroy_dangles {s s' : State C L}
    (h : (system C L).Reachable StepSystem.unguarded s) {c : C} (hopen : s.isOpen c = true)
    (hstep : step s (.destroy c) = some s') :
    c ∈ s'.registry.listeners ∧ s'.life c = .destroyed := by
  simp only [step] at hstep
  split at hstep
  · cases hstep
    exact ⟨(reachable_listed_iff h c).mpr hopen, Function.update_self ..⟩
  · cases hstep

theorem reachable_alive {s : State C L} (h : (system C L).Reachable DestroysClosed s) :
    ∀ c, s.isOpen c = true → s.life c = .alive := by
  refine h.invariant (I := fun s => ∀ c, s.isOpen c = true → s.life c = .alive) ?_ ?_
  · rintro s rfl c hopen
    cases hopen
  · intro s a s' _ hs hok hstep
    exact step_alive hs hok hstep

/-- The reader notifies connections that are alive only. -/
theorem notified_alive {s : State C L} (h : (system C L).Reachable DestroysClosed s)
    (source : C → LogicalAddress) (outcome : List (C × L) → L → CECFrame → Result Unit)
    {frame : CECFrame} (hframe : 1 ≤ frame.length) :
    ∀ entry ∈ (s.registry.dispatch source outcome frame).1, s.life entry.1 = .alive := by
  intro entry hentry
  refine reachable_alive h entry.1 ((reachable_listed_iff h entry.1).mp ?_)
  have hdue : entry ∈
      Registry.fanOut source frame s.registry.listeners s.registry.frameListeners := by
    rcases @Registry.dispatch_cases C L source outcome frame s.registry hframe with
      ⟨hall, -⟩ | ⟨before, last, after, e, hdue, -, -, hnotified⟩
    · rw [hall] at hentry
      exact hentry
    · rw [hnotified] at hentry
      rw [hdue]
      simp only [List.mem_append, List.mem_cons, List.not_mem_nil, or_false] at hentry ⊢
      tauto
  obtain ⟨c, hc, hentry⟩ := List.mem_flatMap.mp hdue
  split at hentry
  · obtain ⟨l, -, rfl⟩ := List.mem_map.mp hentry
    exact hc
  · cases hentry

end Lifetimes

end HdmiCec
