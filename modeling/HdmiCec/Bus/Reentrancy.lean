import HdmiCec.Bus.FanOut
import HdmiCec.Library.NodeList
import HdmiCec.Library.StepSystem

/-!
# Listeners that come and go while they are notified

For a frame that its filter lets through, `DefaultFrameListener::notify` goes through
`frameListeners` with the mutex of the connection locked.  The mutex is recursive, so a
callback may add and remove listeners of the same connection, and nobody else can meanwhile.
The iterator is advanced when the callback has returned, from the node of the listener that
was notified.

The file follows the loop under everything that callbacks can add and remove.  The one
thing they must not do is to remove the listener whose callback it is.
-/

namespace HdmiCec

namespace Reentrancy

variable {L : Type}

/-- Where `DefaultFrameListener::notify` is. -/
inductive Pc (L : Type) where
  /-- before `list_it != connection.frameListeners.end()` -/
  | test
  /-- before `(*list_it)->notify(frame)` -/
  | call
  /-- in the `notify` of this listener -/
  | callback (listener : L)
  /-- before `list_it++` -/
  | advance
  /-- out of the loop -/
  | done
  /-- an erased node has been read or advanced through -/
  | fault
  deriving DecidableEq

/-- What has happened to a listener. -/
inductive Event (L : Type) where
  | notified (listener : L)
  | added (listener : L)
  | removed (listener : L)
  deriving DecidableEq

/-- The loop, and the events since its begin, the last one first. -/
structure State (L : Type) where
  frameListeners : NodeList L
  list_it : Option Nat
  pc : Pc L
  log : List (Event L)

/-- The loop goes on, out of a callback by its return; or a callback does something. -/
inductive Action (L : Type) where
  | loop
  | addFrameListener (listener : L)
  | removeFrameListener (listener : L)
  | throws
  deriving DecidableEq

/-- It is a step of the loop. -/
def Action.isLoop : Action L → Bool
  | .loop => true
  | _ => false

/-- It adds a listener. -/
def Action.adds : Action L → Bool
  | .addFrameListener _ => true
  | _ => false

/-- The next step of the loop. -/
def loop (s : State L) : Option (State L) :=
  match s.pc with
  | .test => some { s with pc := if s.list_it = none then .done else .call }
  | .call =>
      match s.frameListeners.deref s.list_it with
      | none => some { s with pc := .fault }
      | some node =>
          some { s with pc := .callback node.element, log := .notified node.element :: s.log }
  | .callback _ => some { s with pc := .advance }
  | .advance =>
      match s.frameListeners.next s.list_it with
      | none => some { s with pc := .fault }
      | some it => some { s with list_it := it, pc := .test }
  | .done | .fault => none

section System

variable [DecidableEq L]

/-- One step, of the loop or of the callback that it is in. -/
def step (s : State L) : Action L → Option (State L)
  | .loop => loop s
  | .addFrameListener listener =>
      match s.pc with
      | .callback _ =>
          some { s with
            frameListeners := s.frameListeners.pushBack listener
            log := .added listener :: s.log }
      | _ => none
  | .removeFrameListener listener =>
      match s.pc with
      | .callback _ =>
          some { s with
            frameListeners := s.frameListeners.remove listener
            log := .removed listener :: s.log }
      | _ => none
  | .throws =>
      match s.pc with
      | .callback _ => some { s with pc := .done }
      | _ => none

/-- Any listeners, and the iterator at the first of them. -/
def system : StepSystem (State L) (Action L) where
  initial s := s.list_it = s.frameListeners.begin ∧ s.pc = .test ∧ s.log = []
  step := step

/-- The step does not remove the listener whose callback it is in. -/
def Keeps (s : State L) (a : Action L) : Prop :=
  ∀ listener, a = .removeFrameListener listener → s.pc ≠ .callback listener

instance (s : State L) : (a : Action L) → Decidable (Keeps s a)
  | .removeFrameListener listener =>
      decidable_of_iff (s.pc ≠ .callback listener)
        ⟨fun h _ heq => by cases heq; exact h, fun h => h listener rfl⟩
  | .loop => .isTrue fun _ h => nomatch h
  | .addFrameListener _ => .isTrue fun _ h => nomatch h
  | .throws => .isTrue fun _ h => nomatch h

/-- The listener was removed, and not added since. -/
def Removed (listener : L) : List (Event L) → Prop
  | [] => False
  | .notified _ :: earlier => Removed listener earlier
  | .added other :: earlier => listener ≠ other ∧ Removed listener earlier
  | .removed other :: earlier => listener = other ∨ Removed listener earlier

/-- No notification is of a listener that had been removed. -/
def Silent (log : List (Event L)) : Prop :=
  ∀ later listener earlier, log = later ++ .notified listener :: earlier →
    ¬ Removed listener earlier

/-- What a dispatch is to keep to, `labels` being the steps from its begin `s₀`. -/
structure Tolerates (s₀ : State L) (labels : List (Action L)) (s : State L) : Prop where
  valid : s.pc ≠ .fault
  continues : s.pc ≠ .done → ∃ s', system.step s .loop = some s'
  ends : labels.countP Action.isLoop ≤
    4 * (s₀.frameListeners.nodes.length + labels.countP Action.adds) + 1
  silent : Silent s.log

end System

/-! ## What a step does -/

/-- The iterator is where the loop needs it. -/
def Positioned (s : State L) : Prop :=
  match s.pc with
  | .test => s.list_it = none ∨ s.frameListeners.Valid s.list_it
  | .call | .advance => s.frameListeners.Valid s.list_it
  | .callback listener =>
      ∃ node ∈ s.frameListeners.nodes, s.list_it = some node.id ∧ node.element = listener
  | .done => True
  | .fault => False

/-- The steps of the loop while its iterator is valid. -/
inductive Turn (s : State L) : State L → Prop where
  | finish (hpc : s.pc = .test) (hit : s.list_it = none) : Turn s { s with pc := .done }
  | enter (hpc : s.pc = .test) (hit : s.frameListeners.Valid s.list_it) :
      Turn s { s with pc := .call }
  | notify (node : Node L) (hmem : node ∈ s.frameListeners.nodes) (hpc : s.pc = .call)
      (hit : s.list_it = some node.id) :
      Turn s { s with pc := .callback node.element, log := .notified node.element :: s.log }
  | back (node : Node L) (hmem : node ∈ s.frameListeners.nodes)
      (hpc : s.pc = .callback node.element) (hit : s.list_it = some node.id) :
      Turn s { s with pc := .advance }
  | advance (node : Node L) (it : Option Nat) (hpc : s.pc = .advance)
      (hit : it = none ∨ s.frameListeners.Valid it)
      (hrest : s.frameListeners.rest s.list_it = node :: s.frameListeners.rest it) :
      Turn s { s with list_it := it, pc := .test }

variable {s s' : State L}

/-- In a callback the iterator is at the node of the listener that is notified. -/
theorem Positioned.callback {current : L} (h : Positioned s) (hpc : s.pc = .callback current) :
    ∃ node ∈ s.frameListeners.nodes, s.list_it = some node.id ∧ node.element = current := by
  simpa only [Positioned, hpc] using h

/-- From a good position the loop has a next step, unless it is done. -/
theorem loop_turn (h : Positioned s) (hdone : s.pc ≠ .done) :
    ∃ s', loop s = some s' ∧ Turn s s' := by
  cases hpc : s.pc with
  | test =>
      simp only [Positioned, hpc] at h
      by_cases hend : s.list_it = none
      · exact ⟨_, by simp [loop, hpc, hend], .finish hpc hend⟩
      · exact ⟨_, by simp [loop, hpc, hend], .enter hpc (h.resolve_left hend)⟩
  | call =>
      simp only [Positioned, hpc] at h
      obtain ⟨node, hmem, hit⟩ := h
      have hderef := NodeList.deref_of_mem hmem
      exact ⟨_, by simp [loop, hpc, hit, hderef], .notify node hmem hpc hit⟩
  | callback listener =>
      obtain ⟨node, hmem, hit, rfl⟩ := h.callback hpc
      exact ⟨_, by simp [loop, hpc], .back node hmem hpc hit⟩
  | advance =>
      simp only [Positioned, hpc] at h
      obtain ⟨node, hmem, hit⟩ := h
      obtain ⟨it, hnext, hvalid, hrest⟩ := NodeList.next_of_mem hmem
      rw [← hit] at hnext hrest
      exact ⟨_, by simp [loop, hpc, hnext], .advance node it hpc hvalid hrest⟩
  | done => exact absurd hpc hdone
  | fault => simp [Positioned, hpc] at h

/-! ## What a run keeps -/

/-- The loop can go on, and the listeners that were removed are not in the list. -/
structure Sound (s : State L) : Prop where
  positioned : Positioned s
  absent : ∀ listener, Removed listener s.log →
    ∀ node ∈ s.frameListeners.nodes, node.element ≠ listener
  silent : Silent s.log

theorem silent_cons {log : List (Event L)} (h : Silent log) {event : Event L}
    (hevent : ∀ listener, event = .notified listener → ¬ Removed listener log) :
    Silent (event :: log) := by
  intro later listener earlier hsplit
  rcases List.cons_eq_append_iff.mp hsplit with ⟨-, hhere⟩ | ⟨later', -, hbehind⟩
  · obtain ⟨hnotified, rfl⟩ := List.cons.inj hhere
    exact hevent listener hnotified.symm
  · exact h later' listener earlier hbehind

theorem turn_sound (h : Sound s) (hturn : Turn s s') : Sound s' := by
  obtain ⟨hpos, habsent, hsilent⟩ := h
  cases hturn with
  | finish hpc hit => exact ⟨trivial, habsent, hsilent⟩
  | enter hpc hit => exact ⟨hit, habsent, hsilent⟩
  | notify node hmem hpc hit =>
      refine ⟨⟨node, hmem, hit, rfl⟩, habsent, silent_cons hsilent ?_⟩
      intro listener heq hremoved
      cases heq
      exact habsent _ hremoved node hmem rfl
  | back node hmem hpc hit => exact ⟨⟨node, hmem, hit⟩, habsent, hsilent⟩
  | advance node it hpc hit hrest => exact ⟨hit, habsent, hsilent⟩

/-- The steps that the loop has left if no callback adds a listener. -/
def left (s : State L) : Nat :=
  let ahead := (s.frameListeners.rest s.list_it).length
  match s.pc with
  | .test => 4 * ahead + 1
  | .call => 4 * ahead
  | .callback _ => 4 * ahead - 1
  | .advance => 4 * ahead - 2
  | .done | .fault => 0

theorem turn_left (hturn : Turn s s') : left s' + 1 ≤ left s := by
  cases hturn with
  | finish hpc hit => simp [left, hpc]
  | enter hpc hit => simp [left, hpc]
  | notify node hmem hpc hit =>
      obtain ⟨_, _, _, hrest⟩ := NodeList.exists_split hmem
      simp only [left, hpc, hit, hrest, List.length_cons]
      omega
  | back node hmem hpc hit =>
      obtain ⟨_, _, _, hrest⟩ := NodeList.exists_split hmem
      simp only [left, hpc, hit, hrest, List.length_cons]
      omega
  | advance node it hpc hit hrest =>
      simp only [left, hpc, hrest, List.length_cons]
      omega

/-! ## Callbacks -/

theorem Keeps.ne_current {listener current : L} (h : Keeps s (.removeFrameListener listener))
    (hpc : s.pc = .callback current) : current ≠ listener := by
  rintro rfl
  exact h current rfl hpc

section System

variable [DecidableEq L]

/-- What a step of a callback changes. -/
theorem callback_step {a : Action L} (h : step s a = some s') (hne : a ≠ .loop) :
    (∃ current, s.pc = .callback current) ∧
      ((∃ listener, a = .addFrameListener listener ∧
          s' = { s with
            frameListeners := s.frameListeners.pushBack listener
            log := .added listener :: s.log }) ∨
        (∃ listener, a = .removeFrameListener listener ∧
          s' = { s with
            frameListeners := s.frameListeners.remove listener
            log := .removed listener :: s.log }) ∨
        a = .throws ∧ s' = { s with pc := .done }) := by
  obtain ⟨current, hpc⟩ : ∃ current, s.pc = .callback current := by
    cases hpc : s.pc with
    | callback current => exact ⟨current, rfl⟩
    | _ => cases a <;> simp_all [step]
  refine ⟨⟨current, hpc⟩, ?_⟩
  cases a with
  | loop => exact absurd rfl hne
  | addFrameListener listener =>
      simp only [step, hpc, Option.some.injEq] at h
      exact .inl ⟨listener, rfl, by rw [← h, hpc]⟩
  | removeFrameListener listener =>
      simp only [step, hpc, Option.some.injEq] at h
      exact .inr (.inl ⟨listener, rfl, by rw [← h, hpc]⟩)
  | throws =>
      simp only [step, hpc, Option.some.injEq] at h
      exact .inr (.inr ⟨rfl, h.symm⟩)

theorem callback_sound {a : Action L} (h : Sound s) (hkeeps : Keeps s a)
    (hstep : step s a = some s') (hne : a ≠ .loop) : Sound s' := by
  obtain ⟨hpos, habsent, hsilent⟩ := h
  obtain ⟨⟨current, hpc⟩, hcases⟩ := callback_step hstep hne
  obtain ⟨node, hmem, hit, rfl⟩ := hpos.callback hpc
  rcases hcases with ⟨listener, rfl, rfl⟩ | ⟨listener, rfl, rfl⟩ | ⟨rfl, rfl⟩
  · refine ⟨?_, ?_, silent_cons hsilent fun _ heq => nomatch heq⟩
    · simp only [Positioned, hpc]
      exact ⟨node, List.mem_append_left _ hmem, hit, rfl⟩
    · rintro other ⟨hother, hremoved⟩ present hpresent
      rcases List.mem_append.mp hpresent with hold | hnew
      · exact habsent other hremoved present hold
      · rw [List.mem_singleton.mp hnew]
        exact hother.symm
  · -- the node of the iterator has another listener, so it stays
    have hcurrent := hkeeps.ne_current hpc
    refine ⟨?_, ?_, silent_cons hsilent fun _ heq => nomatch heq⟩
    · simp only [Positioned, hpc]
      exact ⟨node, NodeList.mem_remove.mpr ⟨hmem, hcurrent⟩, hit, rfl⟩
    · intro other hremoved present hpresent
      obtain ⟨hold, hne⟩ := NodeList.mem_remove.mp hpresent
      rcases hremoved with rfl | hbefore
      · exact hne
      · exact habsent other hbefore present hold
  · exact ⟨trivial, habsent, hsilent⟩

theorem loop_step (h : Positioned s) (hstep : step s .loop = some s') : Turn s s' := by
  have hdone : s.pc ≠ .done := by
    intro hpc
    simp [step, loop, hpc] at hstep
  obtain ⟨next, hnext, hturn⟩ := loop_turn h hdone
  cases hstep.symm.trans hnext
  exact hturn

theorem callback_left {a : Action L} (h : Positioned s) (hkeeps : Keeps s a)
    (hstep : step s a = some s') (hne : a ≠ .loop) :
    left s' ≤ left s + 4 * (if a.adds then 1 else 0) := by
  obtain ⟨⟨current, hpc⟩, hcases⟩ := callback_step hstep hne
  obtain ⟨node, hmem, hit, rfl⟩ := h.callback hpc
  rcases hcases with ⟨listener, rfl, rfl⟩ | ⟨listener, rfl, rfl⟩ | ⟨rfl, rfl⟩
  · have hrest := NodeList.rest_pushBack hmem listener
    simp only [left, hpc, hit, hrest, Action.adds, if_true, List.length_append,
      List.length_singleton]
    omega
  · have hcurrent := hkeeps.ne_current hpc
    have hrest := NodeList.rest_remove hmem hcurrent
    have hshorter := List.length_filter_le (fun other => decide (other.element ≠ listener))
      (s.frameListeners.rest (some node.id))
    simp only [left, hpc, hit, hrest, Action.adds]
    omega
  · exact Nat.zero_le _

/-- One step keeps the invariant, and takes one from the steps left if it is one of the
loop. -/
theorem step_sound {a : Action L} (h : Sound s) (hkeeps : Keeps s a)
    (hstep : step s a = some s') :
    Sound s' ∧ left s' + (if a.isLoop then 1 else 0) ≤
      left s + 4 * (if a.adds then 1 else 0) := by
  by_cases hloop : a = .loop
  · subst hloop
    have hturn := loop_step h.positioned hstep
    exact ⟨turn_sound h hturn, turn_left hturn⟩
  · have hleft := callback_left h.positioned hkeeps hstep hloop
    refine ⟨callback_sound h hkeeps hstep hloop, ?_⟩
    cases a with
    | loop => exact absurd rfl hloop
    | _ => exact hleft

theorem initial_sound (h : system.initial s) :
    Sound s ∧ left s = 4 * s.frameListeners.nodes.length + 1 := by
  obtain ⟨hit, hpc, hlog⟩ := h
  refine ⟨⟨?_, ?_, ?_⟩, ?_⟩
  · simp only [Positioned, hpc, hit]
    exact NodeList.begin_valid
  · rw [hlog]
    exact fun _ hremoved => hremoved.elim
  · rw [hlog]
    intro later listener earlier hsplit
    simp at hsplit
  · simp only [left, hpc, hit, NodeList.rest_begin]

/-- While no callback removes the listener that it is of, the loop keeps to everything:
whatever else the callbacks add and remove, and in whatever order. -/
theorem tolerates {s₀ : State L} (hinitial : system.initial s₀) {labels : List (Action L)}
    (hrun : system.run Keeps s₀ labels = some s) : Tolerates s₀ labels s := by
  obtain ⟨hsound₀, hleft₀⟩ := initial_sound hinitial
  have hsound : Sound s := by
    refine StepSystem.Leads.invariant (StepSystem.leads_of_run hrun) ?_ hsound₀
    intro t a t' _ ht hkeeps hstep
    exact (step_sound ht hkeeps hstep).1
  have hbound : left s + labels.countP Action.isLoop ≤
      left s₀ + 4 * labels.countP Action.adds := by
    refine StepSystem.run_bound ?_ hsound₀ hrun
    intro t a t' ht hkeeps hstep
    exact step_sound ht hkeeps hstep
  refine ⟨?_, ?_, ?_, hsound.silent⟩
  · intro hfault
    have hpos := hsound.positioned
    simp [Positioned, hfault] at hpos
  · intro hdone
    obtain ⟨s', hloop, -⟩ := loop_turn hsound.positioned hdone
    exact ⟨s', hloop⟩
  · rw [hleft₀] at hbound
    omega

end System

/-- The loop before its first test. -/
def start (frameListeners : NodeList L) : State L :=
  { frameListeners := frameListeners, list_it := frameListeners.begin, pc := .test, log := [] }

/-- Two listeners, with the names `0` and `1`. -/
def twoListeners : NodeList Nat := (NodeList.empty.pushBack 0).pushBack 1

/-- The first listener removes the second and adds a third one, which is notified. -/
theorem tolerates_replaced :
    ∃ labels s, system.run Keeps (start twoListeners) labels = some s ∧ s.pc = .done ∧
      s.log = [.notified 2, .added 2, .removed 1, .notified 0] ∧
      Tolerates (start twoListeners) labels s := by
  let labels : List (Action Nat) :=
    [.loop, .loop, .removeFrameListener 1, .addFrameListener 2, .loop, .loop, .loop, .loop,
      .loop, .loop, .loop]
  obtain ⟨s, hrun, htest⟩ := Option.map_eq_some_iff.mp
    (show (system.run Keeps (start twoListeners) labels).map (fun s => decide (s.pc = .done ∧
      s.log = [.notified 2, .added 2, .removed 1, .notified 0])) = some true by decide)
  obtain ⟨hdone, hlog⟩ := of_decide_eq_true htest
  exact ⟨labels, s, hrun, hdone, hlog, tolerates ⟨rfl, rfl, rfl⟩ hrun⟩

/-- The first listener removes itself. -/
theorem not_tolerates :
    ∃ labels s, system.run StepSystem.unguarded (start twoListeners) labels = some s ∧
      ¬ Tolerates (start twoListeners) labels s := by
  let labels : List (Action Nat) := [.loop, .loop, .removeFrameListener 0, .loop, .loop]
  obtain ⟨s, hrun, htest⟩ := Option.map_eq_some_iff.mp
    (show (system.run StepSystem.unguarded (start twoListeners) labels).map
      (fun s => decide (s.pc = .fault)) = some true by decide)
  exact ⟨labels, s, hrun, fun h => h.valid (of_decide_eq_true htest)⟩

section System

variable [DecidableEq L]

/-! ## A callback that removes its own listener -/

/-- The node of the iterator has been erased, in the callback of its listener or since. -/
structure Lost (s : State L) : Prop where
  gone : ¬ s.frameListeners.Valid s.list_it
  allocated : ∀ id, s.list_it = some id → id < s.frameListeners.allocated
  pc : s.pc ≠ .test ∧ s.pc ≠ .call

theorem lost_of_removed (h : Positioned s) {a : Action L} (hkeeps : ¬ Keeps s a)
    (hstep : step s a = some s') : Lost s' := by
  have hremoves : ∃ listener, a = .removeFrameListener listener ∧ s.pc = .callback listener := by
    simpa [Keeps] using hkeeps
  obtain ⟨listener, rfl, hpc⟩ := hremoves
  obtain ⟨node, hmem, hit, hnode⟩ := h.callback hpc
  simp only [step, hpc, Option.some.injEq] at hstep
  subst hstep
  refine ⟨?_, ?_, by simp⟩
  · rintro ⟨other, hother, heq⟩
    obtain ⟨hstill, hne⟩ := NodeList.mem_remove.mp hother
    rw [hit, Option.some.injEq] at heq
    -- one identity, so one node
    have hsame := NodeList.deref_of_mem hmem
    rw [heq, NodeList.deref_of_mem hstill, Option.some.injEq] at hsame
    exact hne (by rw [hsame, hnode])
  · intro id hid
    rw [hit, Option.some.injEq] at hid
    rw [← hid]
    exact s.frameListeners.id_lt node hmem

theorem lost_loop (h : Lost s) (hstep : step s .loop = some s') : Lost s' := by
  obtain ⟨hgone, hallocated, htest, hcall⟩ := h
  obtain ⟨_, hnext⟩ := NodeList.gone hgone
  cases hpc : s.pc with
  | test => exact absurd hpc htest
  | call => exact absurd hpc hcall
  | callback listener =>
      simp only [step, loop, hpc, Option.some.injEq] at hstep
      subst hstep
      exact ⟨hgone, hallocated, by simp⟩
  | advance =>
      simp only [step, loop, hpc, hnext, Option.some.injEq] at hstep
      subst hstep
      exact ⟨hgone, hallocated, by simp⟩
  | done => simp [step, loop, hpc] at hstep
  | fault => simp [step, loop, hpc] at hstep

theorem lost_step (h : Lost s) {a : Action L} (hstep : step s a = some s') : Lost s' := by
  by_cases hloop : a = .loop
  · subst hloop
    exact lost_loop h hstep
  obtain ⟨hgone, hallocated, hpc⟩ := h
  obtain ⟨-, ⟨listener, rfl, rfl⟩ | ⟨listener, rfl, rfl⟩ | ⟨rfl, rfl⟩⟩ := callback_step hstep hloop
  · refine ⟨?_, fun id hid => Nat.lt_succ_of_lt (hallocated id hid), hpc⟩
    cases hit : s.list_it with
    | none =>
        rintro ⟨node, -, hnode⟩
        cases hnode
    | some id =>
        rw [hit] at hgone
        exact NodeList.gone_pushBack hgone (hallocated id hit) listener
  · refine ⟨?_, hallocated, hpc⟩
    rintro ⟨node, hmem, hit⟩
    exact hgone ⟨node, (NodeList.mem_remove.mp hmem).1, hit⟩
  · exact ⟨hgone, hallocated, by simp⟩

/-- When a callback has removed its listener, nothing that it does afterwards helps: if it
returns, the loop advances through the erased node. -/
theorem advance_faults {t : State L} (h : system.Reachable Keeps s) {a : Action L}
    (hkeeps : ¬ Keeps s a) (hstep : system.step s a = some s')
    (hlead : system.Leads StepSystem.unguarded s' t) (hpc : t.pc = .advance) :
    system.step t .loop = some { t with pc := .fault } := by
  have hsound : Sound s := by
    refine h.invariant (I := Sound) (fun s hs => (initial_sound hs).1) ?_
    intro s a s' _ hs hok hnext
    exact (step_sound hs hok hnext).1
  have hlost : Lost t := by
    refine StepSystem.Leads.invariant hlead ?_ (lost_of_removed hsound.positioned hkeeps hstep)
    intro u b u' _ hu _ hnext
    exact lost_step hu hnext
  have hnext := (NodeList.gone hlost.gone).2
  show loop t = _
  simp only [loop, hpc, hnext]

/-! ## Callbacks that leave the list alone -/

/-- Then the loop is that of a fixed list. -/
theorem quiet_run (nodes : List (Node L)) : ∀ {s : State L}, s.pc = .test → Positioned s →
    s.frameListeners.rest s.list_it = nodes →
    ∃ s', system.run Keeps s (List.replicate (4 * nodes.length + 1) .loop) = some s' ∧
      s'.pc = .done ∧
      s'.log = (nodes.map fun node => Event.notified node.element).reverse ++ s.log := by
  induction nodes with
  | nil =>
      intro s hpc hpos hrest
      have hend : s.list_it = none := by
        simp only [Positioned, hpc] at hpos
        refine hpos.resolve_right ?_
        rintro ⟨node, hmem, hit⟩
        obtain ⟨_, _, _, hnode⟩ := NodeList.exists_split hmem
        rw [hit, hnode] at hrest
        cases hrest
      refine ⟨{ s with pc := .done }, ?_, rfl, rfl⟩
      simp [StepSystem.run, system, step, loop, Keeps, hpc, hend]
  | cons node nodes ih =>
      intro s hpc hpos hrest
      have hvalid : s.frameListeners.Valid s.list_it := by
        simp only [Positioned, hpc] at hpos
        refine hpos.resolve_left ?_
        intro hend
        rw [hend] at hrest
        cases hrest
      obtain ⟨first, hmem, hit⟩ := hvalid
      obtain ⟨it, hnext, hthere, hbehind⟩ := NodeList.next_of_mem hmem
      rw [← hit, hrest] at hbehind
      obtain ⟨rfl, hnodes⟩ := List.cons.inj hbehind
      have hderef := NodeList.deref_of_mem hmem
      have hne : s.list_it ≠ none := by rw [hit]; exact Option.some_ne_none _
      rw [← hit] at hnext hderef
      obtain ⟨s', hrun, hdone, hlog⟩ := ih
        (s := { s with list_it := it, pc := .test, log := .notified node.element :: s.log })
        rfl hthere hnodes.symm
      -- four steps for the first node, and the loop is at its test again
      refine ⟨s', ?_, hdone, ?_⟩
      · have hlength : 4 * (node :: nodes).length + 1 = 4 * nodes.length + 1 + 4 := by
          rw [List.length_cons]
          omega
        rw [hlength, ← hrun]
        simp [List.replicate_succ, StepSystem.run, system, step, loop, Keeps, hpc, hne, hderef,
          hnext]
      · rw [hlog, List.map_cons, List.reverse_cons, List.append_assoc, List.singleton_append]

end System

theorem notifyListeners_quiet {C : Type} (frame : CECFrame) (c : C) (left : List L) :
    ∀ notified, Registry.notifyListeners (fun _ _ _ => .ok ()) frame c left notified =
      (notified ++ left.map fun listener => (c, listener), .ok ()) := by
  induction left with
  | nil => intro notified; simp [Registry.notifyListeners]
  | cons listener left ih =>
      intro notified
      rw [Registry.notifyListeners, ih]
      simp

/-- The loop of a dispatch notifies the listeners that `Registry.notifyListeners` does, in
the same order. -/
theorem quiet_dispatch [DecidableEq L] {C : Type} {s : State L} (hinitial : system.initial s)
    (frame : CECFrame) (c : C) :
    ∃ labels s', system.run Keeps s labels = some s' ∧ s'.pc = .done ∧
      s'.log.reverse = ((Registry.notifyListeners (fun _ _ _ => .ok ()) frame c
        (s.frameListeners.nodes.map Node.element) []).1.map fun entry =>
          Event.notified entry.2) := by
  obtain ⟨hit, hpc, hlog⟩ := hinitial
  have hpos : Positioned s := by
    simp only [Positioned, hpc, hit]
    exact NodeList.begin_valid
  obtain ⟨s', hrun, hdone, hnotified⟩ := quiet_run s.frameListeners.nodes hpc hpos
    (by rw [hit, NodeList.rest_begin])
  refine ⟨_, s', hrun, hdone, ?_⟩
  rw [hnotified, hlog, notifyListeners_quiet]
  simp

end Reentrancy

end HdmiCec
