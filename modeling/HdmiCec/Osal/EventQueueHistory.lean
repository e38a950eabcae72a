import HdmiCec.Osal.EventQueue

/-!
# The event queue as a bounded buffer

What went into an `EventQueue` and what came out of it.  A push happens at the
step of `offer` that found room and a pop at the step of `poll` that removes the
front element; every other step of every thread leaves the history alone.  So
the threads' queue refines the bounded buffer, and hands every accepted element
over exactly once and in order.
-/

universe u v

namespace HdmiCec

namespace EventQueue

variable {T : Type u} {E : Type v} [DecidableEq T]

/-! ## What an `offer` carries -/

/-- The program points of `offer` that still carry the element. -/
def Pc.offering : Pc E → List E
  | .offerLock element | .offerTest element => [element]
  | _ => []

theorem callStep_offering {s s' : State T E} {t : T} {pc : Pc E}
    (h : callStep s t pc = some s') (u : T) :
    (s'.pc u).offering ⊆ (s.pc u).offering ∨ (s'.pc u).offering = pc.offering := by
  obtain ⟨-, rfl⟩ := callStep_eq_some h
  grind

section Elements

variable [Inhabited E]

/-- No thread offers `ET()`. -/
def OffersElements (_ : State T E) : Action T E → Prop
  | .offer _ element => element ≠ default
  | _ => True

instance [DecidableEq E] (s : State T E) (a : Action T E) : Decidable (OffersElements s a) :=
  match a with
  | .offer _ element => inferInstanceAs (Decidable (element ≠ default))
  | .poll _ | .size _ | .run _ | .spuriousWake _ => inferInstanceAs (Decidable True)

/-- Only a call puts an element into the hands of an `offer`. -/
theorem runStep_offering {uninitialised : E} {s s' : State T E} {t : T}
    (hstep : runStep uninitialised s t = some s') (u : T) :
    (s'.pc u).offering ⊆ (s.pc u).offering := by
  unfold runStep at hstep
  cases hpc : s.pc t <;> simp only [hpc] at hstep <;>
    grind [State.lock, State.unlock, Pc.offering, offerStep, takeStep]

end Elements

/-! ## What a step does to the history -/

/-- The element a thread inside `poll` has removed and not yet returned. -/
def Pc.inHand : Pc E → List E
  | .pollReset front | .pollUnlock front => [front]
  | _ => []

section History

variable [Inhabited E] [DecidableEq E]

/-- The elements other than `ET()`. -/
def nonDefault (es : List E) : List E := es.filter fun e => e ≠ default

/-- The elements that `poll` has returned or is about to return. -/
def State.taken (s : State T E) : List E :=
  nonDefault (s.returned ++ s.holder.inHand)

omit [DecidableEq T] in
theorem taken_eq {s s' : State T E} (hreturned : s'.returned = s.returned)
    (hinHand : nonDefault s'.holder.inHand = nonDefault s.holder.inHand) :
    s'.taken = s.taken := by
  simp only [State.taken, nonDefault, List.filter_append, hreturned] at hinHand ⊢
  rw [hinHand]

/-- What a step can do to the deque and to the history: nothing, accept one
element, or remove the front element. -/
inductive Effect (s s' : State T E) : Prop where
  | quiet (cap : s'.queue.cap = s.queue.cap) (events : s'.queue.events = s.queue.events)
      (accepted : s'.accepted = s.accepted) (removed : s'.removed = s.removed)
      (taken : s'.taken = s.taken)
  | accept (t : T) (element : E) (pc : s.pc t = .offerTest element)
      (room : s.queue.events.length ≠ s.queue.cap) (cap : s'.queue.cap = s.queue.cap)
      (events : s'.queue.events = s.queue.events ++ [element])
      (accepted : s'.accepted = s.accepted ++ [element]) (removed : s'.removed = s.removed)
      (taken : s'.taken = s.taken)
  | remove (front : E) (rest : List E) (present : s.queue.events = front :: rest)
      (cap : s'.queue.cap = s.queue.cap) (events : s'.queue.events = rest)
      (accepted : s'.accepted = s.accepted) (removed : s'.removed = s.removed ++ [front])
      (taken : s'.taken = s.taken ++ nonDefault [front])

theorem Effect.outside {s : State T E} (h : Inv s) {t : T} (pc : Pc E)
    (cond : ConditionVariable T) (hpc : (s.pc t).locked = false) :
    Effect s (s.put t { s.queue with cond := cond } pc) := by
  refine .quiet rfl rfl rfl rfl (taken_eq rfl ?_)
  rw [h.holder_outside pc cond hpc]

theorem Effect.locks {s s' : State T E} {t : T} {pc : Pc E} (hinHand : pc.inHand = [])
    (hstep : s.lock t pc = some s') : Effect s s' := by
  obtain ⟨hfree, rfl⟩ := State.lock_eq_some hstep
  refine .quiet rfl rfl rfl rfl (taken_eq rfl ?_)
  rw [holder_put rfl, hinHand]
  simp [State.holder, hfree, Pc.inHand]

theorem Effect.inside {s : State T E} (h : Inv s) {t : T} {pc pc' : Pc E}
    {queue : EventQueue T E} (hpc : s.pc t = pc) (hlocked : pc.locked = true)
    (hmutex : queue.mutex = s.queue.mutex) (hcap : queue.cap = s.queue.cap)
    (hevents : queue.events = s.queue.events)
    (hinHand : nonDefault pc'.inHand = nonDefault pc.inHand) :
    Effect s (s.put t queue pc') := by
  refine .quiet hcap hevents rfl rfl (taken_eq rfl ?_)
  rw [holder_put (hmutex.trans (h.mutex_eq hpc hlocked)), h.holder_eq hpc hlocked, hinHand]

theorem Effect.inside_goto {s : State T E} (h : Inv s) {t : T} {pc pc' : Pc E}
    (hpc : s.pc t = pc) (hlocked : pc.locked = true)
    (hinHand : nonDefault pc'.inHand = nonDefault pc.inHand) : Effect s (s.goto t pc') := by
  show Effect s (s.put t s.queue pc')
  exact .inside h hpc hlocked rfl rfl rfl hinHand

theorem Effect.unlocks {s : State T E} (h : Inv s) {t : T} {pc : Pc E} (hpc : s.pc t = pc)
    (hlocked : pc.locked = true) (hinHand : pc.inHand = []) : Effect s (s.unlock t) := by
  refine .quiet rfl rfl rfl rfl (taken_eq rfl ?_)
  rw [h.holder_eq hpc hlocked, hinHand]
  rfl

theorem offerStep_effect {s : State T E} (h : Inv s) {t : T} {element : E}
    (hpc : s.pc t = .offerTest element) : Effect s (offerStep s t element) := by
  unfold offerStep
  split
  · exact .inside_goto h hpc rfl rfl
  · next hroom =>
    refine .accept t element hpc hroom rfl rfl rfl rfl (taken_eq rfl ?_)
    rw [h.holder_eq hpc rfl]
    exact congrArg (fun pc => nonDefault pc.inHand) (holder_put (h.mutex_eq hpc rfl))

theorem takeStep_effect {uninitialised : E} {s : State T E} (h : Inv s) {t : T}
    (hpc : s.pc t = .pollTake) : Effect s (takeStep uninitialised s t) := by
  obtain ⟨hset, hnonempty⟩ := h.flag_at hpc rfl
  obtain ⟨front, rest, hevents⟩ := List.exists_cons_of_ne_nil hnonempty
  unfold takeStep
  simp only [hset, if_true, hevents]
  refine .remove front rest hevents rfl rfl rfl rfl ?_
  have hinHand : ((s.put t { s.queue with events := rest }
      (if rest.isEmpty then .pollReset front else .pollUnlock front)).remove front).holder.inHand =
        [front] := by
    have hmutex : ({ s.queue with events := rest }).mutex = some t := h.mutex_eq hpc rfl
    rw [State.remove_holder, holder_put hmutex]
    cases rest <;> rfl
  rw [State.taken, hinHand, State.taken, h.holder_eq hpc rfl]
  simp [State.put, State.remove, nonDefault, Pc.inHand]

/-- One case per program point, as for the invariant. -/
theorem runStep_effect {uninitialised : E} {s s' : State T E} (h : Inv s) {t : T}
    (hstep : runStep uninitialised s t = some s') : Effect s s' := by
  unfold runStep at hstep
  cases hpc : s.pc t with
  | idle => simp [hpc] at hstep
  | offerLock element =>
      simp only [hpc] at hstep
      exact .locks rfl hstep
  | offerTest element =>
      simp only [hpc, Option.some.injEq] at hstep
      subst hstep
      exact offerStep_effect h hpc
  | offerSet =>
      simp only [hpc, Option.some.injEq] at hstep
      subst hstep
      exact .inside h hpc rfl rfl rfl rfl rfl
  | offerNotify =>
      simp only [hpc, Option.some.injEq] at hstep
      subst hstep
      exact .inside h hpc rfl rfl rfl rfl rfl
  | offerUnlock =>
      simp only [hpc, Option.some.injEq] at hstep
      subst hstep
      exact .unlocks h hpc rfl rfl
  | pollWait =>
      simp only [hpc] at hstep
      split at hstep
      · cases hstep
        exact .outside h _ s.queue.cond (by rw [hpc]; rfl)
      · cases hstep
        exact .outside h _ _ (by rw [hpc]; rfl)
  | pollAsleep =>
      simp only [hpc] at hstep
      split at hstep
      · cases hstep
      · cases hstep
        exact .outside h _ s.queue.cond (by rw [hpc]; rfl)
  | pollLock =>
      simp only [hpc] at hstep
      exact .locks rfl hstep
  | pollTest =>
      simp only [hpc] at hstep
      split at hstep
      · -- the `ET()` of this branch is no element of the queue
        cases hstep
        exact .inside_goto h hpc rfl (by simp [nonDefault, Pc.inHand])
      · cases hstep
        exact .inside_goto h hpc rfl rfl
  | pollTake =>
      simp only [hpc, Option.some.injEq] at hstep
      subst hstep
      exact takeStep_effect h hpc
  | pollReset front =>
      simp only [hpc, Option.some.injEq] at hstep
      subst hstep
      exact .inside h hpc rfl rfl rfl rfl rfl
  | pollUnlock front =>
      simp only [hpc, Option.some.injEq] at hstep
      subst hstep
      refine .quiet rfl rfl rfl rfl ?_
      rw [State.taken, State.taken, h.holder_eq hpc rfl]
      simp [State.giveBack, State.unlock, State.put, State.holder, Pc.inHand]
  | sizeLock =>
      simp only [hpc] at hstep
      exact .locks rfl hstep
  | sizeRead =>
      simp only [hpc, Option.some.injEq] at hstep
      subst hstep
      exact .inside_goto h hpc rfl rfl
  | sizeUnlock size =>
      simp only [hpc, Option.some.injEq] at hstep
      subst hstep
      exact .unlocks h hpc rfl rfl

theorem callStep_effect {s s' : State T E} (h : Inv s) {t : T} {pc : Pc E}
    (hstep : callStep s t pc = some s') : Effect s s' := by
  obtain ⟨hpc, rfl⟩ := callStep_eq_some hstep
  exact .outside h pc s.queue.cond (by rw [hpc]; rfl)

theorem step_effect {uninitialised : E} {s s' : State T E} (h : Inv s) {a : Action T E}
    (hstep : step uninitialised s a = some s') : Effect s s' := by
  cases a with
  | offer t element => exact callStep_effect h hstep
  | poll t => exact callStep_effect h hstep
  | size t => exact callStep_effect h hstep
  | run t => exact runStep_effect h hstep
  | spuriousWake t =>
      cases hstep
      exact .quiet rfl rfl rfl rfl rfl

/-! ## The queue refines a bounded buffer -/

/-- The buffer that a queue stands for: an element counts as pushed when `offer`
has found room for it, and as popped when `poll` has taken it off the deque. -/
structure Represents (s : State T E) (b : BoundedFifo E) : Prop where
  cap : b.cap = s.queue.cap
  items : b.items = s.queue.events
  pushed : b.pushed = s.accepted
  popped : b.popped = s.removed

/-- Every step of a thread is one operation on the buffer, or none. -/
theorem represents_step {uninitialised : E} {s s' : State T E} {a : Action T E}
    {b : BoundedFifo E} (h : Inv s) (hb : b.Exact) (hR : Represents s b)
    (hstep : step uninitialised s a = some s') :
    ∃ b', Relation.ReflTransGen ((BoundedFifo.system E).Moves StepSystem.unguarded) b b' ∧
      Represents s' b' := by
  cases step_effect h hstep with
  | quiet hcap hevents haccepted hremoved _ =>
      exact ⟨b, .refl, by rw [hcap, hR.cap], by rw [hevents, hR.items],
        by rw [haccepted, hR.pushed], by rw [hremoved, hR.popped]⟩
  | accept t element hpc hroom hcap hevents haccepted hremoved _ =>
      have hbounded := hb.bounded
      rw [hR.items, hR.cap] at hbounded
      have hlt : b.items.length < b.cap := by
        rw [hR.items, hR.cap]
        omega
      refine ⟨_, .single ⟨.push element, trivial, BoundedFifo.apply_push element hlt⟩, ?_⟩
      exact ⟨by rw [hcap, hR.cap], by rw [hevents, hR.items], by rw [haccepted, hR.pushed],
        by rw [hremoved, hR.popped]⟩
  | remove front rest hpresent hcap hevents haccepted hremoved _ =>
      have hitems : b.items = front :: rest := hR.items.trans hpresent
      refine ⟨_, .single ⟨.pop, trivial, BoundedFifo.apply_pop hitems⟩, ?_⟩
      exact ⟨by rw [hcap, hR.cap], by rw [hevents], by rw [haccepted, hR.pushed],
        by rw [hremoved, hR.popped]⟩

/-- The threads' queue refines the bounded buffer, whatever is offered. -/
theorem refines_boundedFifo (uninitialised : E) :
    StepSystem.Simulation (system T uninitialised) StepSystem.unguarded
      (BoundedFifo.system E) StepSystem.unguarded Represents where
  initial := by
    rintro s ⟨cap, rfl⟩
    exact ⟨.empty cap, ⟨cap, rfl⟩, rfl, rfl, rfl, rfl⟩
  step := by
    intro s b a s' hs hb hR _ hstep
    exact represents_step (reachable_inv hs) (BoundedFifo.reachable_exact hb) hR hstep

/-! ## Exactly once -/

/-- What `poll` returns besides `ET()` is what left the deque. -/
theorem reachable_taken {uninitialised : E} {ok : State T E → Action T E → Prop}
    {s : State T E} (h : (system T uninitialised).Reachable ok s) :
    s.taken = nonDefault s.removed := by
  refine h.invariant (I := fun s => s.taken = nonDefault s.removed) ?_ ?_
  · rintro s ⟨cap, rfl⟩
    rfl
  · intro s a s' hreach hs _ hstep
    cases step_effect (reachable_inv hreach) hstep with
    | quiet _ _ _ hremoved htaken => rw [htaken, hremoved, hs]
    | accept _ _ _ _ _ _ _ hremoved htaken => rw [htaken, hremoved, hs]
    | remove front _ _ _ _ _ hremoved htaken =>
        rw [htaken, hremoved, hs, nonDefault, nonDefault, nonDefault, ← List.filter_append]

/-- Neither the accepted elements nor a pending `offer` have an `ET()`. -/
structure Clean (s : State T E) : Prop where
  accepted : ∀ e ∈ s.accepted, e ≠ default
  offering : ∀ t, ∀ e ∈ (s.pc t).offering, e ≠ default

omit [DecidableEq E] in
theorem Clean.step_offering {uninitialised : E} {s s' : State T E} {a : Action T E}
    (hs : Clean s) (hok : OffersElements s a) (hstep : step uninitialised s a = some s') :
    ∀ u, ∀ e ∈ (s'.pc u).offering, e ≠ default := by
  intro u e he
  have hcall : ∀ t pc, (∀ e ∈ pc.offering, e ≠ default) → callStep s t pc = some s' →
      e ≠ default := by
    intro t pc hpc hcall
    obtain hsub | heq := callStep_offering hcall u
    · exact hs.offering u e (hsub he)
    · exact hpc e (heq ▸ he)
  cases a with
  | offer t element =>
      exact hcall t (.offerLock element) (fun e he => List.eq_of_mem_singleton he ▸ hok) hstep
  | poll t => exact hcall t .pollWait nofun hstep
  | size t => exact hcall t .sizeLock nofun hstep
  | run t => exact hs.offering u e (runStep_offering hstep u he)
  | spuriousWake t =>
      cases hstep
      exact hs.offering u e he

theorem Clean.step {uninitialised : E} {s s' : State T E} {a : Action T E} (h : Inv s)
    (hs : Clean s) (hok : OffersElements s a)
    (hstep : EventQueue.step uninitialised s a = some s') : Clean s' := by
  refine ⟨?_, hs.step_offering hok hstep⟩
  cases step_effect h hstep with
  | quiet _ _ haccepted _ _ =>
      rw [haccepted]
      exact hs.accepted
  | accept t element hpc _ _ _ haccepted _ _ =>
      rw [haccepted]
      intro e he
      obtain he | he := List.mem_append.mp he
      · exact hs.accepted e he
      · refine hs.offering t e ?_
        rw [hpc]
        exact he
  | remove _ _ _ _ _ haccepted _ _ =>
      rw [haccepted]
      exact hs.accepted

theorem reachable_clean {uninitialised : E} {s : State T E}
    (h : (system T uninitialised).Reachable OffersElements s) : Clean s := by
  refine h.invariant ?_ ?_
  · rintro s ⟨cap, rfl⟩
    exact ⟨nofun, nofun⟩
  · intro s a s' hreach hs hok hstep
    exact hs.step (reachable_inv hreach) hok hstep

/-- With the queue's mutex free the flag says whether there are elements, the
deque is within its capacity, and the elements returned by `poll` so far followed
by the deque's contents are exactly the elements that `offer` accepted. -/
theorem bounded_fifo_exactly_once {uninitialised : E} {s : State T E}
    (h : (system T uninitialised).Reachable OffersElements s) (hfree : s.queue.mutex = none) :
    (s.queue.cond.isSet = true ↔ s.queue.events ≠ []) ∧
      s.queue.events.length ≤ s.queue.cap ∧
      nonDefault s.returned ++ s.queue.events = s.accepted := by
  have hidle : s.holder = .idle := by simp [State.holder, hfree]
  have hflag := (reachable_inv h).flag
  rw [hidle] at hflag
  obtain ⟨b, hb, hR⟩ := (refines_boundedFifo uninitialised).reachable h.unguarded
  have hexact := BoundedFifo.reachable_exact hb
  refine ⟨hflag, ?_, ?_⟩
  · rw [← hR.items, ← hR.cap]
    exact hexact.bounded
  · have hhistory := hexact.history
    rw [hR.popped, hR.items, hR.pushed] at hhistory
    have hremoved : nonDefault s.removed = s.removed := by
      refine List.filter_eq_self.mpr fun e he => ?_
      have hmem : e ∈ s.accepted := hhistory ▸ List.mem_append_left _ he
      simpa using (reachable_clean h).accepted e hmem
    have htaken : nonDefault s.returned = s.removed := by
      rw [← hremoved, ← reachable_taken h, State.taken, hidle]
      simp [Pc.inHand]
    rw [htaken, hhistory]

/-- Two elements offered and one of them polled, from an empty queue. -/
theorem bounded_fifo_exactly_once_after_poll :
    ∃ s : State (Fin 2) Nat, (system (Fin 2) 0).Reachable OffersElements s ∧
      s.queue.mutex = none ∧ s.accepted = [5, 7] ∧ s.returned = [5] ∧
      (s.queue.cond.isSet = true ↔ s.queue.events ≠ []) ∧
      s.queue.events.length ≤ s.queue.cap ∧
      nonDefault s.returned ++ s.queue.events = s.accepted := by
  obtain ⟨s, hreach, hfree, haccepted, hreturned⟩ :=
    StepSystem.exists_reachable_of_run (system (Fin 2) 0) OffersElements (new (Fin 2) Nat 32)
      [.offer 0 5, .run 0, .run 0, .run 0, .run 0, .run 0,
        .offer 0 7, .run 0, .run 0, .run 0, .run 0, .run 0,
        .poll 1, .run 1, .run 1, .run 1, .run 1, .run 1]
      (fun s => s.queue.mutex = none ∧ s.accepted = [5, 7] ∧ s.returned = [5])
      ⟨32, rfl⟩ (by decide)
  exact ⟨s, hreach, hfree, haccepted, hreturned, bounded_fifo_exactly_once hreach hfree⟩

end History

end EventQueue

end HdmiCec
