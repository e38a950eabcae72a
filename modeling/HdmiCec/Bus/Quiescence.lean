import HdmiCec.Bus.Registry
import HdmiCec.Library.StepSystem

/-!
# Listeners that have left

`Bus::Reader::run` dispatches a frame under `rMutex`, and
`DefaultFrameListener::notify` goes through the list of its connection under the
mutex of the connection, inside.  Other threads change the lists at the same time,
each list under its mutex.  `Connection::close` takes first the one and then the
other.

The file shows that a listener which has been taken out of a connection's list is
not being notified through that connection, and is not notified again until it comes
back into the list; and the same of a connection that has left the list of the bus.
-/

namespace HdmiCec

namespace Quiescence

/-- The threads that hold a mutex. -/
inductive Holder (T : Type) where
  | reader
  | caller (t : T)
  deriving DecidableEq

/-- Where the reader is in its dispatch.  `rest` and `left` are what the iterators of
the two loops have still to go through. -/
inductive ReaderPc (C L : Type) where
  | idle
  | busLoop (rest : List C)
  /-- `(*list_it)->notify(frame)` of the bus; the mutex of the connection is next. -/
  | lock (c : C) (rest : List C)
  | filter (c : C) (rest : List C)
  | loop (c : C) (left : List L) (rest : List C)
  /-- Inside `notify` of a listener of the connection. -/
  | notifying (c : C) (listener : L) (left : List L) (rest : List C)
  deriving DecidableEq

/-- Where another thread is in its call: at the lock of a block, in it, or at its end,
with the blocks of the call that follow. -/
inductive CallPc (C L : Type) where
  | idle
  | lock (block : Block C L) (rest : List (Block C L))
  | body (block : Block C L) (rest : List (Block C L))
  | unlock (block : Block C L) (rest : List (Block C L))
  deriving DecidableEq

/-- The lists, the mutexes around them, the reader and the other threads. -/
structure State (C L T : Type) where
  registry : Registry C L
  mutex : ListMutex C → Option (Holder T)
  reader : ReaderPc C L
  calls : T → CallPc C L

/-- Who takes the next step.  `filtered` is what `isFiltered` returns for the frame
under way, and `throws` an exception of a listener or of the filter. -/
inductive Action (C L T : Type) where
  | dispatch
  | reader (filtered : Bool)
  | throws
  | call (t : T) (function : Registry.Call C L)
  | caller (t : T)
  deriving DecidableEq

variable {C L T : Type}

/-- The next block of a call, or its return. -/
def CallPc.next : List (Block C L) → CallPc C L
  | [] => .idle
  | block :: rest => .lock block rest

variable [DecidableEq C] [DecidableEq L] [DecidableEq T]

/-! ## The steps -/

/-- The next step of the reader. -/
def readerStep (s : State C L T) (filtered : Bool) : Option (State C L T) :=
  match s.reader with
  | .idle => none
  | .busLoop [] =>
      some { s with reader := .idle, mutex := Function.update s.mutex .rMutex none }
  | .busLoop (c :: rest) => some { s with reader := .lock c rest }
  | .lock c rest =>
      match s.mutex (.connection c) with
      | some _ => none
      | none =>
          some { s with
            reader := .filter c rest
            mutex := Function.update s.mutex (.connection c) (some .reader) }
  | .filter c rest =>
      some { s with
        reader := .loop c (if filtered then [] else s.registry.frameListeners c) rest }
  | .loop c [] rest =>
      some { s with
        reader := .busLoop rest
        mutex := Function.update s.mutex (.connection c) none }
  | .loop c (listener :: left) rest =>
      some { s with reader := .notifying c listener left rest }
  | .notifying c _ left rest => some { s with reader := .loop c left rest }

/-- An exception in the dispatch leaves both loops and releases both mutexes. -/
def throwsStep (s : State C L T) : Option (State C L T) :=
  match s.reader with
  | .filter c _ | .notifying c _ _ _ =>
      some { s with
        reader := .idle
        mutex :=
          Function.update (Function.update s.mutex (.connection c) none) .rMutex none }
  | _ => none

/-- The next step of another thread inside its call.  An exception ends the call, and
the `AutoLock` releases the mutex. -/
def callerStep (s : State C L T) (t : T) : Option (State C L T) :=
  match s.calls t with
  | .idle => none
  | .lock block rest =>
      match s.mutex block.mutex with
      | some _ => none
      | none =>
          some { s with
            calls := Function.update s.calls t (.body block rest)
            mutex := Function.update s.mutex block.mutex (some (.caller t)) }
  | .body block rest =>
      match block.body s.registry with
      | .ok registry =>
          some { s with
            registry := registry
            calls := Function.update s.calls t (.unlock block rest) }
      | .error _ => some { s with calls := Function.update s.calls t (.unlock block []) }
  | .unlock block rest =>
      some { s with
        calls := Function.update s.calls t (.next rest)
        mutex := Function.update s.mutex block.mutex none }

def step (s : State C L T) : Action C L T → Option (State C L T)
  | .dispatch =>
      match s.reader, s.mutex .rMutex with
      | .idle, none =>
          some { s with
            reader := .busLoop s.registry.listeners
            mutex := Function.update s.mutex .rMutex (some .reader) }
      | _, _ => none
  | .reader filtered => readerStep s filtered
  | .throws => throwsStep s
  | .call t function =>
      match s.calls t with
      | .idle => some { s with calls := Function.update s.calls t (.next function.blocks) }
      | _ => none
  | .caller t => callerStep s t

/-- Nobody listens, and nobody is in a call. -/
def new (C L T : Type) : State C L T where
  registry := .empty false
  mutex _ := none
  reader := .idle
  calls _ := .idle

def system (C L T : Type) [DecidableEq C] [DecidableEq L] [DecidableEq T] :
    StepSystem (State C L T) (Action C L T) where
  initial s := s = new C L T
  step := step

/-! ## Who holds what -/

/-- The connection whose mutex the reader holds. -/
def ReaderPc.connection : ReaderPc C L → Option C
  | .filter c _ | .loop c _ _ | .notifying c _ _ _ => some c
  | _ => none

/-- The connections that the outer loop is at or has still to go through. -/
def ReaderPc.ahead : ReaderPc C L → List C
  | .idle => []
  | .busLoop rest => rest
  | .lock c rest | .filter c rest | .loop c _ rest | .notifying c _ _ rest => c :: rest

/-- The listeners of the current connection that are being notified or still to be. -/
def ReaderPc.left : ReaderPc C L → List L
  | .loop _ left _ => left
  | .notifying _ listener left _ => listener :: left
  | _ => []

/-- The mutex that a thread in a call holds. -/
def CallPc.mutex : CallPc C L → Option (ListMutex C)
  | .body block _ | .unlock block _ => some block.mutex
  | _ => none

/-- The invariant: every mutex belongs to the thread that is in its block, and both
iterators of the reader are iterators into the lists as they are now. -/
structure Inv (s : State C L T) : Prop where
  readerBus : s.reader ≠ .idle → s.mutex .rMutex = some .reader
  readerIn : ∀ c, s.reader.connection = some c → s.mutex (.connection c) = some .reader
  caller : ∀ t k, (s.calls t).mutex = some k → s.mutex k = some (.caller t)
  ahead : s.reader.ahead <:+ s.registry.listeners
  left : ∀ c, s.reader.connection = some c → s.reader.left <:+ s.registry.frameListeners c

omit [DecidableEq C] [DecidableEq L] [DecidableEq T] in
theorem new_inv : Inv (new C L T) := by
  refine ⟨fun h => absurd rfl h, nofun, nofun, ?_, nofun⟩
  exact List.suffix_refl []

/-- What is left behind the first entry is still to be gone through. -/
theorem suffix_of_cons {α : Type} {a : α} {left all : List α} (h : a :: left <:+ all) :
    left <:+ all :=
  (List.suffix_cons a left).trans h

omit [DecidableEq L] [DecidableEq T] in
theorem readerStep_inv {s s' : State C L T} {filtered : Bool} (h : Inv s)
    (hstep : readerStep s filtered = some s') : Inv s' := by
  rcases h with ⟨hbus, hin, hcaller, hahead, hleft⟩
  unfold readerStep at hstep
  cases hpc : s.reader with
  | idle => simp [hpc] at hstep
  | busLoop rest =>
      rw [hpc] at hahead
      cases rest with
      | nil =>
          simp only [hpc, Option.some.injEq] at hstep
          subst hstep
          constructor <;> grind [ReaderPc.connection, ReaderPc.ahead]
      | cons c rest =>
          simp only [hpc, Option.some.injEq] at hstep
          subst hstep
          constructor <;> grind [ReaderPc.connection, ReaderPc.ahead]
  | lock c rest =>
      simp only [hpc] at hstep
      split at hstep
      · cases hstep
      · cases hstep
        constructor <;> grind [ReaderPc.connection, ReaderPc.ahead, ReaderPc.left]
  | filter c rest =>
      simp only [hpc, Option.some.injEq] at hstep
      subst hstep
      constructor <;> grind [ReaderPc.connection, ReaderPc.ahead, ReaderPc.left]
  | loop c left rest =>
      cases left with
      | nil =>
          have hrest : rest <:+ s.registry.listeners :=
            suffix_of_cons (by simpa [hpc, ReaderPc.ahead] using hahead)
          simp only [hpc, Option.some.injEq] at hstep
          subst hstep
          constructor <;> grind [ReaderPc.connection, ReaderPc.ahead]
      | cons listener left =>
          simp only [hpc, Option.some.injEq] at hstep
          subst hstep
          constructor <;> grind [ReaderPc.connection, ReaderPc.ahead, ReaderPc.left]
  | notifying c listener left rest =>
      simp only [hpc, Option.some.injEq] at hstep
      subst hstep
      have hleft' : left <:+ s.registry.frameListeners c :=
        suffix_of_cons (by simpa [hpc, ReaderPc.left] using hleft c (by rw [hpc]; rfl))
      constructor <;> grind [ReaderPc.connection, ReaderPc.ahead, ReaderPc.left]

omit [DecidableEq L] [DecidableEq T] in
theorem throwsStep_inv {s s' : State C L T} (h : Inv s) (hstep : throwsStep s = some s') :
    Inv s' := by
  rcases h with ⟨hbus, hin, hcaller, hahead, hleft⟩
  unfold throwsStep at hstep
  split at hstep
  · cases hstep
    constructor <;> grind [ReaderPc.connection, ReaderPc.ahead]
  · cases hstep
    constructor <;> grind [ReaderPc.connection, ReaderPc.ahead]
  · cases hstep

omit [DecidableEq T] in
/-- A block changes the lists of its mutex only, and the reader is in no list whose
mutex another thread holds. -/
theorem Inv.body {s : State C L T} (h : Inv s) {t : T} {block : Block C L}
    (hholds : (s.calls t).mutex = some block.mutex) {registry : Registry C L}
    (hbody : block.body s.registry = .ok registry) :
    s.reader.ahead <:+ registry.listeners ∧
      ∀ c, s.reader.connection = some c → s.reader.left <:+ registry.frameListeners c := by
  have hmutex := h.caller t _ hholds
  have hframe := Registry.body_frame hbody
  refine ⟨?_, fun c hc => ?_⟩
  · by_cases hidle : s.reader = .idle
    · rw [hidle]
      exact List.nil_suffix
    · have hreader := h.readerBus hidle
      rw [hframe.1 fun heq => by rw [heq, hreader] at hmutex; cases hmutex]
      exact h.ahead
  · have hreader := h.readerIn c hc
    rw [hframe.2 c fun heq => by rw [heq, hreader] at hmutex; cases hmutex]
    exact h.left c hc

theorem callerStep_inv {s s' : State C L T} {t : T} (h : Inv s)
    (hstep : callerStep s t = some s') : Inv s' := by
  unfold callerStep at hstep
  cases hpc : s.calls t with
  | idle => simp [hpc] at hstep
  | lock block rest =>
      rcases h with ⟨hbus, hin, hcaller, hahead, hleft⟩
      simp only [hpc] at hstep
      split at hstep
      · cases hstep
      · cases hstep
        constructor <;> grind [CallPc.mutex]
  | body block rest =>
      simp only [hpc] at hstep
      split at hstep
      · next registry hbody =>
        have hlists := h.body (t := t) (by rw [hpc]; rfl) hbody
        rcases h with ⟨hbus, hin, hcaller, hahead, hleft⟩
        cases hstep
        refine ⟨hbus, hin, ?_, hlists.1, hlists.2⟩
        grind [CallPc.mutex]
      · rcases h with ⟨hbus, hin, hcaller, hahead, hleft⟩
        cases hstep
        refine ⟨hbus, hin, ?_, hahead, hleft⟩
        grind [CallPc.mutex]
  | unlock block rest =>
      rcases h with ⟨hbus, hin, hcaller, hahead, hleft⟩
      simp only [hpc, Option.some.injEq] at hstep
      subst hstep
      have hmutex := hcaller t block.mutex (by rw [hpc]; rfl)
      have hnext : (CallPc.next rest : CallPc C L).mutex = none := by cases rest <;> rfl
      constructor <;> grind

theorem step_inv {s s' : State C L T} {a : Action C L T} (h : Inv s)
    (hstep : step s a = some s') : Inv s' := by
  cases a with
  | dispatch =>
      rcases h with ⟨hbus, hin, hcaller, hahead, hleft⟩
      simp only [step] at hstep
      split at hstep
      · cases hstep
        constructor <;> grind [ReaderPc.connection, ReaderPc.ahead]
      · cases hstep
  | reader filtered => exact readerStep_inv h hstep
  | throws => exact throwsStep_inv h hstep
  | call t function =>
      rcases h with ⟨hbus, hin, hcaller, hahead, hleft⟩
      simp only [step] at hstep
      split at hstep
      · cases hstep
        have hnext : (CallPc.next function.blocks : CallPc C L).mutex = none := by
          cases function.blocks <;> rfl
        constructor <;> grind
      · cases hstep
  | caller t => exact callerStep_inv h hstep

theorem reachable_inv {ok : State C L T → Action C L T → Prop} {s : State C L T}
    (h : (system C L T).Reachable ok s) : Inv s := by
  refine h.invariant ?_ ?_
  · rintro s rfl
    exact new_inv
  · intro s a s' _ hs _ hstep
    exact step_inv hs hstep

/-! ## Listeners that have left their connection -/

/-- The reader is inside `notify` of the listener, on behalf of the connection. -/
def State.Notifies (s : State C L T) (c : C) (listener : L) : Prop :=
  ∃ left rest, s.reader = .notifying c listener left rest

omit [DecidableEq C] [DecidableEq L] [DecidableEq T] in
theorem Inv.mem_of_notifies {s : State C L T} (h : Inv s) {c : C} {listener : L}
    (hnotifies : s.Notifies c listener) : listener ∈ s.registry.frameListeners c := by
  rcases hnotifies with ⟨left, rest, hpc⟩
  have hsuffix := h.left c (by rw [hpc]; rfl)
  rw [hpc] at hsuffix
  exact hsuffix.subset (List.mem_cons_self ..)

/-- Where the lists come from in a step. -/
theorem step_registry {s s' : State C L T} {a : Action C L T} (hstep : step s a = some s') :
    s'.registry = s.registry ∨
      ∃ t block rest, a = .caller t ∧ s.calls t = .body block rest ∧
        block.body s.registry = .ok s'.registry := by
  cases a with
  | dispatch =>
      simp only [step] at hstep
      split at hstep <;> cases hstep
      exact .inl rfl
  | reader filtered =>
      simp only [step, readerStep] at hstep
      (repeat' split at hstep) <;> cases hstep <;> exact .inl rfl
  | throws =>
      simp only [step, throwsStep] at hstep
      split at hstep <;> cases hstep <;> exact .inl rfl
  | call t function =>
      simp only [step] at hstep
      split at hstep <;> cases hstep
      exact .inl rfl
  | caller t =>
      simp only [step, callerStep] at hstep
      split at hstep
      · cases hstep
      · split at hstep <;> cases hstep
        exact .inl rfl
      · next block rest hpc =>
        split at hstep
        · next registry hbody =>
          cases hstep
          exact .inr ⟨t, block, rest, rfl, hpc, hbody⟩
        · cases hstep
          exact .inl rfl
      · cases hstep
        exact .inl rfl

/-- The thread is about to execute `frameListeners.push_back(listener)`. -/
def CallPc.adds (c : C) (listener : L) : CallPc C L → Bool
  | .body (.pushBack c' listener') _ => c' = c ∧ listener' = listener
  | _ => false

/-- The step does not add the listener to the connection. -/
def NotAdding (c : C) (listener : L) (s : State C L T) : Action C L T → Prop
  | .caller t => (s.calls t).adds c listener = false
  | _ => True

instance (c : C) (listener : L) (s : State C L T) (a : Action C L T) :
    Decidable (NotAdding c listener s a) :=
  match a with
  | .caller t => inferInstanceAs (Decidable ((s.calls t).adds c listener = false))
  | .dispatch | .reader _ | .throws | .call _ _ => inferInstanceAs (Decidable True)

theorem step_not_mem {s s' : State C L T} {a : Action C L T} {c : C} {listener : L}
    (hnot : listener ∉ s.registry.frameListeners c) (hok : NotAdding c listener s a)
    (hstep : step s a = some s') : listener ∉ s'.registry.frameListeners c := by
  rcases step_registry hstep with hsame | ⟨t, block, rest, rfl, hpc, hbody⟩
  · rw [hsame]
    exact hnot
  · intro hmem
    rcases Registry.body_frameListeners hbody hmem with hold | rfl
    · exact hnot hold
    · rw [NotAdding, hpc] at hok
      simp [CallPc.adds] at hok

/-- A thread executes `frameListeners.remove(listener)` or `frameListeners.clear()` in
one of its calls.  From then on, and so at and behind the return of the call, the
reader is not inside `notify` of the listener on behalf of the connection, until the
listener is added again. -/
theorem removed_not_notified {s s₁ s₂ : State C L T} {t : T} {c : C} {listener : L}
    {block : Block C L} {rest : List (Block C L)}
    (h : (system C L T).Reachable StepSystem.unguarded s)
    (hpc : s.calls t = .body block rest)
    (hblock : block = .clear c ∨ block = .remove c listener)
    (hstep : step s (.caller t) = some s₁)
    (hlead : (system C L T).Leads (NotAdding c listener) s₁ s₂) :
    ¬ s₂.Notifies c listener := by
  have hremoved : listener ∉ s₁.registry.frameListeners c := by
    simp only [step, callerStep, hpc] at hstep
    split at hstep
    · next registry hbody =>
      cases hstep
      exact Registry.not_mem_of_body hbody hblock
    · next hthrows =>
      rcases hblock with rfl | rfl <;> cases hthrows
  have hnext : (system C L T).step s (.caller t) = some s₁ := hstep
  have hreach := (h.next trivial hnext).leads (hlead.mono fun _ _ _ => trivial)
  have hstays : listener ∉ s₂.registry.frameListeners c :=
    hlead.invariant (I := fun s => listener ∉ s.registry.frameListeners c)
      (fun _ _ _ _ hnot hok hnext => step_not_mem hnot hok hnext) hremoved
  exact fun hnotifies => hstays ((reachable_inv hreach).mem_of_notifies hnotifies)

/-- The calls that put a connection with one listener on the bus, and its dispatch up
to the listener; another thread is about to take the listener out. -/
def dispatchAndRemove : List (Action (Fin 1) (Fin 1) (Fin 2)) :=
  [.call 0 (.busStarted true), .caller 0, .caller 0, .caller 0,
    .call 0 (.connectionOpen 0), .caller 0, .caller 0, .caller 0,
    .call 0 (.addFrameListener 0 0), .caller 0, .caller 0, .caller 0,
    .dispatch, .reader false, .reader false, .reader false, .reader false,
    .call 1 (.removeFrameListener 0 0), .reader false, .reader false, .caller 1]

/-- The thread waits for the dispatch, takes the listener out and returns; the
connection is opened and the next frame dispatched. -/
theorem removed_not_notified_returned :
    ∃ s₂ : State (Fin 1) (Fin 1) (Fin 2),
      (system (Fin 1) (Fin 1) (Fin 2)).Reachable StepSystem.unguarded s₂ ∧
      s₂.calls 1 = .idle ∧ s₂.reader = .loop 0 [] [] ∧ ¬ s₂.Notifies 0 0 := by
  let labels : List (Action (Fin 1) (Fin 1) (Fin 2)) :=
    [.caller 1, .reader false, .dispatch, .reader false, .reader false, .reader false]
  let Lasts (s₂ : State (Fin 1) (Fin 1) (Fin 2)) : Prop :=
    s₂.calls 1 = .idle ∧ s₂.reader = .loop 0 [] []
  obtain ⟨s, hreach, hpc, hrun⟩ :=
    StepSystem.exists_reachable_of_run (system (Fin 1) (Fin 1) (Fin 2)) StepSystem.unguarded
      (new (Fin 1) (Fin 1) (Fin 2)) dispatchAndRemove
      (fun s => s.calls 1 = .body (.remove 0 0) [] ∧
        (((step s (.caller 1)).bind fun s₁ =>
          (system (Fin 1) (Fin 1) (Fin 2)).run (NotAdding 0 0) s₁ labels).map
            fun s₂ => decide (Lasts s₂)) = some true) rfl (by decide)
  obtain ⟨s₂, hruns, hlasts⟩ := Option.map_eq_some_iff.mp hrun
  obtain ⟨s₁, hstep, hlabels⟩ := Option.bind_eq_some_iff.mp hruns
  have hlead := StepSystem.leads_of_run hlabels
  have hlast := of_decide_eq_true hlasts
  refine ⟨s₂, ?_, hlast.1, hlast.2, ?_⟩
  · have hnext : (system (Fin 1) (Fin 1) (Fin 2)).step s (.caller 1) = some s₁ := hstep
    exact (hreach.next trivial hnext).leads (hlead.mono fun _ _ _ => trivial)
  · exact removed_not_notified hreach hpc (.inr rfl) hstep hlead

/-! ## Connections that have left the bus -/

/-- The reader is at `notify` of the connection or inside it. -/
def State.Visits (s : State C L T) (c : C) : Prop :=
  (∃ rest, s.reader = .lock c rest) ∨ s.reader.connection = some c

omit [DecidableEq C] [DecidableEq L] [DecidableEq T] in
theorem Inv.mem_of_visits {s : State C L T} (h : Inv s) {c : C} (hvisits : s.Visits c) :
    c ∈ s.registry.listeners := by
  refine h.ahead.subset ?_
  rcases hvisits with ⟨rest, hpc⟩ | hin
  · rw [hpc]
    exact List.mem_cons_self ..
  · cases hpc : s.reader with
    | idle | busLoop | lock => rw [hpc] at hin; cases hin
    | filter | loop | notifying =>
        rw [hpc] at hin
        cases hin
        exact List.mem_cons_self ..

/-- The step does not put the connection on the bus. -/
def NotOpening (c : C) (s : State C L T) (a : Action C L T) : Prop :=
  ∀ t rest, a = .caller t → s.calls t ≠ .body (.busAdd c) rest

/-- Once `Bus::removeFrameListener` has taken a connection out, the reader is not at
it, until it is opened again. -/
theorem closed_not_visited {s s₁ s₂ : State C L T} {t : T} {c : C}
    {rest : List (Block C L)} (h : (system C L T).Reachable StepSystem.unguarded s)
    (hstarted : s.registry.started = true) (hpc : s.calls t = .body (.busRemove c) rest)
    (hstep : step s (.caller t) = some s₁)
    (hlead : (system C L T).Leads (NotOpening c) s₁ s₂) : ¬ s₂.Visits c := by
  have hremoved : c ∉ s₁.registry.listeners := by
    simp only [step, callerStep, hpc] at hstep
    split at hstep
    · next registry hbody =>
      cases hstep
      exact Registry.not_mem_of_busRemove hbody
    · next hthrows => simp [Block.body, hstarted] at hthrows
  have hnext : (system C L T).step s (.caller t) = some s₁ := hstep
  have hreach := (h.next trivial hnext).leads (hlead.mono fun _ _ _ => trivial)
  have hstays : c ∉ s₂.registry.listeners := by
    refine hlead.invariant (I := fun s => c ∉ s.registry.listeners) ?_ hremoved
    intro s a s' _ hnot hok hstep hmem
    rcases step_registry hstep with hsame | ⟨t, block, rest, rfl, hpc, hbody⟩
    · rw [hsame] at hmem
      exact hnot hmem
    · rcases Registry.mem_listeners_of_body hbody hmem with hold | rfl
      · exact hnot hold
      · exact hok t rest rfl hpc
  exact fun hvisits => hstays ((reachable_inv hreach).mem_of_visits hvisits)

end Quiescence

end HdmiCec
