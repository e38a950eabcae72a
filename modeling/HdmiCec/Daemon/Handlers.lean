import HdmiCec.Daemon.Enabling
import HdmiCec.Library.StepSystem
import Mathlib.Data.Fintype.Basic
import Mathlib.Logic.Function.Basic

/-!
# The handlers that send, beside starting and stopping

`_Send` and `cecSendEventHandler` test `m_connection` and then use it without a lock;
`CECIARMMgr::start` and `CECIARMMgr::stop` hold `mutex`.  One step is one statement of
any of them.

Objects are numbers, as in `Enabling`.  `m_connection` is volatile: the test and
the call read it one after the other.  What a handler keeps is the `this` of
`Connection::send` or `Connection::sendAsync`: the statements of `matchSource` read the
member `source`, and the call of the bus behind them reads the member `bus`.  The bus
itself is never deleted.

A handler may get to a null `this` (`stop` comes between its two reads); then the
process is at its end, as it is in `stop` itself with a null `connection`.
-/

namespace HdmiCec

namespace Handlers

/-- The statement that the holder of `mutex` is at, or `idle` when nobody holds it. -/
inductive Control where
  | idle
  | testNotStarted
  | init
  | newProcessor
  | newFrameListener
  | newConnection
  | connectionOpen
  | addFrameListener
  | setM_connection
  | setStarted
  | testStarted
  | removeFrameListener
  | connectionClose
  | deleteFrameListener
  | clearM_connection
  | deleteConnection
  | clearConnection
  | deleteProcessor
  | term
  | clearStarted
  deriving DecidableEq

/-- The statement that a thread of the IARM bus is at in `_Send` or in
`cecSendEventHandler`, which are the same here, or `out` when it is in neither.  From
`matchSource` to `alterInitiator` it is in `matchSource`. -/
inductive Handler where
  | out
  | test
  | call
  | matchSource (this : Option Object)
  | compareInitiator (this : Object)
  | alterInitiator (this : Object)
  | bus (this : Object)
  deriving DecidableEq

/-- `T` are the threads of the IARM bus.  `constructed` connections have been made so
far. -/
structure State (T : Type) where
  control : Control
  started : Bool
  processor : Bool
  frameListener : Bool
  connection : Option Object
  m_connection : Option Object
  constructed : Nat
  deleted : Object → Bool
  handler : T → Handler
  crashed : Bool

/-- `enable` begins a call of `start` or `stop` with `mutex` free.  `control` is the next
statement of that call, where `throws` says whether a call of the library that stands
in it throws.  `handler` is the next statement of a thread, or the beginning of its next
call, where `taken` is what a condition in it comes to that reads the driver or the
frame. -/
inductive Action (T : Type) where
  | enable (enabled : Bool)
  | control (throws : Bool)
  | handler (t : T) (taken : Bool)
  deriving DecidableEq

variable {T : Type}

/-- The next statement of `start()` or `stop()`. -/
def controlStep (s : State T) (throws : Bool) : State T :=
  match s.control with
  | .idle => s
  | .testNotStarted => { s with control := if s.started then .idle else .init }
  | .init => { s with control := if throws then .idle else .newProcessor }
  | .newProcessor => { s with processor := true, control := .newFrameListener }
  | .newFrameListener => { s with frameListener := true, control := .newConnection }
  | .newConnection =>
      { s with
        connection := some s.constructed
        constructed := s.constructed + 1
        control := .connectionOpen }
  | .connectionOpen => { s with control := if throws then .idle else .addFrameListener }
  | .addFrameListener => { s with control := .setM_connection }
  | .setM_connection => { s with m_connection := s.connection, control := .setStarted }
  | .setStarted => { s with started := true, control := .idle }
  | .testStarted => { s with control := if s.started then .removeFrameListener else .idle }
  | .removeFrameListener =>
      match s.connection with
      | none => { s with crashed := true }
      | some _ => { s with control := .connectionClose }
  | .connectionClose => { s with control := if throws then .idle else .deleteFrameListener }
  | .deleteFrameListener => { s with frameListener := false, control := .clearM_connection }
  | .clearM_connection => { s with m_connection := none, control := .deleteConnection }
  | .deleteConnection =>
      match s.connection with
      | none => { s with control := .clearConnection }
      | some o =>
          { s with deleted := Function.update s.deleted o true, control := .clearConnection }
  | .clearConnection => { s with connection := none, control := .deleteProcessor }
  | .deleteProcessor => { s with processor := false, control := .term }
  | .term => { s with control := if throws then .idle else .clearStarted }
  | .clearStarted => { s with started := false, control := .idle }

/-- Where a thread goes from a statement, or nowhere from one that takes a null `this`
for an object. -/
def Handler.next (m_connection : Option Object) (taken : Bool) : Handler → Option Handler
  | .out => some .test
  | .test => some (if m_connection.isSome then .call else .out)
  | .call => some (.matchSource m_connection)
  | .matchSource none => none
  | .matchSource (some o) => some (if taken then .compareInitiator o else .bus o)
  | .compareInitiator o => some (if taken then .alterInitiator o else .bus o)
  | .alterInitiator o => some (.bus o)
  | .bus _ => some .out

section Steps

variable [DecidableEq T]

/-- The next statement of a thread. -/
def handlerStep (s : State T) (t : T) (taken : Bool) : State T :=
  match (s.handler t).next s.m_connection taken with
  | none => { s with crashed := true }
  | some place => { s with handler := Function.update s.handler t place }

def step (s : State T) (a : Action T) : Option (State T) :=
  if s.crashed then
    none
  else
    match a with
    | .enable enabled =>
        if s.control = .idle then
          some { s with control := if enabled then .testNotStarted else .testStarted }
        else
          none
    | .control throws => if s.control = .idle then none else some (controlStep s throws)
    | .handler t taken => some (handlerStep s t taken)

/-- The daemon when `CECIARMMgr::init` has returned. -/
def new (T : Type) : State T where
  control := .idle
  started := false
  processor := false
  frameListener := false
  connection := none
  m_connection := none
  constructed := 0
  deleted _ := false
  handler _ := .out
  crashed := false

def system (T : Type) [DecidableEq T] : StepSystem (State T) (Action T) where
  initial s := s = new T
  step := step

end Steps

/-! ## Start and stop alone -/

section Alone

variable [DecidableEq T]

/-- The threads of the IARM bus stand still. -/
def Alone (_ : State T) : Action T → Prop
  | .handler _ _ => False
  | _ => True

instance (s : State T) (a : Action T) : Decidable (Alone s a) :=
  match a with
  | .enable _ | .control _ => isTrue trivial
  | .handler _ _ => isFalse fun h => h

/-- The manager between two calls. -/
def State.manager (s : State T) : Manager where
  m_connection := s.m_connection
  started := s.started
  processor := s.processor
  frameListener := s.frameListener
  connection := s.connection
  constructed := s.constructed

/-- The beginning of a call of `start` or `stop` and its next `n` statements, of which
none throws. -/
def statements (enabled : Bool) (n : Nat) : List (Action T) :=
  .enable enabled :: List.replicate n (.control false)

/-- How a call of the library ends. -/
def outcome (throws : Bool) : Result Unit := if throws then throwing .ioException else .ok ()

theorem leads_alone {s s' : State T} (labels : List (Action T))
    (hrun : (system T).run Alone s labels = some s') : (system T).Leads Alone s s' :=
  StepSystem.leads_of_run hrun

/-- Statement by statement, and with nobody beside it, `start` is `Manager.start`. -/
theorem start_alone {s : State T} (hidle : s.control = .idle) (hruns : s.crashed = false)
    (init connectionOpen : Bool) :
    ∃ s', (system T).Leads Alone s s' ∧ s'.control = .idle ∧
      s'.manager = (s.manager.start { LibraryCalls.normal with
        init := outcome init, connectionOpen := outcome connectionOpen }).1 := by
  obtain ⟨control, started, processor, frameListener, connection, m_connection, constructed,
    deleted, handler, crashed⟩ := s
  cases hidle
  cases hruns
  cases started with
  | true =>
      exact ⟨_, leads_alone (statements true 1) rfl, rfl, rfl⟩
  | false =>
      cases init with
      | true =>
          exact ⟨_, leads_alone (statements true 1 ++ [.control true]) rfl, rfl, rfl⟩
      | false =>
          cases connectionOpen with
          | true =>
              exact ⟨_, leads_alone (statements true 5 ++ [.control true]) rfl, rfl, rfl⟩
          | false =>
              exact ⟨_, leads_alone (statements true 9) rfl, rfl, rfl⟩

/-- `stop` is `Manager.stop` in the same way, which comes to a null `connection` where
this one does. -/
theorem stop_alone {s : State T} (hidle : s.control = .idle) (hruns : s.crashed = false)
    (connectionClose term : Bool) :
    ∃ s', (system T).Leads Alone s s' ∧ (s'.crashed = false → s'.control = .idle) ∧
      (s'.manager, s'.crashed) =
        (s.manager.stop { LibraryCalls.normal with
          connectionClose := outcome connectionClose, term := outcome term }).map
            id Enabling.crashes := by
  obtain ⟨control, started, processor, frameListener, connection, m_connection, constructed,
    deleted, handler, crashed⟩ := s
  cases hidle
  cases hruns
  cases started with
  | false =>
      exact ⟨_, leads_alone (statements false 1) rfl, fun _ => rfl, rfl⟩
  | true =>
      cases connection with
      | none =>
          refine ⟨_, leads_alone (statements false 2) rfl, ?_, rfl⟩
          intro hnot
          cases hnot
      | some o =>
          cases connectionClose with
          | true =>
              exact ⟨_, leads_alone (statements false 2 ++ [.control true]) rfl, fun _ => rfl, rfl⟩
          | false =>
              cases term with
              | true =>
                  exact ⟨_, leads_alone (statements false 8 ++ [.control true]) rfl, fun _ => rfl,
                    rfl⟩
              | false =>
                  exact ⟨_, leads_alone (statements false 10) rfl, fun _ => rfl, rfl⟩

end Alone

/-! ## What the handlers use -/

/-- The object that the next statement of a thread reads a member of. -/
def Handler.uses : Handler → Option Object
  | .matchSource this => this
  | .compareInitiator this | .alterInitiator this | .bus this => some this
  | .out | .test | .call => none

/-- No thread is about to use an object that has been deleted. -/
def UsesLive (s : State T) : Prop := ∀ t o, (s.handler t).uses = some o → s.deleted o = false

/-- `delete connection` is executed only while no thread is between its second read of
`m_connection` and its last use of that object. -/
def Waits (s : State T) : Action T → Prop
  | .control _ => s.control = .deleteConnection →
      s.connection ≠ none → ∀ t, (s.handler t).uses ≠ s.connection
  | _ => True

/-- The invariant of the runs in which `delete connection` waits for the handlers. -/
structure Inv (s : State T) : Prop where
  held : UsesLive s
  published : ∀ o, s.m_connection = some o → s.deleted o = false
  fresh : ∀ o, s.constructed ≤ o → s.deleted o = false
  owned : s.control ≠ .clearConnection → ∀ o, s.connection = some o → s.deleted o = false
  numbered : ∀ o, s.connection = some o → o < s.constructed
  unpublished : s.control = .deleteConnection → s.m_connection = none

/-! ## The steps of the handlers -/

/-- What a thread uses next it has used already, or it has just read it. -/
theorem Handler.uses_next {m_connection : Option Object} {taken : Bool}
    {place place' : Handler} (hnext : place.next m_connection taken = some place') {o : Object}
    (huses : place'.uses = some o) : place.uses = some o ∨ m_connection = some o := by
  cases place with
  | out =>
      cases hnext
      cases huses
  | test =>
      cases hnext
      split at huses <;> cases huses
  | call =>
      cases hnext
      exact .inr huses
  | matchSource this =>
      cases this with
      | none => cases hnext
      | some o' =>
          cases hnext
          split at huses <;> exact .inl huses
  | compareInitiator o' =>
      cases hnext
      split at huses <;> exact .inl huses
  | alterInitiator o' =>
      cases hnext
      exact .inl huses
  | bus o' =>
      cases hnext
      cases huses

section HandlerSteps

variable [DecidableEq T]

theorem handlerStep_inv {s : State T} (h : Inv s) (t : T) (taken : Bool) :
    Inv (handlerStep s t taken) := by
  rw [handlerStep]
  cases hnext : (s.handler t).next s.m_connection taken with
  | none => exact ⟨h.held, h.published, h.fresh, h.owned, h.numbered, h.unpublished⟩
  | some place =>
      refine ⟨?_, h.published, h.fresh, h.owned, h.numbered, h.unpublished⟩
      intro u o huses
      show s.deleted o = false
      by_cases hu : u = t
      · -- the thread that moves
        subst hu
        have hplace : place.uses = some o := by simpa using huses
        rcases Handler.uses_next hnext hplace with hheld | hread
        · exact h.held u o hheld
        · exact h.published o hread
      · exact h.held u o (by simpa [hu] using huses)

end HandlerSteps

/-! ## The steps of `start` and `stop` -/

/-- A statement that leaves the objects and the pointers to them alone. -/
theorem Inv.quiet {s s' : State T} (h : Inv s) (hhandler : s'.handler = s.handler)
    (hdeleted : s'.deleted = s.deleted) (hconstructed : s'.constructed = s.constructed)
    (hm_connection : s'.m_connection = s.m_connection)
    (hconnection : s'.connection = s.connection) (hfrom : s.control ≠ .clearConnection)
    (hto : s'.control ≠ .deleteConnection) : Inv s' where
  held := by
    intro t o huses
    rw [hhandler] at huses
    rw [hdeleted]
    exact h.held t o huses
  published := by
    intro o hsome
    rw [hm_connection] at hsome
    rw [hdeleted]
    exact h.published o hsome
  fresh := by
    intro o hle
    rw [hconstructed] at hle
    rw [hdeleted]
    exact h.fresh o hle
  owned := by
    intro _ o hsome
    rw [hconnection] at hsome
    rw [hdeleted]
    exact h.owned hfrom o hsome
  numbered := by
    intro o hsome
    rw [hconnection] at hsome
    rw [hconstructed]
    exact h.numbered o hsome
  unpublished := fun hcontrol => absurd hcontrol hto

/-- `delete connection` takes an object that no pointer and no thread holds. -/
theorem delete_inv {s : State T} (h : Inv s) (hcontrol : s.control = .deleteConnection)
    {o : Object} (hconnection : s.connection = some o)
    (hwaits : ∀ t, (s.handler t).uses ≠ some o) :
    Inv { s with deleted := Function.update s.deleted o true, control := .clearConnection } where
  held := by
    intro t o' huses
    have hne : o' ≠ o := by
      rintro rfl
      exact hwaits t huses
    show Function.update s.deleted o true o' = false
    rw [Function.update_of_ne hne]
    exact h.held t o' huses
  published := by
    -- the statement before has cleared `m_connection`
    intro o' hsome
    have hnone := h.unpublished hcontrol
    rw [show s.m_connection = some o' from hsome] at hnone
    cases hnone
  fresh := by
    intro o' hle
    have hlt := h.numbered o hconnection
    have hne : o' ≠ o := by
      rintro rfl
      exact absurd hle (by simpa using hlt)
    show Function.update s.deleted o true o' = false
    rw [Function.update_of_ne hne]
    exact h.fresh o' hle
  owned := fun hnot => absurd rfl hnot
  numbered := h.numbered
  unpublished := fun hnot => by cases hnot

theorem controlStep_inv {s : State T} (h : Inv s) {throws : Bool}
    (hwaits : Waits s (.control throws)) : Inv (controlStep s throws) := by
  cases hcontrol : s.control with
  | newConnection =>
      have hnew := h.fresh s.constructed (Nat.le_refl _)
      simp only [controlStep, hcontrol]
      refine ⟨h.held, h.published, ?_, ?_, ?_, fun hnot => by cases hnot⟩
      · intro o hle
        exact h.fresh o (Nat.le_of_succ_le hle)
      · rintro - o hsome
        cases hsome
        exact hnew
      · intro o hsome
        cases hsome
        exact Nat.lt_succ_self _
  | setM_connection =>
      have howned := h.owned (by simp [hcontrol])
      simp only [controlStep, hcontrol]
      exact ⟨h.held, howned, h.fresh, fun _ => howned, h.numbered, fun hnot => by cases hnot⟩
  | clearM_connection =>
      have howned := h.owned (by simp [hcontrol])
      simp only [controlStep, hcontrol]
      refine ⟨h.held, ?_, h.fresh, fun _ => howned, h.numbered, fun _ => rfl⟩
      intro o hsome
      cases hsome
  | deleteConnection =>
      simp only [controlStep, hcontrol]
      split
      · next hnone => exact h.quiet rfl rfl rfl rfl rfl (by simp [hcontrol]) (by simp)
      · next o hconnection =>
        have hunused := hwaits hcontrol (by simp [hconnection])
        rw [hconnection] at hunused
        exact delete_inv h hcontrol hconnection hunused
  | clearConnection =>
      simp only [controlStep, hcontrol]
      refine ⟨h.held, h.published, h.fresh, ?_, ?_, fun hnot => by cases hnot⟩
      · intro _ o hsome
        cases hsome
      · intro o hsome
        cases hsome
  | removeFrameListener =>
      simp only [controlStep, hcontrol]
      split
      · exact h.quiet rfl rfl rfl rfl rfl (by simp [hcontrol]) (by simp)
      · exact h.quiet rfl rfl rfl rfl rfl (by simp [hcontrol]) (by simp)
  | idle | testNotStarted | testStarted | init | newProcessor | newFrameListener
  | connectionOpen | addFrameListener | setStarted | connectionClose | deleteFrameListener
  | deleteProcessor | term | clearStarted =>
      -- the statements that do not touch the objects
      have hfrom : s.control ≠ .clearConnection := by simp [hcontrol]
      simp only [controlStep, hcontrol]
      refine h.quiet rfl rfl rfl rfl rfl hfrom ?_
      grind

/-! ## Runs -/

section Runs

variable [DecidableEq T]

omit [DecidableEq T] in
theorem enable_inv {s : State T} (h : Inv s) (hidle : s.control = .idle) (enabled : Bool) :
    Inv { s with control := if enabled then .testNotStarted else .testStarted } := by
  refine h.quiet rfl rfl rfl rfl rfl (by simp [hidle]) ?_
  cases enabled <;> simp

theorem step_inv {s s' : State T} {a : Action T} (h : Inv s) (hwaits : Waits s a)
    (hstep : step s a = some s') : Inv s' := by
  simp only [step] at hstep
  split at hstep
  · cases hstep
  · cases a with
    | enable enabled =>
        simp only at hstep
        split at hstep
        · next hidle =>
          cases hstep
          exact enable_inv h hidle enabled
        · cases hstep
    | control throws =>
        simp only at hstep
        split at hstep
        · cases hstep
        · cases hstep
          exact controlStep_inv h hwaits
    | handler t taken =>
        cases hstep
        exact handlerStep_inv h t taken

omit [DecidableEq T] in
theorem new_inv : Inv (new T) where
  held := fun _ _ huses => by cases huses
  published := fun _ hsome => by cases hsome
  fresh := fun _ _ => rfl
  owned := fun _ _ hsome => by cases hsome
  numbered := fun _ hsome => by cases hsome
  unpublished := fun _ => rfl

theorem reachable_inv {s : State T} (h : (system T).Reachable Waits s) : Inv s := by
  refine h.invariant ?_ ?_
  · rintro s rfl
    exact new_inv
  · intro s a s' _ hinv hwaits hstep
    exact step_inv hinv hwaits hstep

/-- In every run in which `delete connection` is executed only while no thread is
between its second read of `m_connection` and its last use of that object, no step of a
handler operates on a deleted object. -/
theorem reachable_usesLive {s : State T} (h : (system T).Reachable Waits s) : UsesLive s :=
  (reachable_inv h).held

/-- The guard cannot be spared: behind a `delete` against it a thread is about to use
the deleted object. -/
theorem delete_unwaited {s s' : State T} {a : Action T} (hunwaited : ¬ Waits s a)
    (hstep : step s a = some s') : ¬ UsesLive s' := by
  cases a with
  | enable => exact absurd trivial hunwaited
  | handler => exact absurd trivial hunwaited
  | control throws =>
      obtain ⟨hcontrol, hrest⟩ := Classical.not_imp.mp hunwaited
      obtain ⟨hsome, hheld⟩ := Classical.not_imp.mp hrest
      obtain ⟨t, hnotUnused⟩ := Classical.not_forall.mp hheld
      obtain ⟨o, hconnection⟩ := Option.ne_none_iff_exists'.mp hsome
      have huses : (s.handler t).uses = some o := by
        rw [← hconnection]
        exact Classical.not_not.mp hnotUnused
      simp only [step] at hstep
      split at hstep
      · cases hstep
      · simp only [hcontrol, controlStep, hconnection] at hstep
        cases hstep
        intro hlive
        have hdeleted := hlive t o huses
        simp at hdeleted

end Runs

/-! ## Two threads -/

instance (s : State Bool) (a : Action Bool) : Decidable (Waits s a) :=
  match a with
  | .enable _ => isTrue trivial
  | .handler _ _ => isTrue trivial
  | .control _ => inferInstanceAs (Decidable
      (s.control = .deleteConnection →
        s.connection ≠ none → ∀ t : Bool, (s.handler t).uses ≠ s.connection))

/-- The next `n` statements of a thread, with every condition true. -/
def sends (t : Bool) (n : Nat) : List (Action Bool) := List.replicate n (.handler t true)

/-- A thread sends over the first connection and is done before `stop` deletes it; the
second thread then sends over the connection of the next `start`. -/
theorem reachable_usesLive_restarted :
    ∃ s : State Bool, (system Bool).Reachable Waits s ∧ s.deleted 0 = true ∧
      (s.handler true).uses = some 1 ∧ s.deleted 1 = false := by
  obtain ⟨s, hreach, hdeleted, huses⟩ :=
    StepSystem.exists_reachable_of_run (system Bool) Waits (new Bool)
      (statements true 9 ++ sends false 7 ++ statements false 10 ++ statements true 9 ++
        sends true 4)
      (fun s => s.deleted 0 = true ∧ (s.handler true).uses = some 1) rfl (by decide)
  exact ⟨s, hreach, hdeleted, huses, reachable_usesLive hreach true 1 huses⟩

/-- A thread has tested and read `m_connection` when `stop` begins; it comes to
`matchSource` behind the `delete`. -/
theorem not_usesLive :
    ¬ ∀ s : State Bool, (system Bool).Reachable StepSystem.unguarded s → UsesLive s := by
  intro hall
  obtain ⟨s, hreach, hdeleted, huses⟩ :=
    StepSystem.exists_reachable_of_run (system Bool) StepSystem.unguarded (new Bool)
      (statements true 9 ++ sends false 3 ++ statements false 6)
      (fun s => s.deleted 0 = true ∧ (s.handler false).uses = some 0) rfl (by decide)
  have hlive := hall s hreach false 0 huses
  rw [hdeleted] at hlive
  cases hlive

end Handlers

end HdmiCec
