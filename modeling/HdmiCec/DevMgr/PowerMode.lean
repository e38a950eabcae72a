import HdmiCec.DevMgr.Answers
import HdmiCec.Library.Notices

/-!
# The power mode and its two copies

The power manager has a mode, and sends an event for every change of it.  The process of the
device manager keeps two copies of what the mode means: `powerState` of the host plugin,
from which `CECHost_IsActive` answers, and `powerState` of the device manager, which
<Give Device Power Status> is answered with.  `_powerEventHandler` stores the state of an
event in both, in the device manager's through the callback that `main` has registered.
`CECHost_GetPowerState` asks the power manager and stores the answer in the plugin, and
`main`, which calls it in its start-up, stores it in the device manager.

The mode may change at any time, between the answer and either store as well, and events
may be handled at any time, on a thread of their own.  The callback and `main` are those of
`PowerCallback`, with all their steps.
-/

universe u

namespace HdmiCec

namespace PowerMode

open PowerCallback (hostState powerStateOn EventPc MainPc)
open Notices (Converges)

/-! ## The plugin and the power manager -/

/-- Where `main` is in `CECHost_GetPowerState`: the power manager has answered, or the answer
has also been stored in the plugin's `powerState`.  `succeeds` is the result of
`IARM_Bus_Call`. -/
inductive Query where
  | idle
  | answered (succeeds : Bool) (state : Int)
  | stored (succeeds : Bool) (state : Int)
  deriving DecidableEq

/-- What `CECHost_GetPowerState` returns. -/
def returns (succeeds : Bool) (state : Int) : DeviceManager.Answer Int :=
  if succeeds then .ok state else .error .host

/-- The power manager with its events on their way, and the process.  `handling` is the
`newState` of the event that `_powerEventHandler` is called with. -/
structure State (M : Type u) where
  mode : M
  events : List Bool
  handling : Option Int
  powerState : Int
  query : Query
  process : PowerCallback.State

inductive Action (M : Type u) where
  | modeChanges (mode : M)
  /-- `_powerEventHandler` is called, and calls `hostCb.pwrStateCb` if it is set. -/
  | handler
  /-- `powerState = newState` in `_powerEventHandler`, when the callback has returned. -/
  | handlerStores
  /-- `IARM_Bus_Call` in `CECHost_GetPowerState`. -/
  | asks (succeeds : Bool)
  /-- `powerState = *state` in `CECHost_GetPowerState`. -/
  | queryStores
  /-- `CECHost_GetPowerState` returns to `main`. -/
  | queryReturns
  | process (a : PowerCallback.Action)

variable {M : Type u}

/-- A step of the process. -/
def State.withProcess (s : State M) (a : PowerCallback.Action) : Option (State M) :=
  (PowerCallback.step s.process a).map fun process => { s with process := process }

/-- The steps of the process that are none of the other actions. -/
def own : PowerCallback.Action → Bool
  | .main (.getPowerState _) | .event (.powerEvent _) => false
  | _ => true

/-- `on_` says which modes are `IARM_BUS_PWRMGR_POWERSTATE_ON`. -/
def step (on_ : M → Bool) (s : State M) : Action M → Option (State M)
  | .modeChanges mode => some { s with mode := mode, events := s.events ++ [on_ mode] }
  | .handler =>
      match s.handling, s.events with
      | none, newOn :: events =>
          { s with events := events, handling := some (hostState newOn) }.withProcess
            (.event (.powerEvent newOn))
      | _, _ => none
  | .handlerStores =>
      match s.handling with
      | some newState =>
          if s.process.event = .idle then
            some { s with handling := none, powerState := newState }
          else
            none
      | none => none
  | .asks succeeds =>
      if s.process.main = .getPowerState ∧ s.query = .idle then
        some { s with query := .answered succeeds (hostState (succeeds && on_ s.mode)) }
      else
        none
  | .queryStores =>
      match s.query with
      | .answered succeeds state =>
          some { s with powerState := state, query := .stored succeeds state }
      | _ => none
  | .queryReturns =>
      match s.query with
      | .stored succeeds state =>
          { s with query := .idle }.withProcess (.main (.getPowerState (returns succeeds state)))
      | _ => none
  | .process a => if own a then s.withProcess a else none

/-- The states that the events on their way hold, for the plugin. -/
def State.toPlugin (s : State M) : List Int := s.handling.toList ++ s.events.map hostState

/-- What the callback is still to store. -/
def pending : EventPc → List Int
  | .called newState | .viewOnSent newState | .sent newState => [newState]
  | .idle | .stored _ => []

/-- The same for the device manager. -/
def State.toDevMgr (s : State M) : List Int :=
  pending s.process.event ++ s.events.map hostState

/-- `main` is behind `CECHost_Init`, which has registered `_powerEventHandler`: the events on
their way, if there are any, end with the mode. -/
def system (on_ : M → Bool) : StepSystem (State M) (Action M) where
  initial s := s.process = PowerCallback.new ∧ s.query = .idle ∧
    Converges (hostState (on_ s.mode)) s.toPlugin (hostState (on_ s.mode))
  step := step on_

/-- The callback comes to its first send behind `conn_ = &conn`, and the power manager
answers the call. -/
def Serves (s : State M) : Action M → Prop
  | .asks succeeds => succeeds = true
  | .process a => PowerCallback.ConnAssigned s.process a
  | _ => True

instance (s : State M) (a : Action M) : Decidable (Serves s a) :=
  match a with
  | .asks _ => inferInstanceAs (Decidable (_ = true))
  | .process _ => inferInstanceAs (Decidable (PowerCallback.ConnAssigned _ _))
  | .modeChanges _ | .handler | .handlerStores | .queryStores | .queryReturns =>
      inferInstanceAs (Decidable True)

/-- `CECHost_IsActive`. -/
def cecHostIsActive (powerState : Int) : DeviceManager.Answer Int :=
  .ok (if powerState = powerStateOn then 1 else 0)

/-! ## The two copies in every run -/

/-- `main` has stored the answer of the power manager. -/
def queried : MainPc → Bool
  | .setCallback | .isHdmiOutputConnected | .getHdmiOuputPhysicalAddress | .getPowerState => false
  | _ => true

/-- The `newState` of the callback that is under way. -/
def newStateOf : EventPc → Option Int
  | .idle => none
  | .called newState | .viewOnSent newState | .sent newState | .stored newState => some newState

/-- The answer that is on its way through `CECHost_GetPowerState`. -/
def Query.state : Query → Option Int
  | .idle => none
  | .answered _ state | .stored _ state => some state

/-- No call of the power manager has failed. -/
def Query.succeeded : Query → Bool
  | .idle => true
  | .answered succeeds _ | .stored succeeds _ => succeeds

/-- The answer is in the plugin. -/
def Query.isStored : Query → Bool
  | .stored _ _ => true
  | _ => false

/-- What the statements of `main` other than the query of the power state do. -/
structure OwnMain (p p' : PowerCallback.State) : Prop where
  event : p'.event = p.event
  powerState : p'.devMgr.powerState = p.devMgr.powerState
  elsewhere : p.main ≠ .getPowerState
  queried : queried p'.main = queried p.main
  registered : (p.main ≠ .setCallback → p.pwrStateCb = true) → p'.pwrStateCb = true

theorem mainStep_own {p p' : PowerCallback.State} {a : PowerCallback.MainAction}
    (hown : own (.main a) = true) (hstep : PowerCallback.mainStep p a = some p') :
    OwnMain p p' := by
  have helsewhere : ∀ {pc : MainPc}, p.main = pc → pc ≠ .getPowerState →
      p.main ≠ .getPowerState := by
    intro pc hpc hne
    rw [hpc]
    exact hne
  have hregistered : ∀ {pc : MainPc}, p.main = pc → pc ≠ .setCallback →
      (p.main ≠ .setCallback → p.pwrStateCb = true) → p.pwrStateCb = true := by
    intro pc hpc hne hset
    rw [hpc] at hset
    exact hset hne
  cases a with
  | getPowerState answer => cases hown
  | setCallback =>
      obtain ⟨hpc, rfl⟩ := PowerCallback.whenMain_eq_some.mp hstep
      exact ⟨rfl, rfl, helsewhere hpc nofun, by rw [hpc]; rfl, fun _ => rfl⟩
  | isHdmiOutputConnected answer | getHdmiOuputPhysicalAddress answer =>
      cases answer <;> obtain ⟨hpc, rfl⟩ := PowerCallback.whenMain_eq_some.mp hstep <;>
        exact ⟨rfl, rfl, helsewhere hpc nofun, by rw [hpc]; rfl, hregistered hpc nofun⟩
  | driverOpen hdmiCecOpen =>
      obtain ⟨hpc, hnext⟩ := PowerCallback.whenMain_eq_some.mp hstep
      obtain ⟨driver, heq | heq⟩ := PowerCallback.openDriver_cases p hdmiCecOpen fun p =>
        { p with main := .busStart }
      all_goals
        rw [heq] at hnext
        cases hnext
        exact ⟨rfl, rfl, helsewhere hpc nofun, by rw [hpc]; rfl, hregistered hpc nofun⟩
  | busStart hdmiCecOpen =>
      obtain ⟨hpc, hnext⟩ := PowerCallback.whenMain_eq_some.mp hstep
      obtain ⟨driver, heq | heq⟩ := PowerCallback.openDriver_cases p hdmiCecOpen fun p =>
        { p with main := .initialized, started := true }
      all_goals
        rw [heq] at hnext
        cases hnext
        exact ⟨rfl, rfl, helsewhere hpc nofun, by rw [hpc]; rfl, hregistered hpc nofun⟩
  | initialized | construct | assignConn | connectionOpen | addFrameListener =>
      obtain ⟨hpc, rfl⟩ := PowerCallback.whenMain_eq_some.mp hstep
      exact ⟨rfl, rfl, helsewhere hpc nofun, by rw [hpc]; rfl, hregistered hpc nofun⟩

/-- What a statement of the callback does: it goes on with the same state to store, or it
stores it. -/
structure OwnEvent (p p' : PowerCallback.State) : Prop where
  main : p'.main = p.main
  pwrStateCb : p'.pwrStateCb = p.pwrStateCb
  newState : ∀ newState, newStateOf p'.event = some newState → newStateOf p.event = some newState
  stores : (pending p'.event = pending p.event ∧ p'.devMgr.powerState = p.devMgr.powerState) ∨
    ∃ newState, p.event = .sent newState ∧ p'.event = .stored newState ∧
      p'.devMgr.powerState = newState

theorem firstSend_own {p : PowerCallback.State} {newState : Int}
    (hevent : p.event = .called newState) (answers : Nat → HdmiCecTx) :
    OwnEvent p (PowerCallback.firstSend p newState answers) := by
  rw [PowerCallback.firstSend]
  split <;> split
  all_goals
    refine ⟨rfl, rfl, ?_, .inl ⟨?_, rfl⟩⟩ <;>
      simp [hevent, newStateOf, pending]

theorem secondSend_own {p : PowerCallback.State} {newState : Int}
    (hevent : p.event = .viewOnSent newState) (answers : Nat → HdmiCecTx) :
    OwnEvent p (PowerCallback.secondSend p newState answers) := by
  rw [PowerCallback.secondSend]
  split
  all_goals
    refine ⟨rfl, rfl, ?_, .inl ⟨?_, rfl⟩⟩ <;>
      simp [hevent, newStateOf, pending]

theorem eventMove_own {p p' : PowerCallback.State} {a : PowerCallback.EventAction}
    (hown : own (.event a) = true) (hmove : PowerCallback.EventMove p a p') : OwnEvent p p' := by
  cases hmove with
  | ignored | called => cases hown
  | firstSend hevent => exact firstSend_own hevent _
  | secondSend hevent => exact secondSend_own hevent _
  | store hevent =>
      refine ⟨rfl, rfl, ?_, .inr ⟨_, hevent, rfl, rfl⟩⟩
      rw [hevent]
      exact fun _ hnew => hnew
  | callbackReturns hevent =>
      refine ⟨rfl, rfl, nofun, .inl ⟨?_, rfl⟩⟩
      rw [hevent]
      rfl

section Invariant

variable {on_ : M → Bool}

/-- What holds of the process behind `CECHost_Init`. -/
structure Inv (on_ : M → Bool) (s : State M) : Prop where
  process : PowerCallback.system.Reachable PowerCallback.ConnAssigned s.process
  registered : s.process.main ≠ .setCallback → s.process.pwrStateCb = true
  calling : ∀ newState, newStateOf s.process.event = some newState → s.handling = some newState
  newest : Converges (hostState (on_ s.mode)) s.toPlugin (hostState (on_ s.mode))
  asking : s.query ≠ .idle → s.process.main = .getPowerState
  succeeded : s.query.succeeded = true
  answered : ∀ state, s.query.state = some state →
    Converges (hostState (on_ s.mode)) s.toDevMgr state
  plugin : s.query.isStored = true ∨ queried s.process.main = true →
    Converges (hostState (on_ s.mode)) s.toPlugin s.powerState
  devMgr : queried s.process.main = true →
    Converges (hostState (on_ s.mode)) s.toDevMgr s.process.devMgr.powerState

theorem initial_inv {s : State M} (h : (system on_).initial s) : Inv on_ s := by
  obtain ⟨hprocess, hquery, hnewest⟩ := h
  constructor
  · rw [hprocess]
    exact .of_initial rfl
  · rw [hprocess]
    exact fun hne => absurd rfl hne
  · rw [hprocess]
    intro newState hnone
    cases hnone
  · exact hnewest
  · exact fun hne => absurd hquery hne
  · rw [hquery]
    rfl
  · rw [hquery]
    intro state hnone
    cases hnone
  · rw [hquery, hprocess]
    rintro (hfalse | hfalse) <;> cases hfalse
  · rw [hprocess]
    intro hfalse
    cases hfalse

/-- What is on its way to the device manager is on its way to the plugin. -/
theorem Inv.newest_toDevMgr {s : State M} (h : Inv on_ s) :
    Converges (hostState (on_ s.mode)) s.toDevMgr (hostState (on_ s.mode)) := by
  have hnewest := h.newest
  cases hpending : pending s.process.event with
  | nil =>
      rw [State.toDevMgr, hpending]
      exact hnewest.behind
  | cons newState rest =>
      obtain ⟨hnew, rfl⟩ : newStateOf s.process.event = some newState ∧ rest = [] := by
        cases hevent : s.process.event <;> rw [hevent] at hpending <;> cases hpending <;>
          exact ⟨rfl, rfl⟩
      rw [State.toPlugin, h.calling newState hnew] at hnewest
      rw [State.toDevMgr, hpending]
      exact hnewest

/-- An answer that the device manager may store may be stored in the plugin. -/
theorem Inv.toPlugin_of_toDevMgr {s : State M} (h : Inv on_ s) {state : Int}
    (hstate : Converges (hostState (on_ s.mode)) s.toDevMgr state) :
    Converges (hostState (on_ s.mode)) s.toPlugin state := by
  refine h.newest.refresh ?_
  intro hnone
  obtain ⟨hhandling, hevents⟩ := List.append_eq_nil_iff.mp hnone
  have hpending : pending s.process.event = [] := by
    cases hevent : s.process.event with
    | idle | stored => rfl
    | called newState | viewOnSent newState | sent newState =>
        have hcalling := h.calling newState (by rw [hevent]; rfl)
        rw [hcalling] at hhandling
        cases hhandling
  rw [State.toDevMgr, hpending, hevents] at hstate
  exact hstate.quiet

section Step

variable {s s' : State M}

theorem modeChanges_inv (h : Inv on_ s) (mode : M) :
    Inv on_ { s with mode := mode, events := s.events ++ [on_ mode] } := by
  have hplugin : State.toPlugin { s with mode := mode, events := s.events ++ [on_ mode] } =
      s.toPlugin ++ [hostState (on_ mode)] := by
    simp [State.toPlugin]
  have hdevMgr : State.toDevMgr { s with mode := mode, events := s.events ++ [on_ mode] } =
      s.toDevMgr ++ [hostState (on_ mode)] := by
    simp [State.toDevMgr]
  refine ⟨h.process, h.registered, h.calling, ?_, h.asking, h.succeeded, ?_, ?_, ?_⟩
  · rw [hplugin]
    exact .changes _ _ _
  · rw [hdevMgr]
    exact fun _ _ => .changes _ _ _
  · rw [hplugin]
    exact fun _ => .changes _ _ _
  · rw [hdevMgr]
    exact fun _ => .changes _ _ _

theorem withProcess_eq_some {a : PowerCallback.Action} (hstep : s.withProcess a = some s') :
    ∃ process, PowerCallback.step s.process a = some process ∧
      s' = { s with process := process } := by
  obtain ⟨process, hprocess, hs'⟩ := Option.map_eq_some_iff.mp hstep
  exact ⟨process, hprocess, hs'.symm⟩

/-- The handler takes an event, and the callback begins with it, if there is one. -/
theorem handler_inv (h : Inv on_ s) (hstep : step on_ s .handler = some s') : Inv on_ s' := by
  rw [step] at hstep
  split at hstep
  · next newOn events hnone hevents =>
    obtain ⟨process, hprocess, rfl⟩ := withProcess_eq_some hstep
    have hok : PowerCallback.ConnAssigned s.process (.event (.powerEvent newOn)) := trivial
    have hreach := h.process.next hok hprocess
    obtain ⟨b, hb, -⟩ | ⟨b, hb, hmove⟩ | ⟨rQueue, wQueue, hb, -⟩ :=
      PowerCallback.step_cases hprocess
    · cases hb
    · cases hb
      have hplugin : ∀ process, State.toPlugin { s with
          events := events, handling := some (hostState newOn), process := process } =
            s.toPlugin := by
        intro process
        simp [State.toPlugin, hnone, hevents]
      cases hmove with
      | ignored hidle hunset =>
          -- the callback is not registered yet, so `main` has not asked either
          have hfirst : s.process.main = .setCallback := by
            by_contra hne
            exact hunset (h.registered hne)
          have hquery : s.query = .idle := by
            by_contra hne
            have hasking := h.asking hne
            rw [hfirst] at hasking
            cases hasking
          refine ⟨hreach, h.registered, ?_, ?_, h.asking, h.succeeded, ?_, ?_, ?_⟩
          · intro newState hnew
            rw [hidle] at hnew
            cases hnew
          · rw [hplugin]
            exact h.newest
          · intro state hstate
            rw [show s.query.state = none by rw [hquery]; rfl] at hstate
            cases hstate
          · rw [hplugin]
            exact h.plugin
          · intro hqueried
            rw [show queried s.process.main = false by rw [hfirst]; rfl] at hqueried
            cases hqueried
      | called hidle hset =>
          have hdevMgr : State.toDevMgr { s with
              events := events, handling := some (hostState newOn),
              process := { s.process with event := .called (hostState newOn) } } =
                s.toDevMgr := by
            have hbefore : s.process.event = .idle := hidle
            simp [State.toDevMgr, pending, hbefore, hevents]
          refine ⟨hreach, h.registered, fun _ hnew => hnew, ?_, h.asking, h.succeeded, ?_, ?_, ?_⟩
          · rw [hplugin]
            exact h.newest
          · rw [hdevMgr]
            exact h.answered
          · rw [hplugin]
            exact h.plugin
          · rw [hdevMgr]
            exact h.devMgr
    · cases hb
  · cases hstep

/-- The handler stores the state in the plugin. -/
theorem handlerStores_inv (h : Inv on_ s) (hstep : step on_ s .handlerStores = some s') :
    Inv on_ s' := by
  rw [step] at hstep
  split at hstep
  · next newState hhandling =>
    split at hstep
    · next hidle =>
      cases hstep
      have hplugin : s.toPlugin = newState :: s.events.map hostState := by
        rw [State.toPlugin, hhandling]
        rfl
      have hnewest := h.newest
      rw [hplugin] at hnewest
      -- the callback has returned, so the event is on its way to neither copy any more
      refine ⟨h.process, h.registered, ?_, ?_, h.asking, h.succeeded, h.answered, ?_, h.devMgr⟩
      · intro newState' hnew
        rw [hidle] at hnew
        cases hnew
      · exact @Converges.behind _ _ _ _ [newState] hnewest
      · exact fun _ => hnewest.arrives
    · cases hstep
  · cases hstep

/-- The power manager answers with its mode. -/
theorem asks_inv (h : Inv on_ s) (hstep : step on_ s (.asks true) = some s') : Inv on_ s' := by
  rw [step] at hstep
  split at hstep
  · next hasks =>
    cases hstep
    refine ⟨h.process, h.registered, h.calling, h.newest, fun _ => hasks.1, rfl, ?_, ?_, h.devMgr⟩
    · intro state hstate
      cases hstate
      -- the answer is the mode, and what changes it later sends an event
      exact h.newest_toDevMgr
    · rintro (hfalse | hqueried)
      · cases hfalse
      · exact h.plugin (.inr hqueried)
  · cases hstep

/-- The answer is stored in the plugin. -/
theorem queryStores_inv (h : Inv on_ s) (hstep : step on_ s .queryStores = some s') :
    Inv on_ s' := by
  rw [step] at hstep
  split at hstep
  · next succeeds state hquery =>
    cases hstep
    have hanswered := h.answered state (by rw [hquery]; rfl)
    have hsucceeded := h.succeeded
    have hasking := h.asking (by rw [hquery]; nofun)
    rw [hquery] at hsucceeded
    refine ⟨h.process, h.registered, h.calling, h.newest, fun _ => hasking, hsucceeded, ?_, ?_,
      h.devMgr⟩
    · intro state' hstate
      cases hstate
      exact hanswered
    · exact fun _ => h.toPlugin_of_toDevMgr hanswered
  · cases hstep

/-- `main` stores the answer in the device manager. -/
theorem queryReturns_inv (h : Inv on_ s) (hstep : step on_ s .queryReturns = some s') :
    Inv on_ s' := by
  rw [step] at hstep
  split at hstep
  · next succeeds state hquery =>
    obtain ⟨process, hprocess, rfl⟩ := withProcess_eq_some hstep
    have hok : PowerCallback.ConnAssigned s.process
        (.main (.getPowerState (returns succeeds state))) := trivial
    have hreach := h.process.next hok hprocess
    have hanswered := h.answered state (by rw [hquery]; rfl)
    obtain rfl : succeeds = true := by
      have hsucceeded := h.succeeded
      rw [hquery] at hsucceeded
      exact hsucceeded
    obtain ⟨b, hb, hmain⟩ | ⟨b, hb, -⟩ | ⟨rQueue, wQueue, hb, -⟩ :=
      PowerCallback.step_cases hprocess
    · cases hb
      obtain ⟨hpc, rfl⟩ := PowerCallback.whenMain_eq_some.mp hmain
      have hset : s.process.pwrStateCb = true := h.registered (by rw [hpc]; nofun)
      exact ⟨hreach, fun _ => hset, h.calling, h.newest, fun hne => absurd rfl hne, rfl, nofun,
        fun _ => h.plugin (.inl (by rw [hquery]; rfl)), fun _ => hanswered⟩
    · cases hb
    · cases hb
  · cases hstep

/-- The other statements of the process. -/
theorem process_inv (h : Inv on_ s) {a : PowerCallback.Action}
    (hok : PowerCallback.ConnAssigned s.process a) (hstep : step on_ s (.process a) = some s') :
    Inv on_ s' := by
  rw [step] at hstep
  split at hstep
  · next hown =>
    obtain ⟨process, hprocess, rfl⟩ := withProcess_eq_some hstep
    have hreach := h.process.next hok hprocess
    obtain ⟨b, rfl, hmain⟩ | ⟨b, rfl, hmove⟩ | ⟨rQueue, wQueue, -, rfl⟩ :=
      PowerCallback.step_cases hprocess
    · have hmove := mainStep_own hown hmain
      -- `main` is not at its query, so no answer is on its way
      have hquery : s.query = .idle := by
        by_contra hne
        exact hmove.elsewhere (h.asking hne)
      have hdevMgr : State.toDevMgr { s with process := process } = s.toDevMgr := by
        rw [State.toDevMgr, State.toDevMgr, hmove.event]
      refine ⟨hreach, fun _ => hmove.registered h.registered, ?_, h.newest,
        fun hne => absurd hquery hne, h.succeeded, ?_, ?_, ?_⟩
      · rw [hmove.event]
        exact h.calling
      · rw [hdevMgr]
        exact h.answered
      · rw [hmove.queried]
        exact h.plugin
      · rw [hdevMgr, hmove.queried, hmove.powerState]
        exact h.devMgr
    · have hmove := eventMove_own hown hmove
      have hrest : s.query ≠ .idle → process.main = .getPowerState := by
        rw [hmove.main]
        exact h.asking
      have hregistered : process.main ≠ .setCallback → process.pwrStateCb = true := by
        rw [hmove.main, hmove.pwrStateCb]
        exact h.registered
      have hcalling : ∀ newState, newStateOf process.event = some newState →
          s.handling = some newState := fun newState hnew =>
        h.calling newState (hmove.newState newState hnew)
      have hplugin : s.query.isStored = true ∨ queried process.main = true →
          Converges (hostState (on_ s.mode)) s.toPlugin s.powerState := by
        rw [hmove.main]
        exact h.plugin
      rcases hmove.stores with ⟨hpending, hsame⟩ | ⟨newState, hsent, hstored, hnew⟩
      · have hdevMgr : State.toDevMgr { s with process := process } = s.toDevMgr := by
          rw [State.toDevMgr, State.toDevMgr, hpending]
        refine ⟨hreach, hregistered, hcalling, h.newest, hrest, h.succeeded, ?_, hplugin, ?_⟩
        · rw [hdevMgr]
          exact h.answered
        · rw [hdevMgr, hmove.main, hsame]
          exact h.devMgr
      · -- the callback has sent something, so `main` is long behind its query
        have hassigned : s.process.main.assigned = true :=
          (PowerCallback.reachable_eventInv h.process).sending (by rw [hsent]; rfl)
        have hqueried : queried s.process.main = true := by
          cases hpc : s.process.main <;> rw [hpc] at hassigned <;> first | rfl | cases hassigned
        have hquery : s.query = .idle := by
          by_contra hne
          rw [h.asking hne] at hassigned
          cases hassigned
        have hdevMgr := h.devMgr hqueried
        rw [State.toDevMgr, hsent] at hdevMgr
        refine ⟨hreach, hregistered, hcalling, h.newest, hrest, h.succeeded, ?_, hplugin, ?_⟩
        · intro state hstate
          rw [show s.query.state = none by rw [hquery]; rfl] at hstate
          cases hstate
        · intro _
          rw [State.toDevMgr, hstored, hnew]
          exact hdevMgr.arrives
    · exact ⟨hreach, h.registered, h.calling, h.newest, h.asking, h.succeeded, h.answered,
        h.plugin, h.devMgr⟩
  · cases hstep

theorem step_inv (h : Inv on_ s) {a : Action M} (hok : Serves s a)
    (hstep : step on_ s a = some s') : Inv on_ s' := by
  cases a with
  | modeChanges mode =>
      cases hstep
      exact modeChanges_inv h mode
  | handler => exact handler_inv h hstep
  | handlerStores => exact handlerStores_inv h hstep
  | asks succeeds =>
      obtain rfl : succeeds = true := hok
      exact asks_inv h hstep
  | queryStores => exact queryStores_inv h hstep
  | queryReturns => exact queryReturns_inv h hstep
  | process a => exact process_inv h hok hstep

end Step

theorem reachable_inv {s : State M} (h : (system on_).Reachable Serves s) : Inv on_ s :=
  h.invariant (fun _ hinitial => initial_inv hinitial)
    fun _ _ _ _ hs hok hstep => step_inv hs hok hstep

/-- In every run, however the mode changes and whenever the events are handled: when `main`
has asked the power manager and no event is on its way, both copies are the mode, the host
is active exactly if the mode is ON, and <Give Device Power Status> is answered with the
mode. -/
theorem copies_agree {s : State M} (h : (system on_).Reachable Serves s)
    (hqueried : queried s.process.main = true) (hhandled : s.handling = none)
    (harrived : s.events = []) :
    s.powerState = hostState (on_ s.mode) ∧
      s.process.devMgr.powerState = hostState (on_ s.mode) ∧
      (DeviceManager.isActiveSimple (cecHostIsActive s.powerState) ≠ 0 ↔ on_ s.mode = true) ∧
      ∀ (isActive : DeviceManager.Answer Int) (initiator : UInt8), initiator ≠ 15 →
        DeviceManager.answer s.process.devMgr isActive initiator 0x8F =
          some (initiator, [0x90, if on_ s.mode then 0x00 else 0x01]) := by
  have hinv := reachable_inv h
  have hpowerState : s.powerState = hostState (on_ s.mode) := by
    have hplugin := hinv.plugin (.inr hqueried)
    rw [State.toPlugin, hhandled, harrived] at hplugin
    exact hplugin.quiet
  have hdevMgr : s.process.devMgr.powerState = hostState (on_ s.mode) := by
    have hconverges := hinv.devMgr hqueried
    have hidle : pending s.process.event = [] := by
      cases hevent : s.process.event with
      | idle | stored => rfl
      | called newState | viewOnSent newState | sent newState =>
          have hcalling := hinv.calling newState (by rw [hevent]; rfl)
          rw [hhandled] at hcalling
          cases hcalling
    rw [State.toDevMgr, hidle, harrived] at hconverges
    exact hconverges.quiet
  refine ⟨hpowerState, hdevMgr, ?_, ?_⟩
  · rw [hpowerState]
    cases on_ s.mode <;> decide
  · intro isActive initiator hinitiator
    rw [DeviceManager.answer, if_neg hinitiator, hdevMgr]
    cases on_ s.mode <;> rfl

/-- The device is switched on while the power manager's answer, which still says standby, is
on its way. -/
theorem copies_agree_switchedOn :
    ∃ s : State Bool, (system (M := Bool) id).Reachable Serves s ∧ s.mode = true ∧
      s.powerState = 0 ∧ s.process.devMgr.powerState = 0 := by
  let S := system (M := Bool) id
  obtain ⟨s, hreach, hmode, hqueried, hhandled, harrived⟩ :=
    S.exists_reachable_of_run Serves
      ⟨false, [], none, 1, .idle, PowerCallback.new⟩
      [.process (.main .setCallback), .process (.main (.isHdmiOutputConnected (.error .host))),
        .asks true, .modeChanges true, .queryStores, .queryReturns,
        .process (.main (.driverOpen true)), .process (.main (.busStart true)),
        .process (.main .initialized), .process (.main .construct),
        .process (.main .assignConn), .handler,
        .process (.event (.firstSend PowerCallback.acknowledges)),
        .process (.event (.secondSend PowerCallback.acknowledges)), .process (.event .store),
        .process (.event .callbackReturns), .handlerStores]
      (fun s => s.mode = true ∧ queried s.process.main = true ∧ s.handling = none ∧
        s.events = []) ⟨rfl, rfl, rfl⟩ (by decide +kernel)
  obtain ⟨hplugin, hdevMgr, -, -⟩ := copies_agree hreach hqueried hhandled harrived
  rw [hmode] at hplugin hdevMgr
  exact ⟨s, hreach, hmode, hplugin, hdevMgr⟩

end Invariant

end PowerMode

end HdmiCec
