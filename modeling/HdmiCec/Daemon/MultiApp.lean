import Mathlib.Logic.Function.Basic
import HdmiCec.Library.StepSystem
import HdmiCec.Daemon.CecIARMBusMgr

/-!
# Several applications

Every client process opens and closes its pseudo-driver, which broadcasts an
ENABLE event to the daemon each time.  The events of one client arrive in order;
those of different clients arrive in any order.  A call of a client is one step;
an event that is handled before the call has returned counts as handled right
after it.

The daemon handles an event by starting or stopping its manager, and keeps no
account of the clients.  What it knows of a client is the last event it has
handled; `Announces` ties that to the state of the client's driver by the events
still in flight.
-/

universe u

namespace HdmiCec

/-- The clients' drivers, the ENABLE events on their way, and the manager. -/
structure MultiApp (C : Type u) where
  driverCtx : C → Bool
  inFlight : C → List CECMgr.EventData
  manager : CECIARMMgr

namespace MultiApp

/-- A client opens or closes its driver, or an event of a client arrives. -/
inductive Action (C : Type u) where
  | hdmiCecOpen (c : C)
  | hdmiCecClose (c : C)
  | deliver (c : C)

variable {C : Type u} [DecidableEq C]

/-- The end of a call in client `c`: its driver context, and the event that it
has broadcast. -/
def called (s : MultiApp C) (c : C) (driverCtx : Bool) (event : Option CECMgr.EventData) :
    MultiApp C :=
  { s with
    driverCtx := Function.update s.driverCtx c driverCtx
    inFlight := Function.update s.inFlight c (s.inFlight c ++ event.toList) }

/-- One step.  The calls of the library that the daemon makes while it handles an
event return normally. -/
def step (s : MultiApp C) : Action C → Option (MultiApp C)
  | .hdmiCecOpen c =>
      let (_, driverCtx, event) := IarmDriver.hdmiCecOpen (s.driverCtx c)
      some (s.called c driverCtx event)
  | .hdmiCecClose c =>
      let (_, driverCtx, event) := IarmDriver.hdmiCecClose (s.driverCtx c)
      some (s.called c driverCtx event)
  | .deliver c =>
      match s.inFlight c with
      | [] => none
      | event :: rest =>
          some { s with
            inFlight := Function.update s.inFlight c rest
            manager := (s.manager.cecMgrEventHandler .normal .enable event).1 }

/-- No client has its driver open, and the manager has been initialised. -/
def new (C : Type u) : MultiApp C where
  driverCtx _ := false
  inFlight _ := []
  manager := CECIARMMgr.new

variable (C) in
/-- Any clients, making any calls. -/
def system : StepSystem (MultiApp C) (Action C) where
  initial s := s = new C
  step := step

/-- A disable event is handled only while every client whose driver is open has
an event in flight. -/
def Heeds (s : MultiApp C) : Action C → Prop
  | .deliver c => (s.inFlight c).head? = some (IarmDriver.enableEvent false) →
      ∀ d, s.driverCtx d = true → s.inFlight d ≠ []
  | _ => True

/-! ## The manager and an ENABLE event -/

/-- A manager that `stop` can work on. -/
def Ready (manager : CECIARMMgr) : Prop :=
  manager.started = true → manager.connection ≠ none

/-- An enable event is handled without an exception, and leaves the manager
started. -/
theorem handle_enable {manager : CECIARMMgr} (hready : Ready manager) :
    ∃ manager', manager.cecMgrEventHandler .normal .enable (IarmDriver.enableEvent true) =
        (manager', .ok ()) ∧ manager'.started = true ∧ Ready manager' := by
  have henable : manager.cecMgrEventHandler .normal .enable (IarmDriver.enableEvent true) =
      ((manager.enable .normal 1).1, (manager.enable .normal 1).2.map fun _ => ()) := rfl
  rw [henable, CECIARMMgr.enable]
  by_cases hstarted : manager.started = true
  · refine ⟨{ manager with enabled := true }, ?_, hstarted, hready⟩
    simp [CECIARMMgr.start, hstarted, Except.map]
  · let connection := Connection.ofSource LogicalAddress.unregistered
    refine ⟨
      { enabled := true
        m_connection := some connection
        started := true
        processor := true
        frameListener := true
        connection := some connection }, ?_, rfl, ?_⟩
    · simp [CECIARMMgr.start, hstarted, LibraryCalls.normal, Except.map, connection]
    · exact fun _ => Option.some_ne_none connection

/-- A disable event is handled without an exception, and leaves the manager
stopped. -/
theorem handle_disable {manager : CECIARMMgr} (hready : Ready manager) :
    ∃ manager', manager.cecMgrEventHandler .normal .enable (IarmDriver.enableEvent false) =
        (manager', .ok ()) ∧ manager'.started = false := by
  have hdisable : manager.cecMgrEventHandler .normal .enable (IarmDriver.enableEvent false) =
      ((manager.enable .normal 0).1, (manager.enable .normal 0).2.map fun _ => ()) := rfl
  rw [hdisable, CECIARMMgr.enable]
  by_cases hstarted : manager.started = true
  · obtain ⟨connection, hconnection⟩ := Option.ne_none_iff_exists'.mp (hready hstarted)
    simp [CECIARMMgr.stop, hstarted, hconnection, LibraryCalls.normal, Except.map]
  · simp [CECIARMMgr.stop, hstarted, Except.map]

/-! ## What the events in flight announce -/

/-- A client whose last handled event said `handled`, and whose driver is now open
or not as `driverCtx` says, has these events in flight. -/
inductive Announces : (handled driverCtx : Bool) → List CECMgr.EventData → Prop where
  | nothing (driverCtx : Bool) : Announces driverCtx driverCtx []
  | change {handled driverCtx : Bool} {rest : List CECMgr.EventData}
      (h : Announces (!handled) driverCtx rest) :
      Announces handled driverCtx (IarmDriver.enableEvent (!handled) :: rest)

theorem Announces.snoc {handled driverCtx : Bool} {events : List CECMgr.EventData}
    (h : Announces handled driverCtx events) :
    Announces handled (!driverCtx) (events ++ [IarmDriver.enableEvent (!driverCtx)]) := by
  induction h with
  | nothing driverCtx => exact .change (.nothing (!driverCtx))
  | change _ ih => exact .change ih

/-- What is last in flight says whether the driver is open. -/
theorem Announces.of_nil {handled driverCtx : Bool} (h : Announces handled driverCtx []) :
    handled = driverCtx := by
  cases h
  rfl

/-- The next event to be handled says the opposite of the last one. -/
theorem Announces.of_cons {handled driverCtx : Bool} {event : CECMgr.EventData}
    {rest : List CECMgr.EventData} (h : Announces handled driverCtx (event :: rest)) :
    event = IarmDriver.enableEvent (!handled) ∧ Announces (!handled) driverCtx rest := by
  cases h with
  | change hrest => exact ⟨rfl, hrest⟩

/-! ## What one step does -/

theorem step_deliver {s s' : MultiApp C} {c : C} (hstep : step s (.deliver c) = some s') :
    ∃ event rest, s.inFlight c = event :: rest ∧
      s' = { s with
        inFlight := Function.update s.inFlight c rest
        manager := (s.manager.cecMgrEventHandler .normal .enable event).1 } := by
  rw [step] at hstep
  cases hqueue : s.inFlight c with
  | nil =>
      rw [hqueue] at hstep
      cases hstep
  | cons event rest =>
      rw [hqueue] at hstep
      exact ⟨event, rest, rfl, (Option.some.inj hstep).symm⟩

theorem step_cases {s s' : MultiApp C} {action : Action C} (hstep : step s action = some s') :
    (∃ c driverCtx event, IarmDriver.Broadcasts (s.driverCtx c) driverCtx event ∧
      s' = s.called c driverCtx event) ∨
    ∃ c event rest, action = .deliver c ∧ s.inFlight c = event :: rest ∧
      s' = { s with
        inFlight := Function.update s.inFlight c rest
        manager := (s.manager.cecMgrEventHandler .normal .enable event).1 } := by
  cases action with
  | hdmiCecOpen c =>
      exact .inl ⟨c, _, _, IarmDriver.hdmiCecOpen_broadcasts (s.driverCtx c),
        (Option.some.inj hstep).symm⟩
  | hdmiCecClose c =>
      exact .inl ⟨c, _, _, IarmDriver.hdmiCecClose_broadcasts (s.driverCtx c),
        (Option.some.inj hstep).symm⟩
  | deliver c =>
      obtain ⟨event, rest, hqueue, hs'⟩ := step_deliver hstep
      exact .inr ⟨c, event, rest, rfl, hqueue, hs'⟩

/-! ## What holds in every run -/

/-- `handled c` is what the last handled event of client `c` said.  A started
manager has heard of a client with an open driver. -/
structure Sound (s : MultiApp C) (handled : C → Bool) : Prop where
  ready : Ready s.manager
  announces : ∀ c, Announces (handled c) (s.driverCtx c) (s.inFlight c)
  heard : s.manager.started = true → ∃ c, handled c = true

omit [DecidableEq C] in
theorem new_sound : Sound (new C) fun _ => false where
  ready := fun h => by cases h
  announces := fun _ => .nothing false
  heard := fun h => by cases h

theorem called_sound {s : MultiApp C} {handled : C → Bool} (h : Sound s handled) (c : C)
    {driverCtx : Bool} {event : Option CECMgr.EventData}
    (hcall : IarmDriver.Broadcasts (s.driverCtx c) driverCtx event) :
    Sound (s.called c driverCtx event) handled := by
  refine ⟨h.ready, fun d => ?_, h.heard⟩
  by_cases hd : d = c
  · subst hd
    obtain ⟨rfl, rfl⟩ | ⟨rfl, rfl⟩ := hcall
    · simpa [called] using h.announces d
    · simpa [called] using (h.announces d).snoc
  · simpa [called, hd] using h.announces d

/-- Handling an event of client `c` moves what is known of `c` on by one event. -/
theorem deliver_sound {s : MultiApp C} {handled : C → Bool} (h : Sound s handled) {c : C}
    {event : CECMgr.EventData} {rest : List CECMgr.EventData}
    (hqueue : s.inFlight c = event :: rest) :
    event = IarmDriver.enableEvent (!handled c) ∧
      Sound
        { s with
          inFlight := Function.update s.inFlight c rest
          manager := (s.manager.cecMgrEventHandler .normal .enable event).1 }
        (Function.update handled c (!handled c)) ∧
      (s.manager.cecMgrEventHandler .normal .enable event).1.started = !handled c := by
  have hannounces := h.announces c
  rw [hqueue] at hannounces
  obtain ⟨rfl, hrest⟩ := hannounces.of_cons
  have hothers : ∀ d, Announces (Function.update handled c (!handled c) d) (s.driverCtx d)
      (Function.update s.inFlight c rest d) := by
    intro d
    by_cases hd : d = c
    · subst hd
      simpa using hrest
    · simpa [hd] using h.announces d
  cases hhandled : handled c with
  | false =>
      -- an enable event: the manager is started, and `c` has been heard
      obtain ⟨manager', hhandle, hstarted, hready⟩ := handle_enable h.ready
      rw [hhandled] at hothers
      rw [Bool.not_false, hhandle]
      exact ⟨rfl, ⟨hready, hothers, fun _ => ⟨c, by simp⟩⟩, hstarted⟩
  | true =>
      -- a disable event: the manager is stopped, whoever has been heard
      obtain ⟨manager', hhandle, hstopped⟩ := handle_disable h.ready
      have hnotStarted : manager'.started ≠ true := by simp [hstopped]
      rw [hhandled] at hothers
      rw [Bool.not_true, hhandle]
      exact ⟨rfl, ⟨fun hstarted => absurd hstarted hnotStarted, hothers,
        fun hstarted => absurd hstarted hnotStarted⟩, hstopped⟩

theorem reachable_sound {ok : MultiApp C → Action C → Prop} {s : MultiApp C}
    (h : (system C).Reachable ok s) : ∃ handled, Sound s handled := by
  refine StepSystem.Reachable.invariant (I := fun s => ∃ handled, Sound s handled) ?_ ?_ h
  · rintro s rfl
    exact ⟨_, new_sound⟩
  · rintro s action s' - ⟨handled, hsound⟩ - hstep
    obtain ⟨c, driverCtx, event, hcall, rfl⟩ | ⟨c, event, rest, -, hqueue, rfl⟩ :=
      step_cases hstep
    · exact ⟨handled, called_sound hsound c hcall⟩
    · exact ⟨_, (deliver_sound hsound hqueue).2.1⟩

/-! ## What holds in guarded runs -/

/-- Every client whose driver is open, and whose events have all been handled, has
a started manager. -/
def Served (s : MultiApp C) : Prop :=
  ∀ c, s.driverCtx c = true → s.inFlight c = [] → s.manager.started = true

theorem called_served {s : MultiApp C} (h : Served s) (c : C) {driverCtx : Bool}
    {event : Option CECMgr.EventData}
    (hcall : IarmDriver.Broadcasts (s.driverCtx c) driverCtx event) :
    Served (s.called c driverCtx event) := by
  intro d hopen hempty
  by_cases hd : d = c
  · subst hd
    obtain ⟨rfl, rfl⟩ | ⟨rfl, rfl⟩ := hcall
    · exact h d (by simpa [called] using hopen) (by simpa [called] using hempty)
    · simp [called] at hempty
  · exact h d (by simpa [called, hd] using hopen) (by simpa [called, hd] using hempty)

theorem deliver_served {s : MultiApp C} {handled : C → Bool} (h : Sound s handled) {c : C}
    (hheeds : Heeds s (.deliver c)) {event : CECMgr.EventData} {rest : List CECMgr.EventData}
    (hqueue : s.inFlight c = event :: rest) :
    Served { s with
      inFlight := Function.update s.inFlight c rest
      manager := (s.manager.cecMgrEventHandler .normal .enable event).1 } := by
  obtain ⟨hevent, hsound, hstarted⟩ := deliver_sound h hqueue
  intro d hopen hempty
  show (s.manager.cecMgrEventHandler .normal .enable event).1.started = true
  rw [hstarted]
  cases hhandled : handled c with
  | false => rfl
  | true =>
      -- a disable event: by the guard nobody is left who relies on the manager
      exfalso
      rw [hhandled] at hevent
      by_cases hd : d = c
      · subst hd
        -- the last event of `c` itself says that `c` is closed
        have hlast := hsound.announces d
        rw [hempty] at hlast
        have hclosed := hlast.of_nil
        rw [hopen] at hclosed
        simp [hhandled] at hclosed
      · have hwaiting := hheeds (by rw [hqueue, hevent]; rfl) d hopen
        exact hwaiting (by simpa [hd] using hempty)

theorem reachable_served {s : MultiApp C} (h : (system C).Reachable Heeds s) : Served s := by
  refine h.invariant ?_ ?_
  · rintro s rfl c hopen
    cases hopen
  · intro s action s' hreach hserved hheeds hstep
    obtain ⟨c, driverCtx, event, hcall, rfl⟩ | ⟨c, event, rest, rfl, hqueue, rfl⟩ :=
      step_cases hstep
    · exact called_served hserved c hcall
    · obtain ⟨handled, hsound⟩ := reachable_sound hreach
      exact deliver_served hsound hheeds hqueue

/-- The guard cannot be spared: a step against it leaves a client with an open
driver and nothing in flight at a stopped manager. -/
theorem deliver_unheeded {ok : MultiApp C → Action C → Prop} {s s' : MultiApp C}
    (h : (system C).Reachable ok s) {c : C} (hunheeded : ¬ Heeds s (.deliver c))
    (hstep : step s (.deliver c) = some s') : ¬ Served s' := by
  obtain ⟨handled, hsound⟩ := reachable_sound h
  obtain ⟨event, rest, hqueue, rfl⟩ := step_deliver hstep
  obtain ⟨hdisable, hunheard⟩ := Classical.not_imp.mp hunheeded
  obtain ⟨d, hd⟩ := Classical.not_forall.mp hunheard
  obtain ⟨hopen, hnotWaiting⟩ := Classical.not_imp.mp hd
  have hempty : s.inFlight d = [] := Classical.not_not.mp hnotWaiting
  have hne : d ≠ c := by
    rintro rfl
    rw [hqueue] at hempty
    cases hempty
  have hevent : event = IarmDriver.enableEvent false := by
    rw [hqueue] at hdisable
    exact Option.some.inj hdisable
  obtain ⟨manager', hhandle, hstopped⟩ := handle_disable hsound.ready
  intro hserved
  have hstarted := hserved d hopen (by simpa [hne] using hempty)
  rw [hevent, hhandle] at hstarted
  simp [hstopped] at hstarted

/-! ## The enable protocol -/

/-- With no event in flight the manager is started exactly when a client has its
driver open. -/
def Agrees (s : MultiApp C) : Prop :=
  (∀ c, s.inFlight c = []) → (s.manager.started = true ↔ ∃ c, s.driverCtx c = true)

/-- In every run that handles a disable event only while each client with an open
driver still has an event in flight, the manager agrees with the clients. -/
theorem reachable_agrees {s : MultiApp C} (h : (system C).Reachable Heeds s) : Agrees s := by
  obtain ⟨handled, hsound⟩ := reachable_sound h
  intro hquiet
  constructor
  · intro hstarted
    obtain ⟨c, hheard⟩ := hsound.heard hstarted
    have hannounces := hsound.announces c
    rw [hquiet c] at hannounces
    exact ⟨c, hannounces.of_nil ▸ hheard⟩
  · rintro ⟨c, hopen⟩
    exact reachable_served h c hopen (hquiet c)

/-! ## Two clients -/

instance (s : MultiApp Bool) (action : Action Bool) : Decidable (Heeds s action) :=
  match action with
  | .hdmiCecOpen _ => isTrue trivial
  | .hdmiCecClose _ => isTrue trivial
  | .deliver c => inferInstanceAs (Decidable
      ((s.inFlight c).head? = some (IarmDriver.enableEvent false) →
        ∀ d, s.driverCtx d = true → s.inFlight d ≠ []))

/-- One client hands over to the other: the second one opens its driver before the
first one closes, and its event is handled after that of the close. -/
theorem reachable_agrees_handover :
    ∃ s : MultiApp Bool, (system Bool).Reachable Heeds s ∧ (∀ c, s.inFlight c = []) ∧
      s.driverCtx true = true ∧ s.manager.started = true := by
  obtain ⟨s, hreach, hquiet, hopen⟩ :=
    StepSystem.exists_reachable_of_run (system Bool) Heeds (new Bool)
      [.hdmiCecOpen false, .deliver false, .hdmiCecOpen true, .hdmiCecClose false,
        .deliver false, .deliver true]
      (fun s => (∀ c, s.inFlight c = []) ∧ s.driverCtx true = true) rfl (by decide)
  exact ⟨s, hreach, hquiet, hopen, (reachable_agrees hreach hquiet).mpr ⟨true, hopen⟩⟩

/-- Two clients open their drivers and one of them closes its own: the manager is
stopped, and the other client is left with an open driver. -/
theorem not_agrees :
    ¬ ∀ s : MultiApp Bool, (system Bool).Reachable StepSystem.unguarded s → Agrees s := by
  intro hall
  obtain ⟨s, hreach, hquiet, hopen, hstopped⟩ :=
    StepSystem.exists_reachable_of_run (system Bool) StepSystem.unguarded (new Bool)
      [.hdmiCecOpen false, .deliver false, .hdmiCecOpen true, .deliver true,
        .hdmiCecClose false, .deliver false]
      (fun s => (∀ c, s.inFlight c = []) ∧ s.driverCtx true = true ∧
        s.manager.started = false) rfl (by decide)
  have hstarted := (hall s hreach hquiet).mpr ⟨true, hopen⟩
  rw [hstopped] at hstarted
  cases hstarted

end MultiApp

end HdmiCec
