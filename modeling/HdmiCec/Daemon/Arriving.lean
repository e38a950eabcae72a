import HdmiCec.Daemon.Distribution

/-!
# Nothing is kept back

`Distribution` says that nothing is lost while the drivers of the daemon and of a client are
open.  Here nothing stays on its way either: from every state that was reached without a loss
the threads of the daemon and of the client alone can hand every packet that the physical
driver has received to the listeners of the client, in a number of steps that the queues
bound.
-/

namespace HdmiCec

namespace Distribution

variable {C : Type} [DecidableEq C] {cec_log_level : Int} {outside : Result UInt8} {c : C}
  {s s' t : State C} {a : Action C}

/-! ## The threads wake -/

/-- In both drivers the reading thread has not crashed. -/
structure Ready (cec_log_level : Int) (c : C) (s : State C) : Prop where
  served : Served cec_log_level c s
  daemon : s.daemon.Awake
  driver : (s.client c).pseudo.driver.Awake

theorem step_ready (h : Ready cec_log_level c s) (hok : Lossless cec_log_level c s a)
    (hstep : step (MessageProcessor.processAt outside cec_log_level) s a = some s') :
    Ready cec_log_level c s' := by
  refine ⟨step_served h.served hok hstep, ?_, ?_⟩
  · rcases h.served.step_daemon hok hstep with hsame | ⟨a', -, hdaemon⟩
    · rw [hsame]
      exact h.daemon
    · exact Sessions.step_awake h.daemon h.served.daemon hdaemon
  · rcases step_pseudo (c := c) hstep with hsame | ⟨a', hpseudo, -⟩
    · rw [hsame]
      exact h.driver
    · exact PseudoDriver.step_awake h.served.serving h.driver hpseudo

theorem reachable_ready
    (h : (system C (MessageProcessor.processAt outside cec_log_level)).Reachable
      (Lossless cec_log_level c) s) : Ready cec_log_level c s := by
  refine h.invariant ?_ ?_
  · rintro s rfl
    exact ⟨new_served cec_log_level c, Sessions.new_awake, Sessions.new_awake⟩
  · intro s a s' _ hs hok hstep
    exact step_ready hs hok hstep

/-! ## The threads alone -/

/-- The steps of the threads of the daemon and of a client, and the events of the client. -/
def ByThreads (c : C) (s : State C) : Action C → Prop
  | .packet _ | .manager _ => False
  | .daemon a => Sessions.Delivering s.daemon a
  | .event d => d = c ∧ (s.client d).pseudo.driver.callbacks = [] ∧
      ReceiveHandler.Safe (s.client d).pseudo.native.current
  | .client d a => d = c ∧ PseudoDriver.ByThreads (s.client d).pseudo a

instance (c : C) (s : State C) (a : Action C) : Decidable (ByThreads c s a) :=
  match a with
  | .packet _ | .manager _ => inferInstanceAs (Decidable False)
  | .daemon _ => inferInstanceAs (Decidable (Sessions.Delivering _ _))
  | .event _ => inferInstanceAs (Decidable (_ ∧ _ ∧ _))
  | .client d a => inferInstanceAs (Decidable (_ ∧ PseudoDriver.ByThreads (s.client d).pseudo a))

omit [DecidableEq C] in
theorem ByThreads.lossless (h : ByThreads c s a) : Lossless cec_log_level c s a := by
  cases a with
  | packet | manager => exact h.elim
  | daemon a => exact Sessions.Delivering.lossless h
  | event d =>
      obtain ⟨rfl, hone, hsafe⟩ := h
      exact ⟨hone, fun _ => hsafe⟩
  | client d a =>
      obtain ⟨rfl, hthreads⟩ := h
      exact fun _ => hthreads.lossless

theorem ofDaemon_of_delivering {s : Sessions.State CECFrame} {a : Sessions.Action CECFrame}
    (h : Sessions.Delivering s a) : ofDaemon a = true := by
  cases a with
  | receive frame => exact h.elim
  | _ => rfl

/-- Both drivers are open, and the listener is attached. -/
structure Listening (cec_log_level : Int) (c : C) (s : State C) : Prop where
  ready : Ready cec_log_level c s
  hearing : Hearing c s
  daemon : s.daemon.status = .opened

theorem step_listening (h : Listening cec_log_level c s) (hok : Lossless cec_log_level c s a)
    (hstep : step (MessageProcessor.processAt outside cec_log_level) s a = some s') :
    Listening cec_log_level c s' := by
  have hserved := h.ready.served
  refine ⟨step_ready h.ready hok hstep, hserved.step_hearing h.hearing hok hstep, ?_⟩
  rcases hserved.step_daemon hok hstep with hsame | ⟨a', hok', hdaemon⟩
  · rw [hsame]
    exact h.daemon
  · exact Sessions.step_opened hserved.daemon hok' h.daemon hdaemon

/-- Both drivers are open, and no packet has been received since `t`. -/
structure Arriving (cec_log_level : Int) (c : C) (t s : State C) : Prop where
  listening : Listening cec_log_level c s
  received : s.received = t.received
  passes : (t.conveyorTo c).Passes (s.conveyorTo c)

theorem Arriving.next (h : Arriving cec_log_level c t s) (hby : ByThreads c s a)
    (hstep : step (MessageProcessor.processAt outside cec_log_level) s a = some s')
    (hreceived : s'.received = s.received) : Arriving cec_log_level c t s' := by
  have hok : Lossless cec_log_level c s a := hby.lossless
  have hpasses := h.listening.ready.served.step_passes h.listening.hearing hok hstep
  exact ⟨step_listening h.listening hok hstep, hreceived.trans h.received,
    h.passes.trans hpasses⟩

/-- How far the packets are from the listeners of a client. -/
def State.rankTo (c : C) (s : State C) : Nat :=
  19 * s.daemon.rank + 18 * (s.client c).inFlight.length + (s.client c).pseudo.rank

/-- A frame in the client's driver can go on. -/
theorem Arriving.client_goes_on (h : Arriving cec_log_level c t s)
    (hway : (s.client c).pseudo.onWay ≠ []) :
    ∃ a s', ByThreads c s a ∧
      step (MessageProcessor.processAt outside cec_log_level) s a = some s' ∧
      Arriving cec_log_level c t s' ∧ s'.rankTo c < s.rankTo c := by
  have hserved := h.listening.ready.served
  obtain ⟨a, pseudo, hthreads, hpseudo, hrank⟩ :=
    hserved.serving.goes_on (hserved.sound.clients c).pseudo h.listening.ready.driver
      h.listening.hearing.opened hway
  let client' : Client :=
    { s.client c with
      pseudo := pseudo
      taken := (s.client c).taken ++
        (((s.client c).pseudo.returning a).map Sessions.Receipt.frame).toList }
  have hby : ByThreads c s (.client c a) := ⟨rfl, hthreads⟩
  have hclient : ofClient a = true := by
    cases a with
    | deliver event => exact hthreads.elim
    | _ => rfl
  have hstep : step (MessageProcessor.processAt outside cec_log_level) s (.client c a) =
      some (s.setClient c client') := by
    simp [step, hclient, Client.step, hpseudo, client']
  refine ⟨.client c a, s.setClient c client', hby, hstep, h.next hby hstep rfl, ?_⟩
  rw [State.rankTo, State.rankTo, setClient_self]
  show 19 * s.daemon.rank + 18 * (s.client c).inFlight.length + pseudo.rank < _
  omega

/-- With nothing in the client's driver the next event is delivered. -/
theorem Arriving.event_goes_on (h : Arriving cec_log_level c t s)
    (hidle : (s.client c).pseudo.onWay = []) (hevents : (s.client c).inFlight ≠ []) :
    ∃ a s', ByThreads c s a ∧
      step (MessageProcessor.processAt outside cec_log_level) s a = some s' ∧
      Arriving cec_log_level c t s' ∧ s'.rankTo c < s.rankTo c := by
  have hserved := h.listening.ready.served
  have hsound := (hserved.sound.clients c).pseudo
  obtain ⟨hregistered, hset⟩ := hserved.serving.hears h.listening.hearing.opened
  have halive : (s.client c).pseudo.Alive := ⟨hsound.up, hserved.serving.fault⟩
  obtain ⟨hdriver, hevent⟩ := List.append_eq_nil_iff.mp hidle
  -- the last callback has returned, so the next event may be delivered
  have hcallbacks : (s.client c).pseudo.driver.callbacks = [] := by
    have hboth := List.append_eq_nil_iff.mp (List.map_eq_nil_iff.mp hdriver)
    exact List.map_eq_nil_iff.mp hboth.2
  have hout : (s.client c).pseudo.native.handler () = .out := by
    refine hsound.busy.mp ?_
    cases hsome : (s.client c).pseudo.event with
    | none => rfl
    | some event =>
        rw [hsome] at hevent
        cases hevent
  obtain ⟨event, rest, hinFlight⟩ := List.exists_cons_of_ne_nil hevents
  let pseudo : PseudoDriver.State :=
    { (s.client c).pseudo with
      native := (s.client c).pseudo.native.goes () .loadTest
      event := some event }
  let client' : Client := { s.client c with inFlight := rest, pseudo := pseudo }
  have hby : ByThreads c s (.event c) := ⟨rfl, hcallbacks, .inl hset⟩
  have hdelivers : PseudoDriver.step (s.client c).pseudo (.deliver event) = some pseudo := by
    simp [PseudoDriver.step, halive, PseudoDriver.deliverStep, hout, hregistered,
      ReceiveHandler.step, halive.2, ReceiveHandler.handlerStep, pseudo]
  have hstep : step (MessageProcessor.processAt outside cec_log_level) s (.event c) =
      some (s.setClient c client') := by
    rw [step, Client.eventStep, hinFlight]
    simp [hdelivers, client']
  refine ⟨.event c, s.setClient c client', hby, hstep, h.next hby hstep rfl, ?_⟩
  have hrank : pseudo.rank = (s.client c).pseudo.rank + 17 := by
    have hcontrol : pseudo.native.control = (s.client c).pseudo.native.control := rfl
    simp only [PseudoDriver.State.rank, hout, hcontrol]
    simp only [pseudo, ReceiveHandler.State.goes_handler, PseudoDriver.handlerRank]
    omega
  rw [State.rankTo, State.rankTo, setClient_self]
  show 19 * s.daemon.rank + 18 * rest.length + pseudo.rank < _
  rw [hinFlight, List.length_cons]
  omega

omit [DecidableEq C] in
/-- A broadcast is one event more for a client, at most. -/
theorem broadcasts_inFlight (s : State C) (c : C) (event : Option CECMgr.EventData) :
    ((s.broadcasts event).client c).inFlight.length ≤ (s.client c).inFlight.length + 1 := by
  cases event with
  | none => exact Nat.le_succ _
  | some event =>
      show ((s.client c).hears event).inFlight.length ≤ _
      rw [Client.hears]
      split
      · simp
      · exact Nat.le_succ _

/-- A frame in the daemon's driver can go on. -/
theorem Arriving.daemon_goes_on (h : Arriving cec_log_level c t s) (hway : s.daemon.onWay ≠ []) :
    ∃ a s', ByThreads c s a ∧
      step (MessageProcessor.processAt outside cec_log_level) s a = some s' ∧
      Arriving cec_log_level c t s' ∧ s'.rankTo c < s.rankTo c := by
  have hserved := h.listening.ready.served
  obtain ⟨a, daemon, hdelivering, hdaemon, hrank⟩ :=
    h.listening.ready.daemon.goes_on hserved.daemon h.listening.daemon hway
  have hby : ByThreads c s (.daemon a) := hdelivering
  obtain ⟨s', hnext⟩ : ∃ s',
      daemonStep (MessageProcessor.processAt outside cec_log_level) s a = some s' := by
    rw [daemonStep, hdaemon]
    exact ⟨_, rfl⟩
  have hstep : step (MessageProcessor.processAt outside cec_log_level) s (.daemon a) = some s' := by
    rw [step, if_pos ⟨hserved.up, ofDaemon_of_delivering hdelivering⟩]
    exact hnext
  obtain ⟨daemon', hdaemon', rfl⟩ := hserved.daemonStep_cases hnext
  cases hdaemon.symm.trans hdaemon'
  generalize (s.daemon.returning a).bind _ = event at hnext hstep
  obtain ⟨-, hsame, -, hreceived, hpseudo⟩ :=
    broadcasts_frame (c := c) { s with daemon := daemon } event
  refine ⟨.daemon a, _, hby, hstep, h.next hby hstep hreceived, ?_⟩
  -- a step of the daemon counts for more than the event that it may broadcast
  have hevents : _ ≤ (s.client c).inFlight.length + 1 :=
    broadcasts_inFlight { s with daemon := daemon } c event
  rw [State.rankTo, State.rankTo, hsame, hpseudo]
  show 19 * daemon.rank + _ + (s.client c).pseudo.rank < _
  omega

/-- What is on its way is in the client's driver, an event, or in the daemon's driver. -/
theorem Arriving.goes_on (h : Arriving cec_log_level c t s) (hway : (s.conveyorTo c).onWay ≠ []) :
    ∃ a s', ByThreads c s a ∧
      step (MessageProcessor.processAt outside cec_log_level) s a = some s' ∧
      Arriving cec_log_level c t s' ∧ s'.rankTo c < s.rankTo c := by
  by_cases hpseudo : (s.client c).pseudo.onWay = []
  · by_cases hevents : (s.client c).inFlight = []
    · refine h.daemon_goes_on fun hdaemon => hway ?_
      simp [State.conveyorTo, Conveyor.series, Client.conveyor, State.conveyor,
        PseudoDriver.carried, hpseudo, hevents, hdaemon]
    · exact h.event_goes_on hpseudo hevents
  · exact h.client_goes_on hpseudo

variable (outside) in
/-- All packets on their way are taken, one step after the other. -/
theorem Listening.arrives (h : Listening cec_log_level c t) :
    ∃ labels s, (system C (MessageProcessor.processAt outside cec_log_level)).run (ByThreads c) t
        labels = some s ∧
      labels.length ≤ t.rankTo c ∧ Listening cec_log_level c s ∧ s.received = t.received ∧
      (s.conveyorTo c).onWay = [] ∧
      (s.client c).taken.map CECFrame.bytes =
        (t.client c).taken.map CECFrame.bytes ++ (t.conveyorTo c).onWay := by
  have hall : Arriving cec_log_level c t t := ⟨h, rfl, .refl _⟩
  obtain ⟨labels, s, hrun, hlength, hs, hempty⟩ :=
    @StepSystem.exists_run_of_decreasing _ _
      (system C (MessageProcessor.processAt outside cec_log_level)) (ByThreads c) _
      (Arriving cec_log_level c t) (fun s => (s.conveyorTo c).onWay = []) (State.rankTo c)
      (fun s hs hway => hs.goes_on hway) t hall
  refine ⟨labels, s, hrun, hlength, hs.listening, hs.received, hempty, ?_⟩
  -- nothing has been received, and so what has been taken was on its way
  obtain ⟨received, taken, hreceived, htaken, hway⟩ := hs.passes
  have hnone : received = [] := by
    have hsame : s.received = t.received ++ received := hreceived
    rw [hs.received] at hsame
    exact List.self_eq_append_right.mp hsame
  rw [hnone, hempty, List.append_nil, List.append_nil] at hway
  rw [hway]
  exact htaken

/-- From every state that was reached without a loss, and in which the drivers of the daemon
and of a client are open and the listener is attached, the threads of the two alone hand
everything that is on its way to the client to its listeners, in order, in a number of steps
that the queues bound. -/
theorem arrived
    (ht : (system C (MessageProcessor.processAt outside cec_log_level)).Reachable
      (Lossless cec_log_level c) t)
    (hdaemon : t.daemon.status = .opened) (hhearing : Hearing c t) :
    ∃ labels s, (system C (MessageProcessor.processAt outside cec_log_level)).run (ByThreads c) t
        labels = some s ∧
      labels.length ≤ 152 * t.daemon.rQueue.items.length + 18 * (t.client c).inFlight.length +
        8 * (t.client c).pseudo.driver.rQueue.items.length + 358 ∧
      (s.conveyorTo c).onWay = [] ∧
      (s.client c).taken.map CECFrame.bytes =
        (t.client c).taken.map CECFrame.bytes ++ (t.conveyorTo c).onWay := by
  have hready := reachable_ready ht
  obtain ⟨labels, s, hrun, hlength, -, -, hempty, htaken⟩ :=
    Listening.arrives outside ⟨hready, hhearing, hdaemon⟩
  refine ⟨labels, s, hrun, Nat.le_trans hlength ?_, hempty, htaken⟩
  have hplace := Sessions.rank_le hready.served.sound.inOrder.one
  have hplace' := PseudoDriver.rank_le (hready.served.sound.clients c).pseudo
  rw [State.rankTo]
  omega

/-- One packet is on its way in the client, and another one in the daemon. -/
theorem arrived_two_packets :
    ∃ t : State Unit,
      (system Unit (MessageProcessor.processAt (.error .undefined) LogLines.logInfo)).Reachable
        (Lossless LogLines.logInfo ()) t ∧
      t.daemon.status = .opened ∧ Hearing () t ∧
      (t.conveyorTo ()).onWay = [[0x4F, 0x04], [0x4F, 0x36]] ∧
      ∃ labels s,
        (system Unit (MessageProcessor.processAt (.error .undefined) LogLines.logInfo)).run
          (ByThreads ()) t labels = some s ∧
        labels.length ≤ 152 * t.daemon.rQueue.items.length +
          18 * (t.client ()).inFlight.length +
          8 * (t.client ()).pseudo.driver.rQueue.items.length + 358 ∧
        (s.conveyorTo ()).onWay = [] ∧
        (s.client ()).taken.map CECFrame.bytes =
          (t.client ()).taken.map CECFrame.bytes ++ (t.conveyorTo ()).onWay := by
  obtain ⟨t, hreach, hdaemon, hhearing, hway⟩ :=
    (system Unit (MessageProcessor.processAt (.error .undefined)
      LogLines.logInfo)).exists_reachable_of_run (Lossless LogLines.logInfo ()) (new Unit)
      (opened ++ .packet [0x4F, 0x04] :: calledBack .daemon ++ [.packet [0x4F, 0x36]] ++
        readOnce .daemon ++ [.event (), .client () .handler])
      (fun t => t.daemon.status = .opened ∧ Hearing () t ∧
        (t.conveyorTo ()).onWay = [[0x4F, 0x04], [0x4F, 0x36]])
      rfl (by decide +kernel)
  exact ⟨t, hreach, hdaemon, hhearing, hway, arrived hreach hdaemon hhearing⟩

/-! ## More packets -/

/-- The steps of the threads, and a packet that can be handled when no other one is being
received. -/
def Taking (cec_log_level : Int) (c : C) (s : State C) : Action C → Prop
  | .packet buf => s.daemon.callbacks = [] ∧ Daemon.Handled cec_log_level buf
  | .daemon a => ByThreads c s (.daemon a)
  | .manager call => ByThreads c s (.manager call)
  | .event d => ByThreads c s (.event d)
  | .client d a => ByThreads c s (.client d a)

omit [DecidableEq C] in
theorem ByThreads.taking (s : State C) (a : Action C) (h : ByThreads c s a) :
    Taking cec_log_level c s a := by
  cases a with
  | packet buf => exact h.elim
  | _ => exact h

omit [DecidableEq C] in
theorem Taking.lossless (s : State C) (a : Action C) (h : Taking cec_log_level c s a) :
    Lossless cec_log_level c s a := by
  cases a with
  | packet buf => exact h
  | _ => exact ByThreads.lossless h

variable (outside) in
/-- Nothing is on its way, and then the next packet is. -/
theorem Listening.receives (h : Listening cec_log_level c t) (hidle : (t.conveyorTo c).onWay = [])
    {buf : List UInt8} (hhandled : Daemon.Handled cec_log_level buf) :
    ∃ s, (system C (MessageProcessor.processAt outside cec_log_level)).Leads
        (Taking cec_log_level c) t s ∧ Listening cec_log_level c s ∧
      s.received = t.received ++ [buf] ∧ (s.conveyorTo c).onWay = [buf] ∧
      (s.client c).taken = (t.client c).taken := by
  have hserved := h.ready.served
  have hdaemon : t.daemon.onWay = [] := by
    have hboth := List.append_eq_nil_iff.mp hidle
    exact List.map_eq_nil_iff.mp hboth.2
  have hcallbacks : t.daemon.callbacks = [] := by
    have hboth := List.append_eq_nil_iff.mp hdaemon
    exact List.map_eq_nil_iff.mp hboth.2
  have hroom : CECFrame.empty.length + buf.length ≤ 128 := by
    have hfits := hhandled.fits
    rw [CECFrame.length_empty]
    omega
  obtain ⟨frame, hframe, -⟩ := CECFrame.appendAll_extends CECFrame.empty buf hroom
  obtain ⟨daemon, hreceive⟩ :
      ∃ daemon, Sessions.step t.daemon (.receive frame) = some daemon := ⟨_, rfl⟩
  let s : State C := { t with daemon := daemon, received := t.received ++ [buf] }
  have hok : Taking cec_log_level c t (.packet buf) := ⟨hcallbacks, hhandled⟩
  have hlossless := hok.lossless t _
  have hstep : step (MessageProcessor.processAt outside cec_log_level) t (.packet buf) = some s := by
    rw [step, if_pos hserved.up, packetStep, hframe]
    simp only [hreceive, Option.map_some, s]
  refine ⟨s, .single hok hstep, step_listening h hlossless hstep, rfl, ?_, rfl⟩
  obtain ⟨added, out, hreceived, hleft, hway⟩ :=
    hserved.step_passes h.hearing hlossless hstep
  have hadded : added = [buf] := (List.append_cancel_left hreceived).symm
  have hout : out = [] := List.self_eq_append_right.mp hleft
  rw [hadded, hout, hidle] at hway
  exact hway.symm

/-- The threads of the daemon and of a client hand on all packets that the physical driver
receives, if it receives them one by one. -/
theorem Listening.takes (bufs : List (List UInt8)) :
    ∀ {t : State C}, Listening cec_log_level c t →
    (∀ buf ∈ bufs, Daemon.Handled cec_log_level buf) →
    ∃ s, (system C (MessageProcessor.processAt outside cec_log_level)).Leads
        (Taking cec_log_level c) t s ∧
      s.received = t.received ++ bufs ∧ (s.conveyorTo c).onWay = [] ∧
      (s.client c).taken.map CECFrame.bytes =
        (t.client c).taken.map CECFrame.bytes ++ (t.conveyorTo c).onWay ++ bufs := by
  induction bufs with
  | nil =>
      intro t h _
      obtain ⟨labels, s, hrun, -, -, hreceived, hidle, htaken⟩ := h.arrives outside
      refine ⟨s, (StepSystem.leads_of_run hrun).mono ByThreads.taking, ?_, hidle, ?_⟩
      · rw [List.append_nil, hreceived]
      · rw [List.append_nil, htaken]
  | cons buf bufs ih =>
      intro t h hhandled
      obtain ⟨labels, s, hrun, -, hlistening, hreceived, hidle, htaken⟩ :=
        h.arrives outside
      obtain ⟨s', hleads', hlistening', hreceived', hway', htaken'⟩ :=
        hlistening.receives outside hidle (hhandled buf List.mem_cons_self)
      obtain ⟨s'', hleads'', hreceived'', hidle'', htaken''⟩ :=
        ih hlistening' fun buf' hmem => hhandled buf' (List.mem_cons_of_mem buf hmem)
      have hleads : (system C (MessageProcessor.processAt outside cec_log_level)).Leads
          (Taking cec_log_level c) t _ :=
        (StepSystem.leads_of_run hrun).mono ByThreads.taking
      refine ⟨s'', (hleads.trans hleads').trans hleads'', ?_, hidle'', ?_⟩
      · rw [hreceived'', hreceived', hreceived, List.append_assoc]
        rfl
      · rw [htaken'', hway', htaken', htaken, List.append_assoc]
        rfl

end Distribution

end HdmiCec
