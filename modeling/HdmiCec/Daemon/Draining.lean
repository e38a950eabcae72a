import HdmiCec.Daemon.Collection

/-!
# Nothing gets stuck

`Collection` says that nothing is lost while the daemon and the driver of a client are up.
Here nothing stays on its way either: from every state the writer thread of the client alone
can hand over everything that its queue has accepted, whatever the physical driver answers,
and the number of its steps is bounded by the length of the queue.
-/

namespace HdmiCec

namespace Collection

variable {C : Type} [DecidableEq C] {memcpyS : MemcpyS} {bus : IarmBus} {s s' : State C} {c : C}

/-! ## What `Driver::write` throws -/

/-- Called with a frame, `Driver::write` returns or throws an exception of the library. -/
theorem thrownBy_write {driver : DriverImpl} {hdmiCecTx : HdmiCecTx} {frame : CECFrame}
    (hfits : Fits frame) :
    ∃ thrown, thrownBy (driver.write hdmiCecTx frame) = some thrown ∧
      ∀ e, thrown = some e → e.isCCEC = true := by
  have hne : frame.bytes ≠ [] := by
    rw [← List.length_pos_iff, CECFrame.bytes_length]
    exact hfits.1
  by_cases hopened : driver.status = .opened
  · rw [DriverImpl.write_eq hdmiCecTx hopened hne]
    unfold DriverImpl.sendOutcome
    split
    · exact ⟨_, rfl, by intro e he; cases he; rfl⟩
    · split
      · exact ⟨_, rfl, by intro e he; cases he; rfl⟩
      · exact ⟨_, rfl, by nofun⟩
  · rw [DriverImpl.write, if_pos hopened]
    exact ⟨_, rfl, by intro e he; cases he; rfl⟩

/-! ## The writers live -/

/-- No writer of a client has ended, unless its bus was stopped. -/
structure Live (s : State C) : Prop where
  sound : Sound s
  upright : ∀ c, (s.client c).bus.Upright

theorem new_live : Live (new C) := ⟨new_sound, fun _ => AsyncSends.new_upright⟩

theorem setClient_upright (h : ∀ d, (s.client d).bus.Upright) {client : Client}
    (hclient : client.bus.Upright) (d : C) : ((s.setClient c client).client d).bus.Upright := by
  by_cases hd : d = c
  · subst hd
    rw [setClient_self]
    exact hclient
  · rw [setClient_other _ _ hd]
    exact h d

theorem step_live (hcopies : memcpyS.Copies) (hdelivers : bus.Delivers) (h : Live s)
    {a : Action C} (hok : Carriable s a) (hstep : step memcpyS bus s a = some s') : Live s' := by
  refine ⟨step_sound hcopies hdelivers h.sound hok hstep, ?_⟩
  cases a with
  | daemon daemon =>
      cases hstep
      exact h.upright
  | client c a =>
      obtain ⟨client', hclient, rfl⟩ := Option.map_eq_some_iff.mp hstep
      obtain ⟨bus', hbus, hwriting, rfl⟩ := Client.step_cases hclient
      refine setClient_upright h.upright ?_
      refine AsyncSends.step_upright (h.upright c) (h.sound.control c) ?_ hbus
      -- this is no return from `Driver::write`
      rintro outFrame e hwriter rfl
      simp [AsyncSends.State.writing, hwriter] at hwriting
  | write c driver answer =>
      have hwrite : writeStep memcpyS bus s c driver answer = some s' := hstep
      obtain ⟨outFrame, thrown, bus', hwriter, hthrown, hbus, rfl⟩ := writeStep_cases hwrite
      refine setClient_upright h.upright ?_
      refine AsyncSends.step_upright (h.upright c) (h.sound.control c) ?_ hbus
      intro copyFrame e _ heq
      cases heq
      -- what is thrown is an exception of the library, which the writer catches
      obtain ⟨thrown', hsame, hlibrary⟩ := thrownBy_write (h.sound.writing_fits hwriter)
      cases hthrown.symm.trans hsame
      exact hlibrary e rfl

theorem reachable_live (hcopies : memcpyS.Copies) (hdelivers : bus.Delivers)
    (h : (system C memcpyS bus).Reachable Carriable s) : Live s := by
  refine h.invariant ?_ ?_
  · rintro s rfl
    exact new_live
  · intro s a s' _ hs hok hstep
    exact step_live hcopies hdelivers hs hok hstep

/-! ## The writer alone -/

/-- The steps of the writer thread of a client, whose driver is open; the physical driver
answers as it likes. -/
def ByWriter (c : C) (answers : State C → Int × Int) (s : State C) : Action C → Prop
  | .client d (.writer _) => d = c
  | .write d driver answer => d = c ∧ driver.status = .opened ∧ answer = answers s
  | _ => False

instance (c : C) (answers : State C → Int × Int) (s : State C) (a : Action C) :
    Decidable (ByWriter c answers s a) :=
  match a with
  | .client _ (.writer _) => inferInstanceAs (Decidable (_ = _))
  | .write _ _ _ => inferInstanceAs (Decidable (_ ∧ _))
  | .daemon _ | .client _ (.sendAsync _) | .client _ (.start _) | .client _ .stop
  | .client _ (.holder _) | .client _ .writerWakes => inferInstanceAs (Decidable False)

omit [DecidableEq C] in
theorem ByWriter.carriable {answers : State C → Int × Int} (s : State C) (a : Action C)
    (h : ByWriter c answers s a) : Carriable s a := by
  cases a with
  | daemon daemon => exact h.elim
  | client d a =>
      cases a with
      | writer thrown => trivial
      | _ => exact h.elim
  | write d driver answer => trivial

/-- The writer of a client puts copies of this client on the wire. -/
theorem ByWriter.wire (hcopies : memcpyS.Copies) (hdelivers : bus.Delivers)
    {answers : State C → Int × Int} (hs : Sound s) {a : Action C} (h : ByWriter c answers s a)
    (hstep : step memcpyS bus s a = some s') :
    ∃ more, s'.wire = s.wire ++ more ∧ ∀ sent ∈ more, sent.client = c := by
  cases a with
  | daemon daemon => exact h.elim
  | client d a =>
      obtain ⟨client', -, rfl⟩ := Option.map_eq_some_iff.mp hstep
      exact ⟨[], (List.append_nil _).symm, nofun⟩
  | write d driver answer =>
      obtain ⟨rfl, -, -⟩ := h
      have hwrite : writeStep memcpyS bus s d driver answer = some s' := hstep
      obtain ⟨outFrame, thrown, bus', hwriter, -, -, rfl⟩ := writeStep_cases hwrite
      refine ⟨_, wireBehind_eq hcopies hdelivers (hs.writing_fits hwriter) hs.proper driver answer,
        ?_⟩
      intro sent hmem
      obtain ⟨bytes, -, rfl⟩ := Option.map_eq_some_iff.mp (Option.mem_toList.mp hmem)
      rfl

/-- The daemon is started, and the client's queue has accepted these copies. -/
structure Draining (c : C) (entered : List (AsyncSends.Copy CECFrame)) (t s : State C) : Prop where
  served : Served c s
  live : Live s
  started : s.daemon.IsStarted
  passes : (t.conveyor c).Passes (s.conveyor c)
  entered : (s.client c).entered = entered

theorem Draining.next (hcopies : memcpyS.Copies) (hdelivers : bus.Delivers)
    {entered : List (AsyncSends.Copy CECFrame)} {t : State C} (h : Draining c entered t s)
    {a : Action C} (hok : Lossless c s a) (hstep : step memcpyS bus s a = some s')
    (hdaemon : s'.daemon = s.daemon)
    (hentered : (s'.client c).entered = (s.client c).entered) : Draining c entered t s' := by
  obtain ⟨hserved, hpasses⟩ := h.served.step hcopies hdelivers hok hstep
  refine ⟨hserved, step_live hcopies hdelivers h.live (hok.carriable s a) hstep, ?_,
    h.passes.trans hpasses, hentered.trans h.entered⟩
  rw [hdaemon]
  exact h.started

/-- What is not handed over yet can be brought nearer to the physical driver. -/
theorem Draining.goes_on (hcopies : memcpyS.Copies) (hdelivers : bus.Delivers)
    {entered : List (AsyncSends.Copy CECFrame)} {t : State C} (h : Draining c entered t s)
    (answers : State C → Int × Int) (hway : (s.client c).bus.onWay ≠ []) :
    ∃ a s', ByWriter c answers s a ∧ step memcpyS bus s a = some s' ∧ Draining c entered t s' ∧
      (s'.client c).bus.rank < (s.client c).bus.rank := by
  have hserving := h.served.serving
  have hupright := h.live.upright c
  by_cases hwrites : ∃ outFrame, (s.client c).bus.writer = .write outFrame
  · obtain ⟨outFrame, hwriter⟩ := hwrites
    -- the call returns, whatever the physical driver answers
    let driver : DriverImpl := ⟨.opened, .empty 32, []⟩
    obtain ⟨thrown, hthrown, hlibrary⟩ :=
      @thrownBy_write driver (IarmDriver.hdmiCecTx memcpyS bus
        (registered c outFrame (answers s)) (s.daemon, s.wire)) outFrame.frame
        (h.served.sound.writing_fits hwriter)
    have hof : AsyncSends.OfLibrary (s.client c).bus (.writer thrown) := by
      intro _ e _ heq
      cases heq
      exact hlibrary e rfl
    obtain ⟨bus', hbus, hrank⟩ := hserving.writer_goes_on hupright hway hof
    have hstep : step memcpyS bus s (.write c driver (answers s)) =
        some (({ s with wire := wireBehind memcpyS bus s c driver outFrame (answers s) }).setClient
          c { s.client c with bus := bus' }) := by
      simp [step, writeStep, hwriter, hthrown, hbus]
    have hok : Lossless c s (.write c driver (answers s)) := fun _ => ⟨rfl, h.started⟩
    have hby : ByWriter c answers s (.write c driver (answers s)) := ⟨rfl, rfl, rfl⟩
    refine ⟨_, _, hby, hstep, h.next hcopies hdelivers hok hstep rfl ?_, ?_⟩
    · rw [setClient_self]
    · rw [setClient_self]
      exact hrank
  · -- every other step of the writer is its own
    have hof : AsyncSends.OfLibrary (s.client c).bus (.writer none) := by
      intro _ e _ heq
      cases heq
    obtain ⟨bus', hbus, hrank⟩ := hserving.writer_goes_on hupright hway hof
    have hwriting : (s.client c).bus.writing (.writer none) = none := by
      simp only [AsyncSends.State.writing]
      split
      · next outFrame hwriter => exact absurd ⟨outFrame, hwriter⟩ hwrites
      · rfl
    have hstep : step memcpyS bus s (.client c (.writer none)) =
        some (s.setClient c { s.client c with
          bus := bus', entered := (s.client c).entered ++ [] }) := by
      simp [step, Client.step, hwriting, hbus, AsyncSends.State.accepting]
    have hok : Lossless c s (.client c (.writer none)) := trivial
    have hby : ByWriter c answers s (.client c (.writer none)) := rfl
    refine ⟨_, _, hby, hstep, h.next hcopies hdelivers hok hstep rfl ?_, ?_⟩
    · rw [setClient_self]
      exact List.append_nil _
    · rw [setClient_self]
      exact hrank

/-- The writer goes on until nothing is on its way. -/
theorem exists_draining (hcopies : memcpyS.Copies) (hdelivers : bus.Delivers) {t : State C}
    (ht : (system C memcpyS bus).Reachable Carriable t) (c : C)
    (hlive : (t.client c).bus.stopped = false) (hstarted : t.daemon.IsStarted)
    (answers : State C → Int × Int) :
    ∃ labels s, (system C memcpyS bus).run (ByWriter c answers) t labels = some s ∧
      labels.length ≤ (t.client c).bus.rank ∧ Draining c (t.client c).entered t s ∧
      (s.client c).bus.onWay = [] := by
  have hall : Draining c (t.client c).entered t t :=
    ⟨⟨reachable_sound hcopies hdelivers ht, hlive⟩, reachable_live hcopies hdelivers ht, hstarted,
      .refl _, rfl⟩
  exact @StepSystem.exists_run_of_decreasing _ _ (system C memcpyS bus) (ByWriter c answers) _
    (Draining c (t.client c).entered t) (fun s => (s.client c).bus.onWay = [])
    (fun s => (s.client c).bus.rank)
    (fun s hs hway => hs.goes_on hcopies hdelivers answers hway) t hall

omit [DecidableEq C] in
/-- At most eight steps for a copy in the queue, and six for the one in the writer's hands. -/
theorem rank_le (client : Client) : client.bus.rank ≤ 8 * client.bus.wQueue.items.length + 6 := by
  have hplace : client.bus.writer.rank ≤ 6 := by
    cases client.bus.writer <;> simp [AsyncSends.WriterPc.rank]
  rw [AsyncSends.State.rank]
  omega

/-- Behind an empty client is what was on its way. -/
theorem Draining.wireOf_eq {c : C} {t s : State C} (h : Draining c (t.client c).entered t s)
    (hempty : (s.client c).bus.onWay = []) :
    s.wireOf c = t.wireOf c ++ (t.client c).bus.onWay := by
  obtain ⟨added, out, hentered, hleft, hway⟩ := h.passes
  -- nothing has entered, and so what has left was on its way
  have hadded : added = [] := by
    have hsame : (s.client c).entered = (t.client c).entered ++ added := hentered
    rw [h.entered] at hsame
    exact List.self_eq_append_right.mp hsame
  have hout : out = (t.client c).bus.onWay := by
    have hway' : (t.client c).bus.onWay ++ added = out ++ (s.client c).bus.onWay := hway
    rw [hadded, hempty, List.append_nil, List.append_nil] at hway'
    exact hway'.symm
  rw [← hout]
  exact hleft

/-- From every state in which the daemon is started and nobody has stopped the bus of a
client, the writer thread of the client alone hands over everything that is on its way
there, in order, in a number of steps that the length of the queue bounds; and it does so
whatever the physical driver answers. -/
theorem drained (hcopies : memcpyS.Copies) (hdelivers : bus.Delivers) {t : State C}
    (ht : (system C memcpyS bus).Reachable Carriable t) (c : C)
    (hlive : (t.client c).bus.stopped = false) (hstarted : t.daemon.IsStarted)
    (answers : State C → Int × Int) :
    ∃ labels s, (system C memcpyS bus).run (ByWriter c answers) t labels = some s ∧
      labels.length ≤ 8 * (t.client c).bus.wQueue.items.length + 6 ∧
      (s.client c).bus.onWay = [] ∧ s.wireOf c = t.wireOf c ++ (t.client c).bus.onWay := by
  obtain ⟨labels, s, hrun, hlength, hs, hempty⟩ :=
    exists_draining hcopies hdelivers ht c hlive hstarted answers
  exact ⟨labels, s, hrun, Nat.le_trans hlength (rank_le (t.client c)), hempty,
    hs.wireOf_eq hempty⟩

/-- Two frames are in the queue of a client whose writer has not run yet; neither of them is
acknowledged. -/
theorem drained_notAcknowledged :
    ∃ (labels : List (Action Unit)) (t s : State Unit),
      (system Unit MemcpyS.checked IarmBus.synchronous).Reachable Carriable t ∧
      (system Unit MemcpyS.checked IarmBus.synchronous).run
        (ByWriter () fun _ => (HdmiCecIo.success, HdmiCecIo.sentButNotAckd)) t labels = some s ∧
      labels.length ≤ 22 ∧ (s.client ()).bus.onWay = [] ∧
      (s.wireOf ()).map (fun copyFrame => copyFrame.frame.bytes) =
        [[0x40, 0x04], [0x40, 0x36]] := by
  let S := system Unit MemcpyS.checked IarmBus.synchronous
  let sends (frame : CECFrame) : List (Action Unit) :=
    (AsyncSends.sendCall frame).map (.client ())
  obtain ⟨t, ht, hlive, hqueue, hwire⟩ :=
    S.exists_reachable_of_run Carriable (new Unit)
      ([.daemon (Daemon.started []), .client () (.start true)] ++
        sends (.ofBytes [0x40, 0x04] (by decide)) ++ sends (.ofBytes [0x40, 0x36] (by decide)))
      (fun t => (t.client ()).bus.stopped = false ∧
        (t.client ()).bus.wQueue.items.length = 2 ∧
        (t.wireOf () ++ (t.client ()).bus.onWay).map (fun copyFrame => copyFrame.frame.bytes) =
          [[0x40, 0x04], [0x40, 0x36]] ∧ t.daemon.IsStarted) rfl (by decide +kernel)
  obtain ⟨labels, s, hrun, hlength, hempty, hall⟩ :=
    drained MemcpyS.checked_copies IarmBus.synchronous_delivers ht () hlive hwire.2
      fun _ => (HdmiCecIo.success, HdmiCecIo.sentButNotAckd)
  rw [hqueue] at hlength
  exact ⟨labels, t, s, ht, hrun, hlength, hempty, by rw [hall]; exact hwire.1⟩

end Collection

end HdmiCec
