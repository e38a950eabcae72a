import Mathlib.Logic.Function.Basic
import HdmiCec.Bus.Outgoing
import HdmiCec.Core.Reencode
import HdmiCec.Daemon.Escapes
import HdmiCec.Daemon.Polls
import HdmiCec.Library.Conveyor

/-!
# From the clients to the driver of the daemon

Any number of client processes send asynchronously.  Each has the bus of `AsyncSends`, with
all its steps; the writer thread of a client calls `Driver::write`, which on the
pseudo-driver is a call of `_Send` in the daemon, and the daemon hands the frame to the
physical driver.

The daemon is in any state, and changes to any other one between two calls: it is started
and stopped, and owns any logical addresses.  A call of `_Send` is one step; the daemon's
bus holds its mutexes for the whole of it.  What `_Send` hands to the physical driver is
kept in `wire`, together with the client and the copy that it came from.
-/

namespace HdmiCec

namespace Collection

/-! ## What `_Send` hands over -/

/-- The bytes with which `_Send` calls the physical `HdmiCecTx`, if it does. -/
def handsOver (param : CECMgr.SendParam) (daemon : Daemon) : Option (List UInt8) :=
  match Daemon.rebuild param.length param.data, daemon.manager.m_connection with
  | .ok frameIn, some connection =>
      if 1 ≤ frameIn.length ∧ daemon.library.started = true ∧
          daemon.library.driver.status = .opened then
        (connection.matchSource daemon.library.driver frameIn).toOption.map CECFrame.bytes
      else
        none
  | _, _ => none

/-- `_Send` depends on the physical driver through its answer to these bytes, and on
nothing else of it. -/
theorem send_handsOver (tx tx' : HdmiCecTx) (param : CECMgr.SendParam) (daemon : Daemon)
    (hsame : ∀ bytes, handsOver param daemon = some bytes →
      tx bytes HdmiCecIo.success = tx' bytes HdmiCecIo.success) :
    daemon.send tx param = daemon.send tx' param := by
  rw [Daemon.send_eq, Daemon.send_eq]
  unfold handsOver at hsame
  cases hrebuild : Daemon.rebuild param.length param.data with
  | error r => rfl
  | ok frameIn =>
      rw [hrebuild] at hsame
      rw [Result.ok_bind, Result.ok_bind, Daemon.sendFrame, Daemon.sendFrame]
      cases hheader : Header.ofFrame frameIn 0 with
      | error r => rfl
      | ok header =>
          obtain ⟨first, rest, hbytes, -⟩ := MessageDecoder.ofFrame_eq_unpack hheader
          have hne : 1 ≤ frameIn.length := by
            rw [← CECFrame.bytes_length, hbytes, List.length_cons]
            omega
          cases hconnection : daemon.manager.m_connection with
          | none => rfl
          | some connection =>
              simp only [hconnection, hne, true_and] at hsame
              simp only [Result.ok_bind, Connection.send]
              cases hmatch : connection.matchSource daemon.library.driver frameIn with
              | error r => rfl
              | ok frame =>
                  -- both drivers are asked about the same bytes, or not at all
                  have hwrite : daemon.library.started = true →
                      daemon.library.driver.write tx frame =
                        daemon.library.driver.write tx' frame := by
                    intro hstarted
                    unfold DriverImpl.write
                    by_cases hopened : daemon.library.driver.status = .opened
                    · rw [hsame frame.bytes]
                      rw [if_pos ⟨hstarted, hopened⟩, hmatch]
                      rfl
                    · rw [if_pos hopened, if_pos hopened]
                  have hbus : (Bus.send daemon.library.started
                        (fun _ => daemon.library.driver.write tx frame) 0).2 =
                      (Bus.send daemon.library.started
                        (fun _ => daemon.library.driver.write tx' frame) 0).2 := by
                    cases hstarted : daemon.library.started with
                    | false => rfl
                    | true => rw [hwrite hstarted]
                  simp only [Result.ok_bind, hbus]

/-! ## The state -/

/-- What has been handed to the physical driver, and where it came from. -/
structure Sent (C : Type) where
  client : C
  copy : AsyncSends.Copy CECFrame
  bytes : List UInt8

/-- A client process: its bus, and the copies that `wQueue` has accepted since its
beginning. -/
structure Client where
  bus : AsyncSends.State CECFrame
  entered : List (AsyncSends.Copy CECFrame)

structure State (C : Type) where
  daemon : Daemon
  wire : List (Sent C)
  client : C → Client

/-- The daemon changes its state, a thread of a client takes a step, or the writer of a
client returns from `Driver::write`; then `driver` is the driver of the client at that time,
and `answer` what the physical driver answers if it is called. -/
inductive Action (C : Type) where
  | daemon (daemon : Daemon)
  | client (c : C) (a : AsyncSends.Action CECFrame)
  | write (c : C) (driver : DriverImpl) (answer : Int × Int)

variable {C : Type}

/-! ## The steps -/

/-- `_Send` as it is registered on the bus, with the record of what it hands over. -/
def registered (c : C) (copyFrame : AsyncSends.Copy CECFrame) (answer : Int × Int)
    (param : CECMgr.SendParam) (owner : Daemon × List (Sent C)) :
    Result (IARM_Result_t × CECMgr.SendParam) × Daemon × List (Sent C) :=
  (owner.1.send (fun _ _ => answer) param, owner.1,
    owner.2 ++ ((handsOver param owner.1).map (Sent.mk c copyFrame)).toList)

/-- What the writer's catch clauses get to see.  Nothing goes on behind an abrupt end. -/
def thrownBy : Result Unit → Option (Option Exception)
  | .ok () => some none
  | .error (.throws e) => some (some e)
  | .error _ => none

section Steps

variable [DecidableEq C] (memcpyS : MemcpyS) (bus : IarmBus)

def State.setClient (s : State C) (c : C) (client : Client) : State C :=
  { s with client := Function.update s.client c client }

/-- A step of a client that is no return from `Driver::write`. -/
def Client.step (client : Client) (a : AsyncSends.Action CECFrame) : Option Client :=
  match client.bus.writing a with
  | some _ => none
  | none =>
      (AsyncSends.step client.bus a).map fun bus' =>
        { client with
          bus := bus', entered := client.entered ++ (client.bus.accepting a).toList }

/-- What is on the wire behind the call of `_Send` that a client's driver makes, if it is
open. -/
def wireBehind (s : State C) (c : C) (driver : DriverImpl)
    (copyFrame : AsyncSends.Copy CECFrame) (answer : Int × Int) : List (Sent C) :=
  if driver.status = .opened then
    (bus.call (registered c copyFrame answer)
      (IarmDriver.dataToSend memcpyS copyFrame.frame.bytes) (s.daemon, s.wire)).2.2.2
  else
    s.wire

/-- `Driver::write(*outFrame)` in the writer of a client. -/
def writeStep (s : State C) (c : C) (driver : DriverImpl) (answer : Int × Int) :
    Option (State C) :=
  match (s.client c).bus.writer with
  | .write outFrame =>
      let hdmiCecTx := IarmDriver.hdmiCecTx memcpyS bus (registered c outFrame answer)
        (s.daemon, s.wire)
      (thrownBy (driver.write hdmiCecTx outFrame.frame)).bind fun thrown =>
        (AsyncSends.step (s.client c).bus (.writer thrown)).map fun bus' =>
          { s with wire := wireBehind memcpyS bus s c driver outFrame answer }.setClient c
            { s.client c with bus := bus' }
  | _ => none

def step (s : State C) : Action C → Option (State C)
  | .daemon daemon => some { s with daemon := daemon }
  | .client c a => ((s.client c).step a).map (s.setClient c)
  | .write c driver answer => writeStep memcpyS bus s c driver answer

/-- Nothing has been started yet. -/
def new (C : Type) : State C where
  daemon :=
    { manager := .new
      library :=
        { initialized := false
          started := false
          driver := { status := .closed, rQueue := .empty 32, logicalAddresses := [] } } }
  wire := []
  client _ := { bus := AsyncSends.new CECFrame, entered := [] }

variable (C) in
def system : StepSystem (State C) (Action C) where
  initial s := s = new C
  step := step memcpyS bus

end Steps

/-- A frame that an event block carries. -/
def Fits (frame : CECFrame) : Prop := 1 ≤ frame.length ∧ frame.length ≤ 63

instance (frame : CECFrame) : Decidable (Fits frame) := inferInstanceAs (Decidable (_ ∧ _))

instance (manager : CECIARMMgr) : Decidable manager.Proper := inferInstanceAs (Decidable (_ ∨ _))

/-- The clients send frames that a block carries. -/
def Carriable (_ : State C) : Action C → Prop
  | .daemon daemon => daemon.manager.Proper
  | .client _ (.sendAsync frame) => Fits frame
  | _ => True

instance (s : State C) (a : Action C) : Decidable (Carriable s a) :=
  match a with
  | .daemon _ => inferInstanceAs (Decidable (CECIARMMgr.Proper _))
  | .client _ (.sendAsync _) => inferInstanceAs (Decidable (Fits _))
  | .client _ (.start _) | .client _ .stop | .client _ (.holder _) | .client _ (.writer _)
  | .client _ .writerWakes | .write _ _ _ => inferInstanceAs (Decidable True)

/-- The bytes are those of the frame, or have the daemon's address 15 for the initiator. -/
def Carried (frame : CECFrame) (bytes : List UInt8) : Prop :=
  ∃ first rest, frame.bytes = first :: rest ∧
    (bytes = first :: rest ∨ bytes = ((first &&& 0x0F) ||| 0xF0) :: rest)

/-! ## One call of `_Send` -/

section Call

variable {memcpyS : MemcpyS} {bus : IarmBus} {frame : CECFrame} {daemon : Daemon}

/-- The daemon rebuilds the frame from the block. -/
theorem rebuild_dataToSend (hcopies : memcpyS.Copies) (hfits : Fits frame) :
    ∃ frameIn, Daemon.rebuild (IarmDriver.dataToSend memcpyS frame.bytes).length
        (IarmDriver.dataToSend memcpyS frame.bytes).data = .ok frameIn ∧
      frameIn.bytes = frame.bytes := by
  have hroom : frame.bytes.length ≤ CECMgr.maxDataLength + 1 := by
    rw [CECFrame.bytes_length]
    exact hfits.2
  obtain ⟨hlength, hdata⟩ := IarmDriver.dataToSend_carries hcopies hroom
  exact Daemon.carries_of_fits hlength hroom hdata

/-- What is handed over has the initiator that `matchSource` leaves, and on a started daemon
there is no way around it. -/
theorem handsOver_initiated (hcopies : memcpyS.Copies) (hfits : Fits frame)
    (hproper : daemon.manager.Proper) {first : UInt8} {rest : List UInt8}
    (hcons : frame.bytes = first :: rest) :
    (daemon.IsStarted → handsOver (IarmDriver.dataToSend memcpyS frame.bytes) daemon =
      some (daemon.initiated first :: rest)) ∧
    ∀ bytes, handsOver (IarmDriver.dataToSend memcpyS frame.bytes) daemon = some bytes →
      bytes = daemon.initiated first :: rest := by
  obtain ⟨frameIn, hrebuild, hbytes⟩ := rebuild_dataToSend hcopies hfits
  have hlength : frameIn.length = frame.length := by
    rw [← CECFrame.bytes_length, hbytes, CECFrame.bytes_length]
  obtain ⟨frame', hmatch, hbytes'⟩ := daemon.matchSource_initiated (hbytes.trans hcons)
  unfold handsOver
  rw [hrebuild]
  -- without a connection there is nothing to send through, but a started daemon has one
  rcases hproper with hnone | hsome
  · rw [hnone]
    constructor
    · intro hstarted
      rw [hstarted.connection] at hnone
      cases hnone
    · intro bytes h
      cases h
  · rw [hsome]
    dsimp only
    rw [hmatch]
    constructor
    · intro hstarted
      rw [if_pos ⟨hlength ▸ hfits.1, hstarted.running.started, hstarted.running.opened⟩]
      exact congrArg some hbytes'
    · intro bytes h
      split at h
      · cases h
        exact hbytes'
      · cases h

/-- On any started daemon the frame is handed over, with another initiator at most. -/
theorem handsOver_eq (hcopies : memcpyS.Copies) (hfits : Fits frame)
    (hproper : daemon.manager.Proper) :
    (daemon.IsStarted → (handsOver (IarmDriver.dataToSend memcpyS frame.bytes) daemon).isSome) ∧
    ∀ bytes, handsOver (IarmDriver.dataToSend memcpyS frame.bytes) daemon = some bytes →
      Carried frame bytes := by
  obtain ⟨first, rest, hcons⟩ : ∃ first rest, frame.bytes = first :: rest := by
    apply List.exists_cons_of_ne_nil
    rw [← List.length_pos_iff, CECFrame.bytes_length]
    exact hfits.1
  obtain ⟨hstarts, hleaves⟩ := handsOver_initiated hcopies hfits hproper hcons
  constructor
  · intro hstarted
    rw [hstarts hstarted]
    rfl
  · intro bytes h
    refine ⟨first, rest, hcons, ?_⟩
    rw [hleaves bytes h, Daemon.initiated]
    split
    · exact .inr rfl
    · exact .inl rfl

/-- `_Send` returns, whatever the state of the daemon. -/
theorem send_returns (hcopies : memcpyS.Copies) (hfits : Fits frame)
    (hproper : daemon.manager.Proper) (answer : Int × Int) :
    ∃ result param', daemon.send (fun _ _ => answer)
      (IarmDriver.dataToSend memcpyS frame.bytes) = .ok (result, param') := by
  obtain ⟨frameIn, hrebuild, hbytes⟩ := rebuild_dataToSend hcopies hfits
  have hne : 1 ≤ frameIn.length := by
    rw [← CECFrame.bytes_length, hbytes, CECFrame.bytes_length]
    exact hfits.1
  obtain ⟨result, param', hsend, -⟩ :=
    Daemon.sendFrame_returns (fun _ _ => answer) (IarmDriver.dataToSend memcpyS frame.bytes)
      hproper hne
  refine ⟨result, param', ?_⟩
  rw [Daemon.send_eq, hrebuild, Result.ok_bind, hsend]

end Call

/-! ## The conveyors -/

section Conveyors

variable [DecidableEq C] {memcpyS : MemcpyS} {bus : IarmBus} {s s' : State C} {c : C}

/-- The copies of a client that have been handed to the physical driver. -/
def State.wireOf (s : State C) (c : C) : List (AsyncSends.Copy CECFrame) :=
  (s.wire.filter fun sent => sent.client = c).map Sent.copy

/-- From the queue of a client to the physical driver. -/
def State.conveyor (s : State C) (c : C) : Conveyor (AsyncSends.Copy CECFrame) where
  entered := (s.client c).entered
  onWay := (s.client c).bus.onWay
  left := s.wireOf c

@[simp] theorem setClient_self (s : State C) (c : C) (client : Client) :
    (s.setClient c client).client c = client := Function.update_self ..

theorem setClient_other {d : C} (s : State C) (client : Client) (hd : d ≠ c) :
    (s.setClient c client).client d = s.client d := Function.update_of_ne hd ..

@[simp] theorem setClient_wire (s : State C) (c : C) (client : Client) :
    (s.setClient c client).wire = s.wire := rfl

/-- What a client's call of `Driver::write` hands over. -/
def handed (memcpyS : MemcpyS) (daemon : Daemon) (driver : DriverImpl) (frame : CECFrame) :
    Option (List UInt8) :=
  if driver.status = .opened then
    handsOver (IarmDriver.dataToSend memcpyS frame.bytes) daemon
  else
    none

omit [DecidableEq C] in
theorem wireBehind_eq (hcopies : memcpyS.Copies) (hdelivers : bus.Delivers)
    {copyFrame : AsyncSends.Copy CECFrame} (hfits : Fits copyFrame.frame)
    (hproper : s.daemon.manager.Proper) (driver : DriverImpl) (answer : Int × Int) :
    wireBehind memcpyS bus s c driver copyFrame answer =
      s.wire ++
        ((handed memcpyS s.daemon driver copyFrame.frame).map (Sent.mk c copyFrame)).toList := by
  unfold wireBehind handed
  by_cases hopened : driver.status = .opened
  · obtain ⟨result, param', hsend⟩ := send_returns hcopies hfits hproper answer
    rw [if_pos hopened, if_pos hopened]
    rw [hdelivers.call (registered c copyFrame answer) _ param' (s.daemon, s.wire)
      (s.daemon, s.wire ++ _) result (by rw [registered, hsend])]
  · rw [if_neg hopened, if_neg hopened]
    exact (List.append_nil _).symm

/-- A return from `Driver::write`. -/
theorem writeStep_cases {driver : DriverImpl} {answer : Int × Int}
    (hstep : writeStep memcpyS bus s c driver answer = some s') :
    ∃ outFrame thrown bus', (s.client c).bus.writer = .write outFrame ∧
      thrownBy (driver.write (IarmDriver.hdmiCecTx memcpyS bus (registered c outFrame answer)
        (s.daemon, s.wire)) outFrame.frame) = some thrown ∧
      AsyncSends.step (s.client c).bus (.writer thrown) = some bus' ∧
      s' = { s with wire := wireBehind memcpyS bus s c driver outFrame answer }.setClient c
        { s.client c with bus := bus' } := by
  unfold writeStep at hstep
  split at hstep
  · next outFrame hwriter =>
    obtain ⟨thrown, hthrown, hadvance⟩ := Option.bind_eq_some_iff.mp hstep
    obtain ⟨bus', hbus, rfl⟩ := Option.map_eq_some_iff.mp hadvance
    exact ⟨outFrame, thrown, bus', hwriter, hthrown, hbus, rfl⟩
  · cases hstep

theorem Client.step_cases {client client' : Client} {a : AsyncSends.Action CECFrame}
    (hstep : client.step a = some client') :
    ∃ bus', AsyncSends.step client.bus a = some bus' ∧ client.bus.writing a = none ∧
      client' = { client with
        bus := bus', entered := client.entered ++ (client.bus.accepting a).toList } := by
  unfold Client.step at hstep
  split at hstep
  · cases hstep
  · next hwriting =>
    obtain ⟨bus', hbus, rfl⟩ := Option.map_eq_some_iff.mp hstep
    exact ⟨bus', hbus, hwriting, rfl⟩

/-- A step of a client's bus. -/
theorem client_moves {a : AsyncSends.Action CECFrame} {bus' : AsyncSends.State CECFrame}
    (hbus : AsyncSends.step (s.client c).bus a = some bus')
    (hwriting : (s.client c).bus.writing a = none) :
    ∃ kept, Conveyor.Moves (s.conveyor c)
        ((s.setClient c { s.client c with
          bus := bus',
          entered := (s.client c).entered ++ ((s.client c).bus.accepting a).toList }).conveyor c)
        [] (s.conveyor c).onWay kept ((s.client c).bus.accepting a).toList ∧
      kept.Sublist (s.conveyor c).onWay ∧
      ((s.client c).bus.writer ≠ .flushPoll → kept = (s.conveyor c).onWay) := by
  obtain ⟨rest, kept, hfront, hafter, hsub, hall⟩ := AsyncSends.step_onWay hbus
  rw [hwriting] at hfront
  have hrest : (s.conveyor c).onWay = rest := hfront
  rw [hrest]
  refine ⟨kept, ⟨hrest, ?_, ?_, ?_⟩, hsub, hall⟩ <;>
    simp [State.conveyor, State.wireOf, hafter]

/-- A return from `Driver::write`: the copy leaves for the wire, or is lost. -/
theorem write_moves (hcopies : memcpyS.Copies) (hdelivers : bus.Delivers)
    {outFrame : AsyncSends.Copy CECFrame} {thrown : Option Exception}
    {bus' : AsyncSends.State CECFrame} (hfits : Fits outFrame.frame)
    (hproper : s.daemon.manager.Proper) (hwriter : (s.client c).bus.writer = .write outFrame)
    (hbus : AsyncSends.step (s.client c).bus (.writer thrown) = some bus')
    (driver : DriverImpl) (answer : Int × Int) :
    ∃ out rest, Conveyor.Moves (s.conveyor c)
        (({ s with wire := wireBehind memcpyS bus s c driver outFrame answer }.setClient c
          { s.client c with bus := bus' }).conveyor c) out rest bus'.onWay [] ∧
      bus'.onWay.Sublist rest ∧
      ((handed memcpyS s.daemon driver outFrame.frame).isSome → rest = bus'.onWay) := by
  obtain ⟨rest, kept, hfront, hafter, hsub, hall⟩ := AsyncSends.step_onWay hbus
  have hwriting : (s.client c).bus.writing (.writer thrown) = some outFrame := by
    simp [AsyncSends.State.writing, hwriter]
  rw [hwriting] at hfront
  have hkept : bus'.onWay = rest := by
    rw [hafter, hall (by rw [hwriter]; intro hpc; cases hpc)]
    exact List.append_nil rest
  have hwire := wireBehind_eq (c := c) hcopies hdelivers hfits hproper driver answer
  cases hhanded : handed memcpyS s.daemon driver outFrame.frame with
  | none =>
      -- the daemon or the driver of the client is down, and the copy is lost
      refine ⟨[], outFrame :: rest, ⟨hfront, ?_, ?_, ?_⟩, ?_, fun hsome => by cases hsome⟩
      · simp [State.conveyor]
      · simp [State.conveyor, State.wireOf, hwire, hhanded]
      · simp [State.conveyor]
      · rw [hkept]
        exact List.sublist_cons_self _ _
  | some bytes =>
      refine ⟨[outFrame], rest, ⟨hfront, ?_, ?_, ?_⟩, ?_, fun _ => hkept.symm⟩
      · simp [State.conveyor]
      · simp [State.conveyor, State.wireOf, hwire, hhanded]
      · simp [State.conveyor]
      · rw [hkept]

/-! ## In order, and once each -/

/-- Every client's copies are handed over in their order, and every frame is fit for a
block. -/
structure Sound (s : State C) : Prop where
  proper : s.daemon.manager.Proper
  fits : ∀ c, (s.client c).bus.Every Fits
  control : ∀ c, AsyncSends.Control (s.client c).bus
  keeps : ∀ c, (s.conveyor c).Keeps
  carried : ∀ sent ∈ s.wire, Carried sent.copy.frame sent.bytes

theorem new_sound : Sound (new C) :=
  ⟨CECIARMMgr.new_proper, fun _ => AsyncSends.new_every Fits, fun _ => AsyncSends.new_control,
    fun _ => List.Sublist.refl _, nofun⟩

/-- The copy that the writer holds is fit. -/
theorem Sound.writing_fits (h : Sound s) {outFrame : AsyncSends.Copy CECFrame}
    (hwriter : (s.client c).bus.writer = .write outFrame) : Fits outFrame.frame := by
  refine (h.fits c).onWay outFrame ?_
  simp [AsyncSends.State.onWay, AsyncSends.WriterPc.holding, hwriter]

theorem handed_carried (hcopies : memcpyS.Copies) {daemon : Daemon}
    (hproper : daemon.manager.Proper) {driver : DriverImpl} {frame : CECFrame}
    (hfits : Fits frame) {bytes : List UInt8}
    (h : handed memcpyS daemon driver frame = some bytes) : Carried frame bytes := by
  unfold handed at h
  split at h
  · exact (handsOver_eq hcopies hfits hproper).2 bytes h
  · cases h

theorem client_sound (h : Sound s) {a : AsyncSends.Action CECFrame}
    {bus' : AsyncSends.State CECFrame}
    (hsent : ∀ frame, a = .sendAsync frame → Fits frame)
    (hbus : AsyncSends.step (s.client c).bus a = some bus')
    (hwriting : (s.client c).bus.writing a = none) :
    Sound (s.setClient c { s.client c with
      bus := bus', entered := (s.client c).entered ++ ((s.client c).bus.accepting a).toList }) := by
  obtain ⟨kept, hmoves, hsub, -⟩ := client_moves hbus hwriting
  -- each field for the client that takes the step, and for the others
  refine ⟨h.proper, ?_, ?_, ?_, h.carried⟩ <;> intro d <;> by_cases hd : d = c
  · subst hd
    rw [setClient_self]
    exact AsyncSends.step_every (h.fits d) hsent hbus
  · rw [setClient_other _ _ hd]
    exact h.fits d
  · subst hd
    rw [setClient_self]
    exact AsyncSends.step_control (h.control d) (AsyncSends.step_moves hbus)
  · rw [setClient_other _ _ hd]
    exact h.control d
  · subst hd
    exact (h.keeps d).moves hmoves hsub
  · rw [State.conveyor, setClient_other _ _ hd]
    exact h.keeps d

/-- The wire of another client is the same. -/
theorem wireOf_other {d : C} (hcopies : memcpyS.Copies) (hdelivers : bus.Delivers)
    {copyFrame : AsyncSends.Copy CECFrame} (hfits : Fits copyFrame.frame)
    (hproper : s.daemon.manager.Proper) (hd : d ≠ c) (driver : DriverImpl)
    (answer : Int × Int) (client : Client) :
    State.wireOf ({ s with wire := wireBehind memcpyS bus s c driver copyFrame answer }.setClient
      c client) d = s.wireOf d := by
  have hwire := wireBehind_eq (c := c) hcopies hdelivers hfits hproper driver answer
  cases hhanded : handed memcpyS s.daemon driver copyFrame.frame with
  | none => simp [State.wireOf, hwire, hhanded]
  | some bytes => simp [State.wireOf, hwire, hhanded, Ne.symm hd]

theorem write_sound (hcopies : memcpyS.Copies) (hdelivers : bus.Delivers) (h : Sound s)
    {driver : DriverImpl} {answer : Int × Int}
    (hstep : writeStep memcpyS bus s c driver answer = some s') : Sound s' := by
  obtain ⟨outFrame, thrown, bus', hwriter, -, hbus, rfl⟩ := writeStep_cases hstep
  have hfits := h.writing_fits hwriter
  obtain ⟨out, rest, hmoves, hsub, -⟩ :=
    write_moves hcopies hdelivers hfits h.proper hwriter hbus driver answer
  refine ⟨h.proper, ?_, ?_, ?_, ?_⟩
  · intro d
    by_cases hd : d = c
    · subst hd
      rw [setClient_self]
      refine AsyncSends.step_every (h.fits d) ?_ hbus
      intro frame hsend
      cases hsend
    · rw [setClient_other _ _ hd]
      exact h.fits d
  · intro d
    by_cases hd : d = c
    · subst hd
      rw [setClient_self]
      exact AsyncSends.step_control (h.control d) (AsyncSends.step_moves hbus)
    · rw [setClient_other _ _ hd]
      exact h.control d
  · intro d
    by_cases hd : d = c
    · subst hd
      exact (h.keeps d).moves hmoves hsub
    · rw [State.conveyor, wireOf_other hcopies hdelivers hfits h.proper hd,
        setClient_other _ _ hd]
      exact h.keeps d
  · intro sent hmem
    rw [setClient_wire, wireBehind_eq hcopies hdelivers hfits h.proper] at hmem
    -- new on the wire is what this call has handed over
    rcases List.mem_append.mp hmem with hold | hnew
    · exact h.carried sent hold
    · obtain ⟨bytes, hhanded, rfl⟩ := Option.map_eq_some_iff.mp (Option.mem_toList.mp hnew)
      exact handed_carried hcopies h.proper hfits hhanded

theorem step_sound (hcopies : memcpyS.Copies) (hdelivers : bus.Delivers) (h : Sound s)
    {a : Action C} (hok : Carriable s a) (hstep : step memcpyS bus s a = some s') :
    Sound s' := by
  cases a with
  | daemon daemon =>
      cases hstep
      exact ⟨hok, h.fits, h.control, h.keeps, h.carried⟩
  | client c a =>
      obtain ⟨client', hclient, rfl⟩ := Option.map_eq_some_iff.mp hstep
      obtain ⟨bus', hbus, hwriting, rfl⟩ := Client.step_cases hclient
      refine client_sound h ?_ hbus hwriting
      rintro frame rfl
      exact hok
  | write c driver answer => exact write_sound hcopies hdelivers h hstep

theorem reachable_sound (hcopies : memcpyS.Copies) (hdelivers : bus.Delivers)
    (h : (system C memcpyS bus).Reachable Carriable s) : Sound s := by
  refine h.invariant ?_ ?_
  · rintro s rfl
    exact new_sound
  · intro s a s' _ hs hok hstep
    exact step_sound hcopies hdelivers hs hok hstep

/-- A call of `sendAsync` by a client, and the steps of its writer up to the call of
`Driver::write`. -/
def offered (c : C) (frame : CECFrame) : List (Action C) :=
  let steps : List (AsyncSends.Action CECFrame) := [.writer none, .writer none]
  (AsyncSends.sendCall frame ++ steps).map (.client c)

/-- The client does not stop its bus, and while its writer writes, its driver is open and
the daemon is started.  The other clients do what they like. -/
def Lossless (c : C) (s : State C) : Action C → Prop
  | .daemon daemon => daemon.manager.Proper
  | .client _ (.sendAsync frame) => Fits frame
  | .client d .stop => d ≠ c
  | .write d driver _ => d = c → driver.status = .opened ∧ s.daemon.IsStarted
  | _ => True

instance (library : Library) : Decidable library.IsRunning :=
  decidable_of_iff
    (library.initialized = true ∧ library.started = true ∧ library.driver.status = .opened)
    ⟨fun ⟨h₁, h₂, h₃⟩ => ⟨h₁, h₂, h₃⟩, fun ⟨h₁, h₂, h₃⟩ => ⟨h₁, h₂, h₃⟩⟩

instance (daemon : Daemon) : Decidable daemon.IsStarted :=
  decidable_of_iff
    (daemon.manager.m_connection = some (Connection.ofSource LogicalAddress.unregistered) ∧
      daemon.library.IsRunning)
    ⟨fun ⟨h₁, h₂⟩ => ⟨h₁, h₂⟩, fun ⟨h₁, h₂⟩ => ⟨h₁, h₂⟩⟩

instance (c : C) (s : State C) (a : Action C) : Decidable (Lossless c s a) :=
  match a with
  | .daemon _ => inferInstanceAs (Decidable (CECIARMMgr.Proper _))
  | .client _ (.sendAsync _) => inferInstanceAs (Decidable (Fits _))
  | .client _ .stop => inferInstanceAs (Decidable (_ ≠ _))
  | .write _ _ _ => inferInstanceAs (Decidable (_ → _ ∧ _))
  | .client _ (.start _) | .client _ (.holder _) | .client _ (.writer _)
  | .client _ .writerWakes => inferInstanceAs (Decidable True)

omit [DecidableEq C] in
theorem Lossless.carriable {c : C} (s : State C) (a : Action C) (h : Lossless c s a) :
    Carriable s a := by
  cases a with
  | daemon daemon => exact h
  | client d a => cases a <;> first | exact h | trivial
  | write d driver answer => trivial

/-- Nobody has stopped the bus of the client. -/
structure Served (c : C) (s : State C) : Prop where
  sound : Sound s
  live : (s.client c).bus.stopped = false

theorem Served.serving (h : Served c s) : (s.client c).bus.Serving := ⟨h.sound.control c, h.live⟩

/-- One step that loses nothing of the client. -/
theorem Served.step (hcopies : memcpyS.Copies) (hdelivers : bus.Delivers) (h : Served c s)
    {a : Action C} (hok : Lossless c s a) (hstep : Collection.step memcpyS bus s a = some s') :
    Served c s' ∧ (s.conveyor c).Passes (s'.conveyor c) := by
  have hsound := step_sound hcopies hdelivers h.sound (hok.carriable s a) hstep
  cases a with
  | daemon daemon =>
      cases hstep
      exact ⟨⟨hsound, h.live⟩, .refl _⟩
  | client d a =>
      obtain ⟨client', hclient, rfl⟩ := Option.map_eq_some_iff.mp hstep
      obtain ⟨bus', hbus, hwriting, rfl⟩ := Client.step_cases hclient
      by_cases hd : c = d
      · subst hd
        have hstop : a ≠ .stop := by
          rintro rfl
          exact hok rfl
        have hserving := AsyncSends.step_serving h.serving hstop hbus
        obtain ⟨kept, hmoves, -, hall⟩ := client_moves hbus hwriting
        rw [hall h.serving.notFlushing] at hmoves
        refine ⟨⟨hsound, ?_⟩, hmoves.passes⟩
        rw [setClient_self]
        exact hserving.live
      · refine ⟨⟨hsound, ?_⟩, ?_⟩
        · rw [setClient_other _ _ hd]
          exact h.live
        · rw [State.conveyor, State.conveyor, setClient_other _ _ hd]
          exact .refl _
  | write d driver answer =>
      obtain ⟨outFrame, thrown, bus', hwriter, -, hbus, rfl⟩ := writeStep_cases hstep
      have hfits := h.sound.writing_fits hwriter
      by_cases hd : c = d
      · subst hd
        obtain ⟨hopened, hstarted⟩ := hok rfl
        -- the driver and the daemon are up, so the copy leaves
        have hsome : (handed memcpyS s.daemon driver outFrame.frame).isSome := by
          rw [handed, if_pos hopened]
          exact (handsOver_eq hcopies hfits h.sound.proper).1 hstarted
        obtain ⟨out, rest, hmoves, -, hall⟩ :=
          write_moves hcopies hdelivers hfits h.sound.proper hwriter hbus driver answer
        rw [hall hsome] at hmoves
        have hnotStop : (AsyncSends.Action.writer thrown : AsyncSends.Action CECFrame) ≠ .stop := by
          intro heq
          cases heq
        have hserving := AsyncSends.step_serving h.serving hnotStop hbus
        refine ⟨⟨hsound, ?_⟩, hmoves.passes⟩
        rw [setClient_self]
        exact hserving.live
      · refine ⟨⟨hsound, ?_⟩, ?_⟩
        · rw [setClient_other _ _ hd]
          exact h.live
        · rw [State.conveyor, State.conveyor,
            wireOf_other hcopies hdelivers hfits h.sound.proper hd, setClient_other _ _ hd]
          exact .refl _

theorem Served.leads (hcopies : memcpyS.Copies) (hdelivers : bus.Delivers) {t : State C}
    (h : Served c t) (hrun : (system C memcpyS bus).Leads (Lossless c) t s) :
    Served c s ∧ (t.conveyor c).Passes (s.conveyor c) := by
  refine hrun.invariant
    (I := fun s => Served c s ∧ (t.conveyor c).Passes (s.conveyor c)) ?_ ⟨h, .refl _⟩
  rintro s a s' - ⟨hs, hpasses⟩ hok hstep
  obtain ⟨hnext, hstep'⟩ := hs.step hcopies hdelivers hok hstep
  exact ⟨hnext, hpasses.trans hstep'⟩

theorem new_served (c : C) : Served c (new C) := ⟨new_sound, rfl⟩

theorem reachable_served (hcopies : memcpyS.Copies) (hdelivers : bus.Delivers)
    (h : (system C memcpyS bus).Reachable (Lossless c) s) :
    Served c s ∧ ((new C).conveyor c).Passes (s.conveyor c) := by
  obtain ⟨s₀, rfl, hrun⟩ := h
  exact (new_served c).leads hcopies hdelivers hrun

end Conveyors

end Collection

end HdmiCec
