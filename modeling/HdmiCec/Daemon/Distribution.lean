import Mathlib.Logic.Function.Basic
import HdmiCec.Daemon.EventTransit
import HdmiCec.Daemon.Reception
import HdmiCec.Library.Conveyor

/-!
# From the driver of the daemon to the listeners of the clients

A packet that the physical driver receives passes two processes.  In the daemon it goes
through the incoming queue to the reader thread, whose listener packs it into a RECV event.
The event goes to every client whose pseudo-driver has registered `cecRecvEventHandler`;
that handler hands the bytes to the client's own `DriverReceiveCallback`, and the client's
reader takes the frame to its listeners.

The driver of the daemon is that of `Sessions` and those of the clients are `PseudoDriver`s,
with all their steps, any number of sessions and any interleaving.  In the daemon the reader
hands a frame to the listeners in the step in which `read` returns it.  `CECIARMMgr::start`
and `CECIARMMgr::stop` open and close the connection and attach the listener to it, while the
reader is running: a frame that is read without the listener is gone.  The events of a client
are handled in the order in which they were broadcast.  The physical driver makes its
callbacks one after the other, and so does the thread that handles the events of a client
(`Sequential`).
-/

universe u

namespace HdmiCec

namespace Distribution

open PseudoDriver (eventBytes carried)

/-- A client process: its driver, and the RECV events that wait to be handled.  The events
that were broadcast while its handler was registered are `told`, and the frames that its
reader has handed to the listeners are `taken`. -/
structure Client where
  pseudo : PseudoDriver.State
  inFlight : List CECMgr.EventData
  told : List CECMgr.EventData
  taken : List CECFrame

/-- What the reader of the daemon finds at the bus: nothing, the open connection of the
manager, or this with the manager's frame listener. -/
inductive Attached where
  | nothing
  | connection
  | listener
  deriving DecidableEq

/-- The calls in `CECIARMMgr::start` and `CECIARMMgr::stop`. -/
inductive ManagerCall where
  | connectionOpen
  | addFrameListener
  | removeFrameListener
  | connectionClose
  deriving DecidableEq

/-- The daemon and its clients.  The packets that the physical driver has handed over are
`received`, and `broadcast` are the RECV events. -/
structure State (C : Type u) where
  daemon : Sessions.State CECFrame
  attached : Attached
  up : Bool
  received : List (List UInt8)
  broadcast : List CECMgr.EventData
  client : C → Client

/-- The physical driver calls back with a packet, a thread of the daemon takes a step, its
manager makes a call, an event of a client is delivered, or the client takes a step. -/
inductive Action (C : Type u) where
  | packet (buf : List UInt8)
  | daemon (a : Sessions.Action CECFrame)
  | manager (call : ManagerCall)
  | event (c : C)
  | client (c : C) (a : PseudoDriver.Action)

variable {C : Type u} [DecidableEq C]

/-! ## The steps -/

/-- `IARM_Bus_BroadcastEvent`, as far as this client goes. -/
def Client.hears (client : Client) (event : CECMgr.EventData) : Client :=
  if client.pseudo.native.registered then
    { client with inFlight := client.inFlight ++ [event], told := client.told ++ [event] }
  else
    client

def State.setClient (s : State C) (c : C) (client : Client) : State C :=
  { s with client := Function.update s.client c client }

/-- The listeners that a frame comes to. -/
def Attached.listeners (process : Message → Header → Result Unit) :
    Attached → List (CECFrame → Result Unit)
  | .nothing => []
  | .connection => [(Connection.ofSource LogicalAddress.unregistered).notify []]
  | .listener => Daemon.listeners process

/-- What is broadcast for a frame. -/
def Attached.broadcasts (process : Message → Header → Result Unit) (frame : CECFrame) :
    Attached → Option CECMgr.EventData
  | .nothing | .connection => none
  | .listener => (CecIARMMgrFrameListener.notify process frame).toOption

/-- The broadcast of an event, if there is one. -/
def State.broadcasts (s : State C) : Option CECMgr.EventData → State C
  | none => s
  | some event =>
      { s with
        broadcast := s.broadcast ++ [event]
        client := fun c => (s.client c).hears event }

/-- The frame that `read` has returned goes through the loop of `Bus::Reader::run`. -/
def State.readerTurn (process : Message → Header → Result Unit) (s : State C)
    (frame : CECFrame) : State C :=
  match Bus.readerTurn (s.attached.listeners process) frame with
  | .ok () => s.broadcasts (s.attached.broadcasts process frame)
  -- the loop catches nothing but `InvalidStateException`
  | .error _ => { s with up := false }

/-- `DriverReceiveCallback` in the daemon.  A packet that no frame holds leaves it as an
exception. -/
def packetStep (s : State C) (buf : List UInt8) : Option (State C) :=
  match CECFrame.empty.appendAll buf with
  | .error _ => some { s with up := false }
  | .ok frame =>
      (Sessions.step s.daemon (.receive frame)).map fun daemon =>
        { s with daemon := daemon, received := s.received ++ [buf] }

/-- A step of the daemon's driver. -/
def daemonStep (process : Message → Header → Result Unit) (s : State C)
    (a : Sessions.Action CECFrame) : Option (State C) :=
  (Sessions.step s.daemon a).map fun daemon =>
    match s.daemon.returning a with
    | none => { s with daemon := daemon }
    | some receipt => { s with daemon := daemon }.readerTurn process receipt.frame

/-- `start` opens the connection and adds the listener, and `stop` takes them back. -/
def managerStep : Attached → ManagerCall → Option Attached
  | .nothing, .connectionOpen => some .connection
  | .connection, .addFrameListener => some .listener
  | .listener, .removeFrameListener => some .connection
  | .connection, .connectionClose => some .nothing
  | _, _ => none

/-- The next event of a client. -/
def Client.eventStep (client : Client) : Option Client :=
  match client.inFlight with
  | [] => none
  | event :: rest =>
      (PseudoDriver.step client.pseudo (.deliver event)).map fun pseudo =>
        { client with inFlight := rest, pseudo := pseudo }

/-- A step of a client's driver. -/
def Client.step (client : Client) (a : PseudoDriver.Action) : Option Client :=
  (PseudoDriver.step client.pseudo a).map fun pseudo =>
    { client with
      pseudo := pseudo
      taken := client.taken ++ ((client.pseudo.returning a).map Sessions.Receipt.frame).toList }

/-- Callbacks of the daemon begin with a packet only. -/
def ofDaemon : Sessions.Action CECFrame → Bool
  | .receive _ => false
  | _ => true

/-- Events are delivered in their order only. -/
def ofClient : PseudoDriver.Action → Bool
  | .deliver _ => false
  | _ => true

def step (process : Message → Header → Result Unit) (s : State C) : Action C → Option (State C)
  | .packet buf => if s.up then packetStep s buf else none
  | .daemon a => if s.up ∧ ofDaemon a then daemonStep process s a else none
  | .manager call =>
      if s.up then
        (managerStep s.attached call).map fun attached => { s with attached := attached }
      else
        none
  | .event c => (s.client c).eventStep.map (s.setClient c)
  | .client c a => if ofClient a then ((s.client c).step a).map (s.setClient c) else none

/-- No driver has been opened yet. -/
def new (C : Type u) : State C where
  daemon := Sessions.new CECFrame
  attached := .nothing
  up := true
  received := []
  broadcast := []
  client _ := { pseudo := PseudoDriver.new, inFlight := [], told := [], taken := [] }

variable (C) in
def system (process : Message → Header → Result Unit) : StepSystem (State C) (Action C) where
  initial s := s = new C
  step := step process

/-- A callback begins when the last one of its driver has returned. -/
def Sequential (s : State C) : Action C → Prop
  | .packet _ => s.daemon.callbacks = []
  | .event c => (s.client c).pseudo.driver.callbacks = []
  | _ => True

instance (s : State C) (a : Action C) : Decidable (Sequential s a) :=
  match a with
  | .packet _ | .event _ => inferInstanceAs (Decidable (_ = []))
  | .daemon _ | .manager _ | .client _ _ => inferInstanceAs (Decidable True)

/-! ## What the listener broadcasts -/

/-- The listener broadcasts the frame it was given, which fits an event. -/
theorem broadcasts_eq_some {process : Message → Header → Result Unit} {attached : Attached}
    {frame : CECFrame} {event : CECMgr.EventData}
    (h : attached.broadcasts process frame = some event) :
    event.length.toNat ≤ 62 ∧ eventBytes event = frame.bytes := by
  have hnotify : ∃ hfits : frame.length ≤ 62,
      event = CecIARMMgrFrameListener.dataRcvd frame := by
    cases attached with
    | nothing | connection => cases h
    | listener =>
        unfold Attached.broadcasts CecIARMMgrFrameListener.notify at h
        cases hdecode : (MessageDecoder.decode process frame).outcome with
        | error r => simp [hdecode, Except.toOption] at h
        | ok _ =>
            cases hheader : Header.ofFrame frame 0 with
            | error r => simp [hdecode, hheader, Except.toOption] at h
            | ok header =>
                simp only [hdecode, hheader, Result.ok_bind] at h
                by_cases hfits : frame.length ≤ CECMgr.maxDataLength
                · rw [if_pos hfits, OpCode.ofFrame_logged] at h
                  exact ⟨hfits, (Option.some.inj h).symm⟩
                · simp [if_neg hfits, assertThat, Except.toOption] at h
  obtain ⟨hfits, rfl⟩ := hnotify
  obtain ⟨hlength, hbytes⟩ := PseudoDriver.eventBytes_dataRcvd hfits
  exact ⟨by omega, hbytes⟩

omit [DecidableEq C] in
/-- A frame that is handled is broadcast once the listener is attached, and ends the reader
in no case. -/
theorem readerTurn_handled {outside : Result UInt8} {cec_log_level : Int} {s : State C}
    {frame : CECFrame} (h : Daemon.Handled cec_log_level frame.bytes) :
    s.readerTurn (MessageProcessor.processAt outside cec_log_level) frame =
      s.broadcasts (if s.attached = .listener then
        some (CecIARMMgrFrameListener.dataRcvd frame) else none) := by
  have hheaded := h.headed
  have hfits := h.fits
  rw [CECFrame.bytes_length] at hheaded hfits
  rw [State.readerTurn]
  cases hattached : s.attached with
  | nothing => rfl
  | connection =>
      have hturn : Bus.readerTurn (Attached.connection.listeners
          (MessageProcessor.processAt outside cec_log_level)) frame = .ok () := by
        rw [Attached.listeners, Bus.readerTurn, Bus.notifyAll_singleton,
          Connection.notify_unregistered]
        rfl
      rw [hturn]
      rfl
  | listener =>
      rw [Attached.listeners, Daemon.readerTurn_handled outside h]
      simp only [Attached.broadcasts, if_true,
        CecIARMMgrFrameListener.notify_printable outside hheaded h.printable, if_pos hfits]
      rfl

/-! ## The conveyors -/

/-- From the physical driver to the broadcast. -/
def State.conveyor (s : State C) : Conveyor (List UInt8) where
  entered := s.received
  onWay := carried s.daemon.onWay
  left := s.broadcast.map eventBytes

/-- From the broadcast to the listeners of a client. -/
def Client.conveyor (client : Client) : Conveyor (List UInt8) where
  entered := client.told.map eventBytes
  onWay := client.pseudo.onWay ++ client.inFlight.map eventBytes
  left := client.taken.map CECFrame.bytes

/-- From the physical driver to the listeners of a client. -/
def State.conveyorTo (s : State C) (c : C) : Conveyor (List UInt8) :=
  s.conveyor.series (s.client c).conveyor

section Client

variable {client client' : Client}

theorem Client.hears_moves {event : CECMgr.EventData}
    (h : client.pseudo.native.registered = true) :
    Conveyor.Moves client.conveyor (client.hears event).conveyor [] client.conveyor.onWay
      client.conveyor.onWay [eventBytes event] := by
  rw [Client.hears, if_pos h]
  constructor <;> simp [Client.conveyor]

@[simp] theorem Client.hears_pseudo (client : Client) (event : CECMgr.EventData) :
    (client.hears event).pseudo = client.pseudo := by
  rw [Client.hears]
  split <;> rfl

theorem Client.step_cases {a : PseudoDriver.Action} (hstep : client.step a = some client') :
    ∃ pseudo, PseudoDriver.step client.pseudo a = some pseudo ∧
      client' = { client with
        pseudo := pseudo
        taken :=
          client.taken ++ ((client.pseudo.returning a).map Sessions.Receipt.frame).toList } := by
  obtain ⟨pseudo, hpseudo, rfl⟩ := Option.map_eq_some_iff.mp hstep
  exact ⟨pseudo, hpseudo, rfl⟩

theorem Client.eventStep_cases (hstep : client.eventStep = some client') :
    ∃ event rest pseudo, client.inFlight = event :: rest ∧
      PseudoDriver.step client.pseudo (.deliver event) = some pseudo ∧
      client' = { client with inFlight := rest, pseudo := pseudo } := by
  unfold Client.eventStep at hstep
  cases hqueue : client.inFlight with
  | nil =>
      rw [hqueue] at hstep
      cases hstep
  | cons event rest =>
      rw [hqueue] at hstep
      obtain ⟨pseudo, hpseudo, rfl⟩ := Option.map_eq_some_iff.mp hstep
      exact ⟨event, rest, pseudo, rfl, hpseudo, rfl⟩

/-- What a client's driver keeps, with the events behind it. -/
theorem Client.step_moves {a : PseudoDriver.Action} (hsound : PseudoDriver.Sound client.pseudo)
    (hclient : ofClient a = true) (hstep : client.step a = some client') :
    ∃ out rest kept, Conveyor.Moves client.conveyor client'.conveyor out rest kept [] ∧
      kept.Sublist rest ∧
      (PseudoDriver.Serving client.pseudo → PseudoDriver.Lossless client.pseudo a →
        client.pseudo.driver.status = .opened → kept = rest) := by
  obtain ⟨pseudo, hpseudo, rfl⟩ := Client.step_cases hstep
  have hother : ∀ event, a ≠ .deliver event := by
    rintro event rfl
    cases hclient
  obtain ⟨rest, hfront, hkept, hall⟩ := PseudoDriver.step_onWay hsound hother hpseudo
  refine ⟨carried (client.pseudo.returning a).toList, rest ++ client.inFlight.map eventBytes,
    pseudo.onWay ++ client.inFlight.map eventBytes, ⟨?_, ?_, ?_, ?_⟩, ?_, ?_⟩
  · simp [Client.conveyor, hfront]
  · simp [Client.conveyor]
  · cases client.pseudo.returning a <;> simp [Client.conveyor, carried]
  · simp [Client.conveyor]
  · exact hkept.append_right _
  · intro hserving hlossless hopened
    rw [hall hserving hlossless hopened]

/-- A delivered event stays where it is in the order, or it is dropped. -/
theorem Client.eventStep_moves (hsound : PseudoDriver.Sound client.pseudo)
    (hstep : client.eventStep = some client') :
    ∃ kept, Conveyor.Moves client.conveyor client'.conveyor [] client.conveyor.onWay kept [] ∧
      kept.Sublist client.conveyor.onWay ∧
      (client.pseudo.native.registered = true → kept = client.conveyor.onWay) := by
  obtain ⟨event, rest, pseudo, hqueue, hpseudo, rfl⟩ := Client.eventStep_cases hstep
  rcases PseudoDriver.deliver_onWay hsound hpseudo with ⟨hregistered, hway⟩ | ⟨hnot, rfl⟩
  · refine ⟨client.conveyor.onWay, ⟨rfl, ?_, ?_, ?_⟩, List.Sublist.refl _, fun _ => rfl⟩
    · simp [Client.conveyor, hqueue, hway]
    · simp [Client.conveyor]
    · simp [Client.conveyor]
  · refine ⟨client.pseudo.onWay ++ rest.map eventBytes, ⟨rfl, ?_, ?_, ?_⟩, ?_, ?_⟩
    · simp [Client.conveyor]
    · simp [Client.conveyor]
    · simp [Client.conveyor]
    · simp [Client.conveyor, hqueue]
    · intro hregistered
      rw [hnot] at hregistered
      cases hregistered

end Client

section Steps

variable {process : Message → Header → Result Unit} {s s' : State C}

theorem setClient_self (c : C) (client : Client) : (s.setClient c client).client c = client :=
  Function.update_self ..

theorem setClient_other {c d : C} (hne : d ≠ c) (client : Client) :
    (s.setClient c client).client d = s.client d :=
  Function.update_of_ne hne ..

omit [DecidableEq C] in
/-- A packet is received by the driver, or takes the daemon down. -/
theorem packetStep_cases {buf : List UInt8} (hstep : packetStep s buf = some s') :
    (∃ frame daemon, frame.bytes = buf ∧ Sessions.step s.daemon (.receive frame) = some daemon ∧
      s' = { s with daemon := daemon, received := s.received ++ [buf] }) ∨
    128 < buf.length ∧ s' = { s with up := false } := by
  unfold packetStep at hstep
  rcases Nat.lt_or_ge 128 buf.length with hlong | hfits
  · rw [CECFrame.appendAll_overflows _ _ (by simpa using hlong)] at hstep
    exact .inr ⟨hlong, (Option.some.inj hstep).symm⟩
  · obtain ⟨frame, happend, hbytes⟩ :=
      CECFrame.appendAll_extends CECFrame.empty buf (by simpa using hfits)
    rw [happend] at hstep
    obtain ⟨daemon, hdaemon, hs'⟩ := Option.map_eq_some_iff.mp hstep
    exact .inl ⟨frame, daemon, by simpa using hbytes, hdaemon, hs'.symm⟩

/-- One constructor for each way a step can turn out. -/
inductive Moves (process : Message → Header → Result Unit) (s : State C) :
    Action C → State C → Prop where
  | receives (buf : List UInt8) (frame : CECFrame) (daemon : Sessions.State CECFrame)
      (bytes : frame.bytes = buf) (step : Sessions.step s.daemon (.receive frame) = some daemon) :
      Moves process s (.packet buf) { s with daemon := daemon, received := s.received ++ [buf] }
  | escapes (buf : List UInt8) (long : 128 < buf.length) :
      Moves process s (.packet buf) { s with up := false }
  | daemon (a : Sessions.Action CECFrame) (s' : State C) (thread : ofDaemon a = true)
      (step : daemonStep process s a = some s') : Moves process s (.daemon a) s'
  | manager (call : ManagerCall) (attached : Attached)
      (step : managerStep s.attached call = some attached) :
      Moves process s (.manager call) { s with attached := attached }
  | event (c : C) (client : Client) (step : (s.client c).eventStep = some client) :
      Moves process s (.event c) (s.setClient c client)
  | client (c : C) (a : PseudoDriver.Action) (client : Client) (thread : ofClient a = true)
      (step : (s.client c).step a = some client) :
      Moves process s (.client c a) (s.setClient c client)

theorem step_moves {a : Action C} (hstep : step process s a = some s') : Moves process s a s' := by
  cases a with
  | packet buf =>
      rw [step] at hstep
      split at hstep
      · rcases packetStep_cases hstep with ⟨frame, daemon, hbytes, hdaemon, rfl⟩ | ⟨hlong, rfl⟩
        · exact .receives buf frame daemon hbytes hdaemon
        · exact .escapes buf hlong
      · cases hstep
  | daemon a =>
      rw [step] at hstep
      split at hstep
      · next hthread => exact .daemon a s' hthread.2 hstep
      · cases hstep
  | manager call =>
      rw [step] at hstep
      split at hstep
      · obtain ⟨attached, hattached, rfl⟩ := Option.map_eq_some_iff.mp hstep
        exact .manager call attached hattached
      · cases hstep
  | event c =>
      obtain ⟨client, hclient, rfl⟩ := Option.map_eq_some_iff.mp hstep
      exact .event c client hclient
  | client c a =>
      rw [step] at hstep
      split at hstep
      · next hthread =>
        obtain ⟨client, hclient, rfl⟩ := Option.map_eq_some_iff.mp hstep
        exact .client c a client hthread hclient
      · cases hstep

omit [DecidableEq C] in
/-- A packet enters behind the others. -/
theorem packet_moves {buf : List UInt8} {frame : CECFrame} (hone : s.daemon.callbacks = [])
    (hbytes : frame.bytes = buf) :
    Conveyor.Moves s.conveyor
      { s with
        daemon :=
          { s.daemon with
            received := s.daemon.received + 1
            callbacks := s.daemon.callbacks ++ [⟨⟨s.daemon.received, frame⟩, false⟩] }
        received := s.received ++ [buf] : State C }.conveyor
      [] s.conveyor.onWay s.conveyor.onWay [buf] := by
  refine ⟨rfl, ?_, ?_, rfl⟩
  · simp [State.conveyor, Sessions.State.onWay, Sessions.inCallbacks, carried, hone, hbytes]
  · simp [State.conveyor]

omit [DecidableEq C] in
/-- A step of the daemon's driver broadcasts the frame that `read` returns in it, or
broadcasts nothing. -/
theorem daemonStep_cases {a : Sessions.Action CECFrame}
    (hstep : daemonStep process s a = some s') :
    ∃ daemon, Sessions.step s.daemon a = some daemon ∧
      ((∃ receipt event, s.daemon.returning a = some receipt ∧
        s.attached.broadcasts process receipt.frame = some event ∧
        s' = State.broadcasts { s with daemon := daemon } (some event)) ∨
      ∃ up, s' = { s with daemon := daemon, up := up }) := by
  obtain ⟨daemon, hdaemon, hs'⟩ := Option.map_eq_some_iff.mp hstep
  refine ⟨daemon, hdaemon, ?_⟩
  cases hreturning : s.daemon.returning a with
  | none =>
      rw [hreturning] at hs'
      exact .inr ⟨s.up, hs'.symm⟩
  | some receipt =>
      rw [hreturning] at hs'
      dsimp only at hs'
      rw [State.readerTurn] at hs'
      cases hturn : Bus.readerTurn (s.attached.listeners process) receipt.frame with
      | error r =>
          rw [hturn] at hs'
          exact .inr ⟨false, hs'.symm⟩
      | ok _ =>
          rw [hturn] at hs'
          cases hbroadcasts : s.attached.broadcasts process receipt.frame with
          | none =>
              rw [hbroadcasts] at hs'
              exact .inr ⟨s.up, hs'.symm⟩
          | some event =>
              rw [hbroadcasts] at hs'
              exact .inl ⟨receipt, event, rfl, hbroadcasts, hs'.symm⟩

omit [DecidableEq C] in
/-- A frame that `read` returns is broadcast. -/
theorem broadcasts_moves (daemon : Sessions.State CECFrame) {event : CECMgr.EventData}
    {receipt : Sessions.Receipt CECFrame} {rest : List (Sessions.Receipt CECFrame)}
    (hbytes : eventBytes event = receipt.frame.bytes)
    (hfront : s.daemon.onWay = receipt :: rest) :
    Conveyor.Moves s.conveyor (State.broadcasts { s with daemon := daemon } (some event)).conveyor
      [eventBytes event] (carried rest) (carried daemon.onWay) [] := by
  constructor <;> simp [State.conveyor, State.broadcasts, carried, hfront, hbytes]

/-- Callbacks of the daemon begin with a packet. -/
theorem receiving_of_daemon {s : Sessions.State CECFrame} {a : Sessions.Action CECFrame}
    (hdaemon : ofDaemon a = true) : s.receiving a = none := by
  cases a with
  | receive frame => cases hdaemon
  | _ => rfl

omit [DecidableEq C] in
/-- The frames in the daemon move towards the broadcast. -/
theorem daemonStep_moves {a : Sessions.Action CECFrame} (hthread : ofDaemon a = true)
    (hone : s.daemon.callbacks.length ≤ 1) (hstep : daemonStep process s a = some s') :
    ∃ out rest kept, Conveyor.Moves s.conveyor s'.conveyor out rest kept [] ∧
      kept.Sublist rest := by
  obtain ⟨daemon, hdaemon, hcases⟩ := daemonStep_cases hstep
  obtain ⟨rest, kept, hfront, hafter, hkept, -⟩ := Sessions.step_onWay hone hdaemon
  rw [receiving_of_daemon hthread] at hafter
  -- a frame that is broadcast leaves for the clients, and any other one that `read` returns is lost
  rcases hcases with ⟨receipt, event, hreturning, hbroadcasts, rfl⟩ | ⟨up, rfl⟩
  · rw [hreturning] at hfront
    have hkept' : daemon.onWay = kept := by simpa using hafter
    refine ⟨_, _, _, broadcasts_moves daemon (broadcasts_eq_some hbroadcasts).2 hfront, ?_⟩
    rw [hkept']
    exact hkept.map _
  · refine ⟨[], carried s.daemon.onWay, carried kept, ⟨rfl, ?_, ?_, ?_⟩, ?_⟩
    · simp [State.conveyor, hafter]
    · simp [State.conveyor]
    · simp [State.conveyor]
    · refine List.Sublist.map _ (hkept.trans ?_)
      rw [hfront]
      exact List.sublist_append_right _ _

end Steps

/-! ## What holds in every run -/

/-- The conveyor of a client keeps what it was told, which was broadcast. -/
structure Client.Sound (broadcast : List CECMgr.EventData) (client : Client) : Prop where
  pseudo : PseudoDriver.Sound client.pseudo
  told : client.told.Sublist broadcast
  fits : ∀ event ∈ client.inFlight, event.length.toNat ≤ 62
  keeps : client.conveyor.Keeps

structure Sound (s : State C) : Prop where
  inOrder : Sessions.InOrder s.daemon
  keeps : s.conveyor.Keeps
  clients : ∀ c, (s.client c).Sound s.broadcast

omit [DecidableEq C] in
theorem new_sound : Sound (new C) where
  inOrder := PseudoDriver.new_inOrder
  keeps := List.Sublist.refl _
  clients _ := ⟨PseudoDriver.new_sound, List.Sublist.refl _, nofun, List.Sublist.refl _⟩

section Sound

variable {broadcast : List CECMgr.EventData} {client client' : Client}

theorem Client.Sound.hears (h : client.Sound broadcast) {event : CECMgr.EventData}
    (hfits : event.length.toNat ≤ 62) : (client.hears event).Sound (broadcast ++ [event]) := by
  by_cases hregistered : client.pseudo.native.registered = true
  · have hmoves : Conveyor.Moves client.conveyor _ [] _ _ [eventBytes event] :=
      Client.hears_moves hregistered
    have hkeeps := h.keeps.moves hmoves (List.Sublist.refl _)
    rw [Client.hears, if_pos hregistered] at hkeeps ⊢
    refine ⟨h.pseudo, h.told.append_right _, ?_, hkeeps⟩
    intro event' hmem
    rcases List.mem_append.mp hmem with hold | hnew
    · exact h.fits event' hold
    · rw [List.mem_singleton.mp hnew]
      exact hfits
  · rw [Client.hears, if_neg hregistered]
    exact ⟨h.pseudo, h.told.trans (List.sublist_append_left _ _), h.fits, h.keeps⟩

theorem Client.Sound.steps (h : client.Sound broadcast) {a : PseudoDriver.Action}
    (hclient : ofClient a = true) (hstep : client.step a = some client') :
    client'.Sound broadcast := by
  obtain ⟨out, rest, kept, hmoves, hkept, -⟩ := Client.step_moves h.pseudo hclient hstep
  have hkeeps := h.keeps.moves hmoves hkept
  obtain ⟨pseudo, hpseudo, rfl⟩ := Client.step_cases hstep
  have hok : PseudoDriver.Sequential client.pseudo a := by
    cases a with
    | deliver event => cases hclient
    | _ => trivial
  exact ⟨PseudoDriver.step_sound h.pseudo hok hpseudo, h.told, h.fits, hkeeps⟩

theorem Client.Sound.delivers (h : client.Sound broadcast)
    (hone : client.pseudo.driver.callbacks = []) (hstep : client.eventStep = some client') :
    client'.Sound broadcast := by
  obtain ⟨kept, hmoves, hkept, -⟩ := Client.eventStep_moves h.pseudo hstep
  have hkeeps := h.keeps.moves hmoves hkept
  obtain ⟨event, rest, pseudo, hqueue, hpseudo, rfl⟩ := Client.eventStep_cases hstep
  have hfits := h.fits
  rw [hqueue] at hfits
  have hok : PseudoDriver.Sequential client.pseudo (.deliver event) :=
    ⟨hone, hfits event List.mem_cons_self⟩
  exact ⟨PseudoDriver.step_sound h.pseudo hok hpseudo, h.told,
    fun event' hmem => hfits event' (List.mem_cons_of_mem _ hmem), hkeeps⟩

end Sound

/-- A change of one client. -/
theorem Sound.setClient {s : State C} (h : Sound s) {c : C} {client : Client}
    (hclient : client.Sound s.broadcast) : Sound (s.setClient c client) := by
  refine ⟨h.inOrder, h.keeps, fun d => ?_⟩
  by_cases hd : d = c
  · subst hd
    rw [setClient_self]
    exact hclient
  · rw [setClient_other hd]
    exact h.clients d

theorem step_sound {process : Message → Header → Result Unit} {s s' : State C} {a : Action C}
    (h : Sound s) (hok : Sequential s a) (hstep : step process s a = some s') : Sound s' := by
  cases step_moves hstep with
  | receives buf frame daemon hbytes hdaemon =>
      have hempty : s.daemon.callbacks = [] := hok
      have hinOrder : Sessions.InOrder daemon :=
        Sessions.step_inOrder (a := .receive frame) h.inOrder hempty hdaemon
      refine ⟨hinOrder, ?_, h.clients⟩
      cases hdaemon
      have hmoves : Conveyor.Moves s.conveyor _ [] s.conveyor.onWay s.conveyor.onWay [buf] :=
        packet_moves hempty hbytes
      exact h.keeps.moves hmoves (List.Sublist.refl _)
  | escapes buf hlong =>
      -- a packet that no frame holds takes the daemon down, and moves nothing
      exact ⟨h.inOrder, h.keeps, h.clients⟩
  | daemon a s' hthread hdaemonStep =>
      obtain ⟨out, rest, kept, hmoves, hkept⟩ :=
        daemonStep_moves hthread h.inOrder.one hdaemonStep
      have hkeeps := h.keeps.moves hmoves hkept
      obtain ⟨daemon, hdaemon, hcases⟩ := daemonStep_cases hdaemonStep
      have hinOrder := Sessions.step_inOrder h.inOrder
        (PseudoDriver.oneCallback_of_receiving (receiving_of_daemon hthread)) hdaemon
      rcases hcases with ⟨receipt, event, -, hbroadcasts, rfl⟩ | ⟨up, rfl⟩
      · exact ⟨hinOrder, hkeeps,
          fun c => (h.clients c).hears (broadcasts_eq_some hbroadcasts).1⟩
      · exact ⟨hinOrder, hkeeps, h.clients⟩
  | manager call attached => exact ⟨h.inOrder, h.keeps, h.clients⟩
  | event c client' hclient => exact h.setClient ((h.clients c).delivers hok hclient)
  | client c a client' hthread hclient =>
      exact h.setClient ((h.clients c).steps hthread hclient)

theorem reachable_sound {process : Message → Header → Result Unit} {s : State C}
    (h : (system C process).Reachable Sequential s) : Sound s := by
  refine h.invariant ?_ ?_
  · rintro s rfl
    exact new_sound
  · intro s a s' _ hs hok hstep
    exact step_sound hs hok hstep

/-- The daemon and its only client are opened, and the manager is started. -/
def opened : List (Action Unit) :=
  [.client () .driverOpen] ++ List.replicate 9 (.client () (.control (some 7))) ++
    [.daemon (.driverOpen true), .manager .connectionOpen, .manager .addFrameListener]

/-- The event of a frame goes through the handler of the only client. -/
def handled : List (Action Unit) := .event () :: List.replicate 7 (.client () .handler)

/-- The reading thread, in a call of `read` that finds a frame. -/
def readOnce (thread : Sessions.Action CECFrame → Action Unit) : List (Action Unit) :=
  [thread .read] ++ List.replicate 5 (thread .reader)

/-- A callback that has begun. -/
def calledBack (thread : Sessions.Action CECFrame → Action Unit) : List (Action Unit) :=
  [thread (.test 0), thread (.deliver 0)]

/-- A packet that the only client takes. -/
def takes (buf : List UInt8) : List (Action Unit) :=
  .packet buf :: calledBack .daemon ++ readOnce .daemon ++ handled ++
    calledBack (fun a => .client () (.thread a)) ++ readOnce (fun a => .client () (.thread a))

/-- Packets can be handled by the listener, and no step of the two drivers loses a frame; the
manager keeps its listener, the client does not close its driver, and events come to its
handler while there is a callback for them. -/
def Lossless (cec_log_level : Int) (c : C) (s : State C) : Action C → Prop
  | .packet buf => s.daemon.callbacks = [] ∧ Daemon.Handled cec_log_level buf
  | .daemon a => Sessions.Lossless s.daemon a
  | .manager call => call = .connectionOpen ∨ call = .addFrameListener
  | .event d => (s.client d).pseudo.driver.callbacks = [] ∧
      (d = c → ReceiveHandler.Safe (s.client c).pseudo.native.current)
  | .client d a => d = c → PseudoDriver.Lossless (s.client c).pseudo a

instance (cec_log_level : Int) (c : C) (s : State C) (a : Action C) :
    Decidable (Lossless cec_log_level c s a) :=
  match a with
  | .packet _ => inferInstanceAs (Decidable (_ = [] ∧ Daemon.Handled _ _))
  | .daemon _ => inferInstanceAs (Decidable (Sessions.Lossless _ _))
  | .manager _ => inferInstanceAs (Decidable (_ ∨ _))
  | .event _ => inferInstanceAs (Decidable (_ = [] ∧ (_ → _)))
  | .client _ a => inferInstanceAs (Decidable (_ → PseudoDriver.Lossless (s.client c).pseudo a))

/-- Both drivers are steady, and what the daemon has received can be handled. -/
structure Served (cec_log_level : Int) (c : C) (s : State C) : Prop where
  up : s.up = true
  sound : Sound s
  daemon : s.daemon.Steady
  serving : PseudoDriver.Serving (s.client c).pseudo
  handled : ∀ buf ∈ s.received, Daemon.Handled cec_log_level buf

/-- The daemon has its listener, and the call of `open` in the client has returned. -/
structure Hearing (c : C) (s : State C) : Prop where
  attached : s.attached = .listener
  opened : (s.client c).pseudo.driver.status = .opened

instance (c : C) (s : State C) : Decidable (Hearing c s) :=
  decidable_of_iff (s.attached = .listener ∧ (s.client c).pseudo.driver.status = .opened)
    ⟨fun ⟨attached, opened⟩ => ⟨attached, opened⟩, fun h => ⟨h.attached, h.opened⟩⟩

section Served

variable {cec_log_level : Int} {outside : Result UInt8} {c : C} {s s' : State C} {a : Action C}

omit [DecidableEq C] in
theorem Lossless.sequential (s : State C) (a : Action C) (h : Lossless cec_log_level c s a) :
    Sequential s a := by
  cases a with
  | packet buf => exact h.1
  | event d => exact h.1
  | _ => trivial

omit [DecidableEq C] in
theorem new_served (cec_log_level : Int) (c : C) : Served cec_log_level c (new C) where
  up := rfl
  sound := new_sound
  daemon := Sessions.new_steady
  serving := PseudoDriver.new_serving
  handled := nofun

omit [DecidableEq C] in
/-- The frame that `read` returns in the daemon was a packet. -/
theorem Served.returning_handled (h : Served cec_log_level c s) {a : Sessions.Action CECFrame}
    {receipt : Sessions.Receipt CECFrame} (hreturning : s.daemon.returning a = some receipt) :
    Daemon.Handled cec_log_level receipt.frame.bytes := by
  have hway : receipt.frame.bytes ∈ s.conveyor.onWay :=
    List.mem_map.mpr ⟨receipt, Sessions.returning_mem hreturning, rfl⟩
  exact h.handled _ (h.sound.keeps.onWay_sublist.subset hway)

omit [DecidableEq C] in
/-- A step of the daemon's driver broadcasts the frame that `read` returns in it, if the
listener is attached. -/
theorem Served.daemonStep_cases (h : Served cec_log_level c s) {a : Sessions.Action CECFrame}
    (hstep : daemonStep (MessageProcessor.processAt outside cec_log_level) s a = some s') :
    ∃ daemon, Sessions.step s.daemon a = some daemon ∧
      s' = State.broadcasts { s with daemon := daemon }
        ((s.daemon.returning a).bind fun receipt =>
          if s.attached = .listener then
            some (CecIARMMgrFrameListener.dataRcvd receipt.frame)
          else
            none) := by
  obtain ⟨daemon, hdaemon, hs'⟩ := Option.map_eq_some_iff.mp hstep
  refine ⟨daemon, hdaemon, ?_⟩
  cases hreturning : s.daemon.returning a with
  | none =>
      rw [hreturning] at hs'
      exact hs'.symm
  | some receipt =>
      rw [hreturning] at hs'
      dsimp only at hs'
      rw [readerTurn_handled (h.returning_handled hreturning)] at hs'
      exact hs'.symm

omit [DecidableEq C] in
/-- A broadcast changes no driver. -/
theorem broadcasts_frame (s : State C) (event : Option CECMgr.EventData) :
    (s.broadcasts event).up = s.up ∧ (s.broadcasts event).daemon = s.daemon ∧
      (s.broadcasts event).attached = s.attached ∧ (s.broadcasts event).received = s.received ∧
      ((s.broadcasts event).client c).pseudo = (s.client c).pseudo := by
  cases event with
  | none => exact ⟨rfl, rfl, rfl, rfl, rfl⟩
  | some event => exact ⟨rfl, rfl, rfl, rfl, Client.hears_pseudo _ _⟩

/-! ### One step -/

/-- What a step is for the client's driver. -/
theorem step_pseudo {process : Message → Header → Result Unit}
    (hstep : step process s a = some s') :
    (s'.client c).pseudo = (s.client c).pseudo ∨
      ∃ a', PseudoDriver.step (s.client c).pseudo a' = some (s'.client c).pseudo ∧
        ∀ cec_log_level, Lossless cec_log_level c s a →
          PseudoDriver.Lossless (s.client c).pseudo a' := by
  cases step_moves hstep with
  | receives | escapes | manager => exact .inl rfl
  | daemon a s' hthread hdaemonStep =>
      obtain ⟨daemon, -, ⟨receipt, event, -, -, rfl⟩ | ⟨up, rfl⟩⟩ := daemonStep_cases hdaemonStep
      · exact .inl (Client.hears_pseudo _ _)
      · exact .inl rfl
  | event d client' hclient =>
      by_cases hd : c = d
      · subst hd
        rw [setClient_self]
        obtain ⟨event, rest, pseudo, -, hpseudo, rfl⟩ := Client.eventStep_cases hclient
        exact .inr ⟨.deliver event, hpseudo, fun _ hok => hok.2 rfl⟩
      · rw [setClient_other hd]
        exact .inl rfl
  | client d a client' hthread hclient =>
      by_cases hd : c = d
      · subst hd
        rw [setClient_self]
        obtain ⟨pseudo, hpseudo, rfl⟩ := Client.step_cases hclient
        exact .inr ⟨a, hpseudo, fun _ hok => hok rfl⟩
      · rw [setClient_other hd]
        exact .inl rfl

/-- What a step is for the daemon's driver. -/
theorem Served.step_daemon (h : Served cec_log_level c s) (hok : Lossless cec_log_level c s a)
    (hstep : step (MessageProcessor.processAt outside cec_log_level) s a = some s') :
    s'.daemon = s.daemon ∨
      ∃ a', Sessions.Lossless s.daemon a' ∧ Sessions.step s.daemon a' = some s'.daemon := by
  cases step_moves hstep with
  | receives buf frame daemon hbytes hdaemon => exact .inr ⟨.receive frame, trivial, hdaemon⟩
  | daemon a s' hthread hdaemonStep =>
      obtain ⟨daemon, hdaemon, rfl⟩ := h.daemonStep_cases hdaemonStep
      refine .inr ⟨a, hok, ?_⟩
      rw [(broadcasts_frame (c := c) { s with daemon := daemon } _).2.1]
      exact hdaemon
  | escapes | manager | event | client => exact .inl rfl

/-- Neither an exception nor a packet that cannot be handled comes of a step. -/
theorem Served.step_up (h : Served cec_log_level c s) (hok : Lossless cec_log_level c s a)
    (hstep : step (MessageProcessor.processAt outside cec_log_level) s a = some s') :
    s'.up = true ∧ ∀ buf ∈ s'.received, Daemon.Handled cec_log_level buf := by
  cases step_moves hstep with
  | receives buf frame daemon hbytes hdaemon =>
      refine ⟨h.up, fun buf' hmem => ?_⟩
      rcases List.mem_append.mp hmem with hold | hnew
      · exact h.handled buf' hold
      · rw [List.mem_singleton.mp hnew]
        exact hok.2
  | escapes buf hlong =>
      have hfits := hok.2.fits
      omega
  | daemon a s' hthread hdaemonStep =>
      obtain ⟨daemon, -, rfl⟩ := h.daemonStep_cases hdaemonStep
      obtain ⟨hup, -, -, hreceived, -⟩ :=
        broadcasts_frame (c := c) { s with daemon := daemon } _
      rw [hup, hreceived]
      exact ⟨h.up, h.handled⟩
  | manager | event | client => exact ⟨h.up, h.handled⟩

theorem step_served (h : Served cec_log_level c s) (hok : Lossless cec_log_level c s a)
    (hstep : step (MessageProcessor.processAt outside cec_log_level) s a = some s') :
    Served cec_log_level c s' := by
  obtain ⟨hup, hhandled⟩ := h.step_up hok hstep
  refine ⟨hup, step_sound h.sound (hok.sequential s a) hstep, ?_, ?_, hhandled⟩
  · rcases h.step_daemon hok hstep with hsame | ⟨a', hok', hdaemon⟩
    · rw [hsame]
      exact h.daemon
    · exact Sessions.step_steady h.daemon hok' hdaemon
  · rcases step_pseudo hstep with hsame | ⟨a', hpseudo, hok'⟩
    · rw [hsame]
      exact h.serving
    · exact PseudoDriver.step_serving h.serving (hok' _ hok) hpseudo

/-- The listener stays attached, and the client open. -/
theorem Served.step_hearing (h : Served cec_log_level c s) (hhearing : Hearing c s)
    (hok : Lossless cec_log_level c s a)
    (hstep : step (MessageProcessor.processAt outside cec_log_level) s a = some s') :
    Hearing c s' := by
  refine ⟨?_, ?_⟩
  · cases step_moves hstep with
    | daemon a s' hthread hdaemonStep =>
        obtain ⟨daemon, -, rfl⟩ := h.daemonStep_cases hdaemonStep
        rw [(broadcasts_frame (c := c) { s with daemon := daemon } _).2.2.1]
        exact hhearing.attached
    | manager call attached hattached =>
        -- with the listener attached, `start` has nothing left to do
        rw [hhearing.attached] at hattached
        rcases hok with rfl | rfl <;> cases hattached
    | receives | escapes | event | client => exact hhearing.attached
  · rcases step_pseudo hstep with hsame | ⟨a', hpseudo, hok'⟩
    · rw [hsame]
      exact hhearing.opened
    · exact PseudoDriver.step_opened h.serving (hok' _ hok) hhearing.opened hpseudo

omit [DecidableEq C] in
/-- A frame goes from the daemon's driver to the broadcast and to the client at once. -/
theorem Served.daemon_passes (h : Served cec_log_level c s) (hhearing : Hearing c s)
    {a : Sessions.Action CECFrame} (hthread : ofDaemon a = true)
    (hok : Sessions.Lossless s.daemon a)
    (hstep : daemonStep (MessageProcessor.processAt outside cec_log_level) s a = some s') :
    (s.conveyorTo c).Passes (s'.conveyorTo c) := by
  obtain ⟨daemon, hdaemon, rfl⟩ := h.daemonStep_cases hstep
  obtain ⟨rest, kept, hfront, hafter, -, hall⟩ :=
    Sessions.step_onWay h.sound.inOrder.one hdaemon
  rw [receiving_of_daemon hthread, hall h.daemon hok] at hafter
  have hafter' : daemon.onWay = rest := by simpa using hafter
  cases hreturning : s.daemon.returning a with
  | none =>
      -- without a return the frames keep their places
      have hway : daemon.onWay = s.daemon.onWay := by
        rw [hfront, hreturning, hafter']
        rfl
      have hconveyor : { s with daemon := daemon }.conveyor = s.conveyor := by
        rw [State.conveyor, State.conveyor, hway]
      show (s.conveyor.series _).Passes ({ s with daemon := daemon }.conveyor.series _)
      rw [hconveyor]
      exact .refl _
  | some receipt =>
      -- the frame leaves the daemon and enters the client in the same step
      have hfits := (h.returning_handled hreturning).fits
      rw [CECFrame.bytes_length] at hfits
      have hbytes := (PseudoDriver.eventBytes_dataRcvd hfits).2
      rw [hreturning] at hfront
      have hmoves := broadcasts_moves daemon hbytes hfront
      rw [hafter'] at hmoves
      rw [Option.bind_some, if_pos hhearing.attached]
      have hregistered := (h.serving.hears hhearing.opened).1
      exact (hmoves.series (Client.hears_moves hregistered)).passes

/-- One step that loses nothing. -/
theorem Served.step_passes (h : Served cec_log_level c s) (hhearing : Hearing c s)
    (hok : Lossless cec_log_level c s a)
    (hstep : step (MessageProcessor.processAt outside cec_log_level) s a = some s') :
    (s.conveyorTo c).Passes (s'.conveyorTo c) := by
  cases step_moves hstep with
  | receives buf frame daemon hbytes hdaemon =>
      cases hdaemon
      exact ((packet_moves hok.1 hbytes).series (.none _)).passes
  | escapes buf hlong =>
      have hfits := hok.2.fits
      omega
  | daemon a s' hthread hdaemonStep => exact h.daemon_passes hhearing hthread hok hdaemonStep
  | manager call attached => exact .refl _
  | event d client' hclient =>
      by_cases hd : c = d
      · subst hd
        obtain ⟨kept, hmoves, -, hall⟩ :=
          Client.eventStep_moves (h.sound.clients c).pseudo hclient
        -- a handler that is registered gets every event
        rw [hall (h.serving.hears hhearing.opened).1] at hmoves
        rw [State.conveyorTo, State.conveyorTo, setClient_self]
        exact (Conveyor.Moves.series (.none s.conveyor) hmoves).passes
      · rw [State.conveyorTo, State.conveyorTo, setClient_other hd]
        exact .refl _
  | client d a client' hthread hclient =>
      by_cases hd : c = d
      · subst hd
        obtain ⟨out, rest, kept, hmoves, -, hall⟩ :=
          Client.step_moves (h.sound.clients c).pseudo hthread hclient
        rw [hall h.serving (hok rfl) hhearing.opened] at hmoves
        rw [State.conveyorTo, State.conveyorTo, setClient_self]
        exact (Conveyor.Moves.series (.none s.conveyor) hmoves).passes
      · rw [State.conveyorTo, State.conveyorTo, setClient_other hd]
        exact .refl _

end Served

/-! ### Runs -/

section Runs

variable {cec_log_level : Int} {outside : Result UInt8} {c : C} {s t : State C}

theorem reachable_served
    (h : (system C (MessageProcessor.processAt outside cec_log_level)).Reachable
      (Lossless cec_log_level c) s) : Served cec_log_level c s := by
  refine h.invariant ?_ ?_
  · rintro s rfl
    exact new_served cec_log_level c
  · intro s a s' _ hs hok hstep
    exact step_served hs hok hstep

theorem Served.leads (h : Served cec_log_level c t) (hhearing : Hearing c t)
    (hrun : (system C (MessageProcessor.processAt outside cec_log_level)).Leads
      (Lossless cec_log_level c) t s) :
    Served cec_log_level c s ∧ Hearing c s ∧ (t.conveyorTo c).Passes (s.conveyorTo c) := by
  refine hrun.invariant
    (I := fun s => Served cec_log_level c s ∧ Hearing c s ∧
      (t.conveyorTo c).Passes (s.conveyorTo c)) ?_ ⟨h, hhearing, .refl _⟩
  rintro s a s' - ⟨hs, hhears, hpasses⟩ hok hstep
  exact ⟨step_served hs hok hstep, hs.step_hearing hhears hok hstep,
    hpasses.trans (hs.step_passes hhears hok hstep)⟩

end Runs

end Distribution

end HdmiCec
