import HdmiCec.DevMgr.DeviceManager
import HdmiCec.Bus.SendPaths

/-!
# The power callback during the start-up

`main` of the device manager registers `CECHost_PowerStateCallback_` with
`CECHost_SetCallback`.  From then on the host plugin calls it for every change of the power
mode, on the thread that delivers the events, while `main` goes on: it asks for the
connection and for the power state, initializes the library, constructs its `Connection`
and only then stores the address of it in `conn_`, through which the callback sends.

Both threads are modelled statement by statement, so an event may fall between any two
statements of `main`, and `main` may go on between any two statements of the callback.
-/

namespace HdmiCec

namespace PowerCallback

open DeviceManager (Answer AddressBytes DevMgr hdmiConnected hdmiDisconnected)

/-- `CECHost_POWERSTATE_ON`. -/
def powerStateOn : Int := 0

/-- `CECHost_POWERSTATE_STANDBY`. -/
def powerStateStandby : Int := 1

/-- What `_powerEventHandler` makes of a state of the power manager, which it only compares
with `IARM_BUS_PWRMGR_POWERSTATE_ON`. -/
def hostState (isOn : Bool) : Int := if isOn then powerStateOn else powerStateStandby

/-- `LogicalAddress::TV`. -/
def tv : LogicalAddress := CECBytes.ofByte 0

/-- `LogicalAddress::TUNER_1`. -/
def tuner1 : LogicalAddress := CECBytes.ofByte 3

/-! ## The two threads -/

/-- The next statement of `main`. -/
inductive MainPc where
  | setCallback
  | isHdmiOutputConnected
  | getHdmiOuputPhysicalAddress
  | getPowerState
  -- `LibCCEC::init`
  | driverOpen
  | busStart
  | initialized
  /-- `Connection conn(LogicalAddress::TUNER_1, false, …)` -/
  | construct
  /-- `conn_ = &conn` -/
  | assignConn
  | connectionOpen
  | addFrameListener
  /-- The loop, which does not end. -/
  | heartbeat
  /-- An exception has left `main`. -/
  | terminated
  deriving DecidableEq

/-- `main` has stored the address of its connection. -/
def MainPc.assigned : MainPc → Bool
  | .connectionOpen | .addFrameListener | .heartbeat => true
  | _ => false

/-- The bus has been started. -/
def MainPc.busStarted : MainPc → Bool
  | .initialized | .construct | .assignConn | .connectionOpen | .addFrameListener
  | .heartbeat => true
  | _ => false

/-- Where the thread of the events is in `CECHost_PowerStateCallback_(curState, newState)`.
`curState` is not looked at there. -/
inductive EventPc where
  /-- No callback is under way. -/
  | idle
  /-- The branch on `newState` and the first send come next. -/
  | called (newState : Int)
  /-- <Image View On> has been sent. -/
  | viewOnSent (newState : Int)
  /-- `powerState = newState` comes next. -/
  | sent (newState : Int)
  | stored (newState : Int)
  deriving DecidableEq

/-- The process: `pwrStateCb` is whether the second entry of the plugin's `hostCb` is set,
and `none` is a null pointer in `conn_`.  `returned` is the `newState` of the last callback
that has returned, and `failure` how a callback has ended otherwise. -/
structure State where
  main : MainPc
  event : EventPc
  devMgr : DevMgr
  pwrStateCb : Bool
  conn_ : Option Connection
  driver : DriverImpl
  started : Bool
  initialized : Bool
  wQueue : BoundedFifo (Option CECFrame)
  returned : Option Int
  failure : Option Abrupt

/-- A statement of `main`, with what the plugin or the native driver answers. -/
inductive MainAction where
  | setCallback
  | isHdmiOutputConnected (connected : Answer Int)
  | getHdmiOuputPhysicalAddress (address : Answer AddressBytes)
  | getPowerState (state : Answer Int)
  | driverOpen (hdmiCecOpen : Bool)
  | busStart (hdmiCecOpen : Bool)
  | initialized
  | construct
  | assignConn
  | connectionOpen
  | addFrameListener

/-- A change of the power mode, or a statement of the callback; `answers i` is the native
driver when `Driver::write` is called for the `i`-th time. -/
inductive EventAction where
  | powerEvent (newOn : Bool)
  | firstSend (answers : Nat → HdmiCecTx)
  | secondSend (answers : Nat → HdmiCecTx)
  | store
  | callbackReturns

inductive Action where
  | main (a : MainAction)
  | event (a : EventAction)
  /-- The reader and the writer of the bus, which change the two queues. -/
  | busThreads (rQueue wQueue : BoundedFifo (Option CECFrame))

/-! ## `main` -/

/-- `Driver::open`; what it throws leaves `main`. -/
def State.openDriver (s : State) (hdmiCecOpen : Bool) (next : State → State) : State :=
  match s.driver.driverOpen hdmiCecOpen with
  | (driver, .ok ()) => next { s with driver := driver }
  | (driver, .error _) => { s with driver := driver, main := .terminated }

/-- `main` goes on from one statement to the next. -/
def State.whenMain (s : State) (pc : MainPc) (next : State) : Option State :=
  if s.main = pc then some next else none

def mainStep (s : State) : MainAction → Option State
  | .setCallback =>
      s.whenMain .setCallback { s with main := .isHdmiOutputConnected, pwrStateCb := true }
  | .isHdmiOutputConnected (.ok connected) =>
      s.whenMain .isHdmiOutputConnected { s with
        main := .getHdmiOuputPhysicalAddress
        devMgr := { s.devMgr with
          isConnected := if connected ≠ 0 then hdmiConnected else hdmiDisconnected } }
  | .isHdmiOutputConnected (.error _) =>
      s.whenMain .isHdmiOutputConnected { s with main := .getPowerState }
  | .getHdmiOuputPhysicalAddress (.ok bytes) =>
      s.whenMain .getHdmiOuputPhysicalAddress { s with
        main := .getPowerState
        devMgr := { s.devMgr with phy := bytes.physicalAddress } }
  | .getHdmiOuputPhysicalAddress (.error _) =>
      s.whenMain .getHdmiOuputPhysicalAddress { s with main := .getPowerState }
  | .getPowerState (.ok state) =>
      s.whenMain .getPowerState { s with
        main := .driverOpen
        devMgr := { s.devMgr with powerState := state } }
  | .getPowerState (.error _) => s.whenMain .getPowerState { s with main := .driverOpen }
  | .driverOpen hdmiCecOpen =>
      s.whenMain .driverOpen
        (s.openDriver hdmiCecOpen fun s => { s with main := .busStart })
  | .busStart hdmiCecOpen =>
      s.whenMain .busStart
        (s.openDriver hdmiCecOpen fun s => { s with main := .initialized, started := true })
  | .initialized => s.whenMain .initialized { s with main := .construct, initialized := true }
  | .construct => s.whenMain .construct { s with main := .assignConn }
  | .assignConn =>
      s.whenMain .assignConn { s with
        main := .connectionOpen
        conn_ := some (Connection.ofSource tuner1) }
  | .connectionOpen => s.whenMain .connectionOpen { s with main := .addFrameListener }
  | .addFrameListener => s.whenMain .addFrameListener { s with main := .heartbeat }

/-! ## The callback -/

/-- A call through the pointer; one through a null pointer is undefined. -/
def deref : Option Connection → Result Connection
  | some connection => .ok connection
  | none => .error .undefined

/-- `conn_->sendTo(LogicalAddress::TV, MessageEncoder().encode(m), 5000)`. -/
def connSendTo (s : State) (answers : Nat → HdmiCecTx) (m : Message) : Result Unit := do
  let frame ← MessageEncoder.encodeBlock m CECFrame.empty
  let conn ← deref s.conn_
  let busSend := Bus.syncSend s.started (fun i frame => s.driver.write (answers i) frame) 5000
  (SendPaths.sendTo conn s.driver busSend tv frame).outcome

/-- `conn_->sendToAsync(LogicalAddress::TV, MessageEncoder().encode(m))`, with the write
queue behind it. -/
def connSendToAsync (s : State) (m : Message) :
    Result (BoundedFifo (Option CECFrame)) := do
  let frame ← MessageEncoder.encodeBlock m CECFrame.empty
  let conn ← deref s.conn_
  let call := SendPaths.sendToAsync conn s.driver s.started s.wQueue tv frame
  call.outcome
  return call.wQueue

/-- The branch on `newState` with the first send. -/
def firstSend (s : State) (newState : Int) (answers : Nat → HdmiCecTx) : State :=
  if newState = powerStateOn then
    match connSendTo s answers .imageViewOn with
    | .ok () => { s with event := .viewOnSent newState }
    | .error r => { s with failure := some r }
  else
    match connSendToAsync s (.inActiveSource s.devMgr.phy) with
    | .ok wQueue => { s with event := .sent newState, wQueue := wQueue }
    | .error r => { s with failure := some r }

/-- The second send of the branch for `CECHost_POWERSTATE_ON`. -/
def secondSend (s : State) (newState : Int) (answers : Nat → HdmiCecTx) : State :=
  match connSendTo s answers (.activeSource s.devMgr.phy) with
  | .ok () => { s with event := .sent newState }
  | .error r => { s with failure := some r }

/-- `_powerEventHandler` and `CECHost_PowerStateCallback_`. -/
def eventStep (s : State) : EventAction → Option State
  | .powerEvent newOn =>
      match s.event with
      | .idle => some (if s.pwrStateCb then { s with event := .called (hostState newOn) } else s)
      | _ => none
  | .firstSend answers =>
      match s.event with
      | .called newState => some (firstSend s newState answers)
      | _ => none
  | .secondSend answers =>
      match s.event with
      | .viewOnSent newState => some (secondSend s newState answers)
      | _ => none
  | .store =>
      match s.event with
      | .sent newState =>
          some { s with
            event := .stored newState
            devMgr := { s.devMgr with powerState := newState } }
      | _ => none
  | .callbackReturns =>
      match s.event with
      | .stored newState => some { s with event := .idle, returned := some newState }
      | _ => none

/-! ## The process -/

/-- Neither thread has brought the process to an end. -/
def State.alive (s : State) : Bool := s.failure.isNone && s.main ≠ .terminated

def step (s : State) (a : Action) : Option State :=
  if s.alive then
    match a with
    | .main a => mainStep s a
    | .event a => eventStep s a
    | .busThreads rQueue wQueue =>
        some { s with driver := { s.driver with rQueue := rQueue }, wQueue := wQueue }
  else
    none

/-- `main` behind `CECHost_Init`. -/
def new : State where
  main := .setCallback
  event := .idle
  devMgr := DeviceManager.new.devMgr
  pwrStateCb := false
  conn_ := none
  driver := { status := .closed, rQueue := .empty 32, logicalAddresses := [] }
  started := false
  initialized := false
  wQueue := .empty 32
  returned := none
  failure := none

def system : StepSystem State Action where
  initial s := s = new
  step := step

/-- No callback has called through a null pointer or let an exception out, and between the
callbacks `powerState` is the state that the last one was given. -/
structure Safe (s : State) : Prop where
  noFailure : s.failure = none
  cached : s.event = .idle → ∀ newState, s.returned = some newState →
    s.devMgr.powerState = newState

/-- The callback comes to its first send behind `conn_ = &conn`. -/
def ConnAssigned (s : State) : Action → Prop
  | .event (.firstSend _) => s.main.assigned = true
  | _ => True

instance (s : State) (a : Action) : Decidable (ConnAssigned s a) :=
  match a with
  | .event (.firstSend _) => inferInstanceAs (Decidable (s.main.assigned = true))
  | .event (.powerEvent _) | .event (.secondSend _) | .event .store
  | .event .callbackReturns | .main _ | .busThreads _ _ => inferInstanceAs (Decidable True)

/-! ## What the sends come to -/

/-- A message with complete operands leaves room for the header. -/
theorem encodeBlock_fits {m : Message} (hm : m.WellFormed) :
    ∃ frame, MessageEncoder.encodeBlock m CECFrame.empty = .ok frame ∧ frame.length < 128 := by
  obtain ⟨full, hencode, -⟩ := MessageEncoder.encode_bytes 3 0 hm
  obtain ⟨frame, hframe, hbytes⟩ := MessageEncoder.encode_block hencode
  refine ⟨frame, hframe, ?_⟩
  have hle := full.length_le
  rw [← CECFrame.bytes_length, hbytes, List.length_cons, CECFrame.bytes_length] at hle
  omega

section Sends

variable {s : State} {m : Message}

theorem connSendTo_returns (hconn : s.conn_ = some (Connection.ofSource tuner1))
    (hm : m.WellFormed) (answers : Nat → HdmiCecTx) : connSendTo s answers m = .ok () := by
  obtain ⟨frame, hframe, hroom⟩ := encodeBlock_fits hm
  rw [connSendTo, hframe, Result.ok_bind, hconn]
  exact SendPaths.sendTo_returns rfl s.driver s.started answers 5000 hroom

theorem connSendToAsync_returns (hconn : s.conn_ = some (Connection.ofSource tuner1))
    (hstarted : s.started = true) (hm : m.WellFormed) :
    ∃ wQueue, connSendToAsync s m = .ok wQueue := by
  obtain ⟨frame, hframe, hroom⟩ := encodeBlock_fits hm
  have hreturns : (SendPaths.sendToAsync (Connection.ofSource tuner1) s.driver true
      s.wQueue tv frame).outcome = .ok () :=
    SendPaths.sendToAsync_returns rfl s.driver s.wQueue hroom
  rw [connSendToAsync, hframe, Result.ok_bind, hconn, hstarted, deref, Result.ok_bind]
  dsimp only
  rw [hreturns]
  exact ⟨_, rfl⟩

/-- Through a null pointer neither branch sends anything. -/
theorem firstSend_null (hconn : s.conn_ = none) (hphy : s.devMgr.phy.str.length = 2)
    (newState : Int) (answers : Nat → HdmiCecTx) :
    firstSend s newState answers = { s with failure := some .undefined } := by
  rw [firstSend]
  split
  · obtain ⟨frame, hframe, -⟩ := encodeBlock_fits (m := .imageViewOn) trivial
    rw [connSendTo, hframe, Result.ok_bind, hconn]
    rfl
  · obtain ⟨frame, hframe, -⟩ := encodeBlock_fits (m := .inActiveSource s.devMgr.phy) hphy
    rw [connSendToAsync, hframe, Result.ok_bind, hconn]
    rfl

end Sends

/-! ## `main` on its own -/

theorem whenMain_eq_some {s next s' : State} {pc : MainPc} :
    s.whenMain pc next = some s' ↔ s.main = pc ∧ next = s' := by
  rw [State.whenMain]
  by_cases hpc : s.main = pc
  · rw [if_pos hpc, Option.some.injEq]
    exact ⟨fun h => ⟨hpc, h⟩, fun h => h.2⟩
  · rw [if_neg hpc]
    exact iff_of_false nofun fun h => hpc h.1

theorem openDriver_cases (s : State) (hdmiCecOpen : Bool) (next : State → State) :
    ∃ driver, s.openDriver hdmiCecOpen next = next { s with driver := driver } ∨
      s.openDriver hdmiCecOpen next = { s with driver := driver, main := .terminated } := by
  rw [State.openDriver]
  rcases s.driver.driverOpen hdmiCecOpen with ⟨driver, outcome⟩
  refine ⟨driver, ?_⟩
  cases outcome with
  | ok _ => exact .inl rfl
  | error r => exact .inr rfl

/-- What `main` has set up, in every run. -/
structure MainInv (s : State) : Prop where
  conn : s.main.assigned = true → s.conn_ = some (Connection.ofSource tuner1)
  null : s.main.assigned = false → s.conn_ = none
  started : s.main.busStarted = true → s.started = true
  phy : s.devMgr.phy.str.length = 2

/-- A step on the same side of the assignment. -/
theorem MainInv.next {s s' : State} (h : MainInv s) (hconn : s'.conn_ = s.conn_)
    (hassigned : s'.main.assigned = s.main.assigned)
    (hstarted : s'.main.busStarted = true → s'.started = true)
    (hphy : s'.devMgr.phy.str.length = 2) : MainInv s' := by
  refine ⟨?_, ?_, hstarted, hphy⟩
  · rw [hassigned, hconn]
    exact h.conn
  · rw [hassigned, hconn]
    exact h.null

theorem mainStep_inv {s s' : State} {a : MainAction} (h : MainInv s)
    (hstep : mainStep s a = some s') : MainInv s' := by
  cases a with
  | setCallback =>
      obtain ⟨hpc, rfl⟩ := whenMain_eq_some.mp hstep
      exact h.next rfl (by rw [hpc]; rfl) nofun h.phy
  | isHdmiOutputConnected connected =>
      cases connected <;> obtain ⟨hpc, rfl⟩ := whenMain_eq_some.mp hstep <;>
        exact h.next rfl (by rw [hpc]; rfl) nofun h.phy
  | getHdmiOuputPhysicalAddress address =>
      cases address with
      | ok bytes =>
          obtain ⟨hpc, rfl⟩ := whenMain_eq_some.mp hstep
          exact h.next rfl (by rw [hpc]; rfl) nofun rfl
      | error e =>
          obtain ⟨hpc, rfl⟩ := whenMain_eq_some.mp hstep
          exact h.next rfl (by rw [hpc]; rfl) nofun h.phy
  | getPowerState state =>
      cases state <;> obtain ⟨hpc, rfl⟩ := whenMain_eq_some.mp hstep <;>
        exact h.next rfl (by rw [hpc]; rfl) nofun h.phy
  | driverOpen hdmiCecOpen =>
      obtain ⟨hpc, rfl⟩ := whenMain_eq_some.mp hstep
      obtain ⟨driver, heq | heq⟩ := openDriver_cases s hdmiCecOpen fun s =>
        { s with main := .busStart }
      all_goals
        rw [heq]
        exact h.next rfl (by rw [hpc]; rfl) nofun h.phy
  | busStart hdmiCecOpen =>
      obtain ⟨hpc, rfl⟩ := whenMain_eq_some.mp hstep
      obtain ⟨driver, heq | heq⟩ := openDriver_cases s hdmiCecOpen fun s =>
        { s with main := .initialized, started := true }
      · rw [heq]
        exact h.next rfl (by rw [hpc]; rfl) (fun _ => rfl) h.phy
      · rw [heq]
        exact h.next rfl (by rw [hpc]; rfl) nofun h.phy
  | assignConn =>
      obtain ⟨hpc, rfl⟩ := whenMain_eq_some.mp hstep
      exact ⟨fun _ => rfl, nofun, fun _ => h.started (by rw [hpc]; rfl), h.phy⟩
  | initialized | construct | connectionOpen | addFrameListener =>
      obtain ⟨hpc, rfl⟩ := whenMain_eq_some.mp hstep
      exact h.next rfl (by rw [hpc]; rfl) (fun _ => h.started (by rw [hpc]; rfl)) h.phy

/-- What a statement of `main` leaves alone: all that belongs to the other thread, and
behind the assignment also the variables of the device manager. -/
structure LeavesAlone (s s' : State) : Prop where
  event : s'.event = s.event
  returned : s'.returned = s.returned
  failure : s'.failure = s.failure
  assigned : s.main.assigned = true → s'.main.assigned = true ∧ s'.devMgr = s.devMgr

theorem mainStep_leavesAlone {s s' : State} {a : MainAction} (hstep : mainStep s a = some s') :
    LeavesAlone s s' := by
  have hbefore : ∀ {pc : MainPc}, s.main = pc → pc.assigned = false →
      s.main.assigned = true → s'.main.assigned = true ∧ s'.devMgr = s.devMgr := by
    intro pc hpc hfalse htrue
    rw [hpc, hfalse] at htrue
    cases htrue
  cases a with
  | isHdmiOutputConnected answer | getHdmiOuputPhysicalAddress answer | getPowerState answer =>
      cases answer <;> obtain ⟨hpc, rfl⟩ := whenMain_eq_some.mp hstep <;>
        exact ⟨rfl, rfl, rfl, hbefore hpc rfl⟩
  | driverOpen hdmiCecOpen =>
      obtain ⟨hpc, hnext⟩ := whenMain_eq_some.mp hstep
      obtain ⟨driver, heq | heq⟩ := openDriver_cases s hdmiCecOpen fun s =>
        { s with main := .busStart }
      all_goals
        rw [heq] at hnext
        cases hnext
        exact ⟨rfl, rfl, rfl, hbefore hpc rfl⟩
  | busStart hdmiCecOpen =>
      obtain ⟨hpc, hnext⟩ := whenMain_eq_some.mp hstep
      obtain ⟨driver, heq | heq⟩ := openDriver_cases s hdmiCecOpen fun s =>
        { s with main := .initialized, started := true }
      all_goals
        rw [heq] at hnext
        cases hnext
        exact ⟨rfl, rfl, rfl, hbefore hpc rfl⟩
  | connectionOpen | addFrameListener =>
      obtain ⟨hpc, rfl⟩ := whenMain_eq_some.mp hstep
      exact ⟨rfl, rfl, rfl, fun _ => ⟨rfl, rfl⟩⟩
  | setCallback | initialized | construct | assignConn =>
      obtain ⟨hpc, rfl⟩ := whenMain_eq_some.mp hstep
      exact ⟨rfl, rfl, rfl, hbefore hpc rfl⟩

/-! ## The callback on its own -/

/-- What a step of the thread of the events can do. -/
inductive EventMove (s : State) : EventAction → State → Prop where
  | ignored {newOn : Bool} (hidle : s.event = .idle) (hunset : ¬ s.pwrStateCb = true) :
      EventMove s (.powerEvent newOn) s
  | called {newOn : Bool} (hidle : s.event = .idle) (hset : s.pwrStateCb = true) :
      EventMove s (.powerEvent newOn) { s with event := .called (hostState newOn) }
  | firstSend {answers : Nat → HdmiCecTx} {newState : Int} (hevent : s.event = .called newState) :
      EventMove s (.firstSend answers) (firstSend s newState answers)
  | secondSend {answers : Nat → HdmiCecTx} {newState : Int}
      (hevent : s.event = .viewOnSent newState) :
      EventMove s (.secondSend answers) (secondSend s newState answers)
  | store {newState : Int} (hevent : s.event = .sent newState) :
      EventMove s .store { s with
        event := .stored newState
        devMgr := { s.devMgr with powerState := newState } }
  | callbackReturns {newState : Int} (hevent : s.event = .stored newState) :
      EventMove s .callbackReturns { s with event := .idle, returned := some newState }

theorem eventStep_moves {s s' : State} {a : EventAction} (hstep : eventStep s a = some s') :
    EventMove s a s' := by
  cases a with
  | powerEvent newOn =>
      simp only [eventStep] at hstep
      split at hstep
      · next hidle =>
        cases hstep
        split
        · next hset => exact .called hidle hset
        · next hunset => exact .ignored hidle hunset
      · cases hstep
  | firstSend answers =>
      simp only [eventStep] at hstep
      split at hstep
      · next hevent =>
        cases hstep
        exact .firstSend hevent
      · cases hstep
  | secondSend answers =>
      simp only [eventStep] at hstep
      split at hstep
      · next hevent =>
        cases hstep
        exact .secondSend hevent
      · cases hstep
  | store =>
      simp only [eventStep] at hstep
      split at hstep
      · next hevent =>
        cases hstep
        exact .store hevent
      · cases hstep
  | callbackReturns =>
      simp only [eventStep] at hstep
      split at hstep
      · next hevent =>
        cases hstep
        exact .callbackReturns hevent
      · cases hstep

/-- An event step leaves `main` and what it has set up alone. -/
structure KeepsMain (s s' : State) : Prop where
  main : s'.main = s.main
  conn_ : s'.conn_ = s.conn_
  started : s'.started = s.started
  phy : s'.devMgr.phy = s.devMgr.phy

theorem KeepsMain.mainInv {s s' : State} (hkeeps : KeepsMain s s') (h : MainInv s) :
    MainInv s' := by
  refine ⟨?_, ?_, ?_, ?_⟩
  · rw [hkeeps.main, hkeeps.conn_]
    exact h.conn
  · rw [hkeeps.main, hkeeps.conn_]
    exact h.null
  · rw [hkeeps.main, hkeeps.started]
    exact h.started
  · rw [hkeeps.phy]
    exact h.phy

theorem firstSend_keepsMain (s : State) (newState : Int) (answers : Nat → HdmiCecTx) :
    KeepsMain s (firstSend s newState answers) := by
  rw [firstSend]
  split <;> split <;> exact ⟨rfl, rfl, rfl, rfl⟩

theorem secondSend_keepsMain (s : State) (newState : Int) (answers : Nat → HdmiCecTx) :
    KeepsMain s (secondSend s newState answers) := by
  rw [secondSend]
  split <;> exact ⟨rfl, rfl, rfl, rfl⟩

theorem EventMove.keepsMain {s s' : State} {a : EventAction} (h : EventMove s a s') :
    KeepsMain s s' := by
  cases h with
  | firstSend => exact firstSend_keepsMain s _ _
  | secondSend => exact secondSend_keepsMain s _ _
  | ignored | called | store | callbackReturns => exact ⟨rfl, rfl, rfl, rfl⟩

/-- The first send has been made, and the callback has not returned. -/
def EventPc.sending : EventPc → Bool
  | .idle | .called _ => false
  | .viewOnSent _ | .sent _ | .stored _ => true

/-- What the callbacks have done, in every run in which they send behind the assignment. -/
structure EventInv (s : State) : Prop extends Safe s where
  sending : s.event.sending = true → s.main.assigned = true
  stored : ∀ newState, s.event = .stored newState → s.devMgr.powerState = newState
  late : s.returned ≠ none → s.main.assigned = true

/-- A step between two statements of a callback. -/
theorem EventInv.next {s s' : State} (h : EventInv s) (hmain : s'.main = s.main)
    (hreturned : s'.returned = s.returned) (hfailure : s'.failure = s.failure)
    (hbusy : s'.event ≠ .idle) (hassigned : s'.event.sending = true → s.main.assigned = true)
    (hstored : ∀ newState, s'.event = .stored newState → s'.devMgr.powerState = newState) :
    EventInv s' := by
  refine ⟨⟨by rw [hfailure]; exact h.noFailure, fun hidle => absurd hidle hbusy⟩, ?_, hstored, ?_⟩
  · rw [hmain]
    exact hassigned
  · rw [hmain, hreturned]
    exact h.late

/-- Behind the assignment the first send returns in both branches. -/
theorem firstSend_inv {s : State} (hmain : MainInv s) (h : EventInv s)
    (hassigned : s.main.assigned = true) (newState : Int) (answers : Nat → HdmiCecTx) :
    EventInv (firstSend s newState answers) := by
  have hstarted : s.started = true := by
    apply hmain.started
    cases hpc : s.main <;> rw [hpc] at hassigned <;> first | rfl | cases hassigned
  rw [firstSend]
  split
  · rw [connSendTo_returns (m := .imageViewOn) (hmain.conn hassigned) trivial answers]
    exact h.next rfl rfl rfl nofun (fun _ => hassigned) nofun
  · obtain ⟨wQueue, hsends⟩ := connSendToAsync_returns (m := .inActiveSource s.devMgr.phy)
      (hmain.conn hassigned) hstarted hmain.phy
    rw [hsends]
    exact h.next rfl rfl rfl nofun (fun _ => hassigned) nofun

theorem secondSend_inv {s : State} (hmain : MainInv s) (h : EventInv s)
    (hassigned : s.main.assigned = true) (newState : Int) (answers : Nat → HdmiCecTx) :
    EventInv (secondSend s newState answers) := by
  rw [secondSend, connSendTo_returns (m := .activeSource s.devMgr.phy) (hmain.conn hassigned)
    hmain.phy answers]
  exact h.next rfl rfl rfl nofun (fun _ => hassigned) nofun

theorem EventMove.eventInv {s s' : State} {a : EventAction} (hmove : EventMove s a s')
    (hmain : MainInv s) (h : EventInv s) (hok : ConnAssigned s (.event a)) : EventInv s' := by
  cases hmove with
  | ignored => exact h
  | called => exact h.next rfl rfl rfl nofun nofun nofun
  | firstSend => exact firstSend_inv hmain h hok _ _
  | secondSend hevent =>
      exact secondSend_inv hmain h (h.sending (by rw [hevent]; rfl)) _ _
  | store hevent =>
      refine h.next rfl rfl rfl nofun (fun _ => h.sending (by rw [hevent]; rfl)) ?_
      intro stored hstored
      cases hstored
      rfl
  | callbackReturns hevent =>
      refine ⟨⟨h.noFailure, ?_⟩, nofun, nofun, fun _ => h.sending (by rw [hevent]; rfl)⟩
      intro _ given hreturned
      cases hreturned
      exact h.stored _ hevent

/-! ## Both threads -/

/-- A statement of `main` between the steps of the callbacks. -/
theorem LeavesAlone.eventInv {s s' : State} (halone : LeavesAlone s s') (h : EventInv s) :
    EventInv s' := by
  refine ⟨⟨by rw [halone.failure]; exact h.noFailure, ?_⟩, ?_, ?_, ?_⟩
  · rw [halone.event, halone.returned]
    intro hidle newState hreturned
    have hassigned := h.late (by rw [hreturned]; nofun)
    rw [(halone.assigned hassigned).2]
    exact h.cached hidle newState hreturned
  · rw [halone.event]
    exact fun hsending => (halone.assigned (h.sending hsending)).1
  · rw [halone.event]
    intro newState hevent
    have hassigned := h.sending (by rw [hevent]; rfl)
    rw [(halone.assigned hassigned).2]
    exact h.stored newState hevent
  · rw [halone.returned]
    exact fun hreturned => (halone.assigned (h.late hreturned)).1

theorem step_cases {s s' : State} {a : Action} (hstep : step s a = some s') :
    (∃ b, a = .main b ∧ mainStep s b = some s') ∨ (∃ b, a = .event b ∧ EventMove s b s') ∨
      ∃ rQueue wQueue, a = .busThreads rQueue wQueue ∧
        s' = { s with driver := { s.driver with rQueue := rQueue }, wQueue := wQueue } := by
  unfold step at hstep
  split at hstep
  · cases a with
    | main b => exact .inl ⟨b, rfl, hstep⟩
    | event b => exact .inr (.inl ⟨b, rfl, eventStep_moves hstep⟩)
    | busThreads rQueue wQueue => exact .inr (.inr ⟨rQueue, wQueue, rfl, by cases hstep; rfl⟩)
  · cases hstep

theorem step_mainInv {s s' : State} {a : Action} (h : MainInv s) (hstep : step s a = some s') :
    MainInv s' := by
  obtain ⟨b, -, hmain⟩ | ⟨b, -, hmove⟩ | ⟨rQueue, wQueue, -, rfl⟩ := step_cases hstep
  · exact mainStep_inv h hmain
  · exact hmove.keepsMain.mainInv h
  · exact ⟨h.conn, h.null, h.started, h.phy⟩

theorem step_eventInv {s s' : State} {a : Action} (hmain : MainInv s) (h : EventInv s)
    (hok : ConnAssigned s a) (hstep : step s a = some s') : EventInv s' := by
  obtain ⟨b, -, hstatement⟩ | ⟨b, rfl, hmove⟩ | ⟨rQueue, wQueue, -, rfl⟩ := step_cases hstep
  · exact (mainStep_leavesAlone hstatement).eventInv h
  · exact hmove.eventInv hmain h hok
  · exact ⟨⟨h.noFailure, h.cached⟩, h.sending, h.stored, h.late⟩

theorem reachable_mainInv {ok : State → Action → Prop} {s : State}
    (h : system.Reachable ok s) : MainInv s := by
  refine h.invariant ?_ ?_
  · rintro s rfl
    exact ⟨nofun, fun _ => rfl, nofun, rfl⟩
  · intro s a s' _ hs _ hstep
    exact step_mainInv hs hstep

theorem reachable_eventInv {s : State} (h : system.Reachable ConnAssigned s) : EventInv s := by
  refine h.invariant ?_ ?_
  · rintro s rfl
    exact ⟨⟨rfl, nofun⟩, nofun, nofun, fun hnone => absurd rfl hnone⟩
  · intro s a s' hreach hs hok hstep
    exact step_eventInv (reachable_mainInv hreach) hs hok hstep

/-- As long as every callback comes to its first send behind `conn_ = &conn`, each one
returns, and leaves its state in `powerState`; and the first one that does not ends in a
call through a null pointer. -/
theorem powerCallback_safe {s : State} (h : system.Reachable ConnAssigned s) :
    Safe s ∧ ∀ a s', ¬ ConnAssigned s a → step s a = some s' →
      s'.failure = some .undefined := by
  have hmain := reachable_mainInv h
  refine ⟨(reachable_eventInv h).toSafe, ?_⟩
  intro a s' hearly hstep
  obtain ⟨b, rfl, -⟩ | ⟨b, rfl, hmove⟩ | ⟨rQueue, wQueue, rfl, -⟩ := step_cases hstep
  · exact absurd trivial hearly
  · cases hmove with
    | firstSend =>
        have hnull := hmain.null (Bool.eq_false_iff.mpr hearly)
        rw [firstSend_null hnull hmain.phy]
    | ignored | called | secondSend | store | callbackReturns => exact absurd trivial hearly
  · exact absurd trivial hearly

/-- The statements of `main` from `CECHost_SetCallback` up to `conn_ = &conn`. -/
def startUp : List Action :=
  [.main .setCallback, .main (.isHdmiOutputConnected (.ok 1)),
    .main (.getHdmiOuputPhysicalAddress (.ok ⟨1, 0, 0, 0⟩)), .main (.getPowerState (.ok 1)),
    .main (.driverOpen true), .main (.busStart true), .main .initialized, .main .construct,
    .main .assignConn]

/-- The native driver acknowledges everything. -/
def acknowledges : Nat → HdmiCecTx := fun _ _ _ => (HdmiCecIo.success, HdmiCecIo.sentAndAckd)

/-- The callback for a device that is switched on. -/
def switchedOn : List Action :=
  [.event (.powerEvent true), .event (.firstSend acknowledges),
    .event (.secondSend acknowledges), .event .store, .event .callbackReturns]

/-- The device is switched on right behind the assignment, before the connection is open. -/
theorem powerCallback_safe_switchedOn :
    ∃ s : State, system.Reachable ConnAssigned s ∧ s.returned = some powerStateOn ∧
      s.devMgr.powerState = powerStateOn := by
  obtain ⟨s, hreach, hidle, hreturned⟩ :=
    system.exists_reachable_of_run ConnAssigned new (startUp ++ switchedOn)
      (fun s => s.event = .idle ∧ s.returned = some powerStateOn) rfl (by decide +kernel)
  exact ⟨s, hreach, hreturned, (powerCallback_safe hreach).1.cached hidle powerStateOn hreturned⟩

/-- The device is switched on right behind `CECHost_SetCallback`. -/
theorem not_powerCallback_safe :
    ¬ ∀ s : State, system.Reachable StepSystem.unguarded s → Safe s := by
  intro hall
  obtain ⟨s, hreach, hfailure⟩ :=
    system.exists_reachable_of_run StepSystem.unguarded new
      [.main .setCallback, .event (.powerEvent true), .event (.firstSend acknowledges)]
      (fun s => s.failure = some .undefined) rfl (by decide +kernel)
  have hsafe := (hall s hreach).noFailure
  rw [hfailure] at hsafe
  cases hsafe

/-! ## When the events come late enough -/

/-- No event is delivered to the callback before `conn_ = &conn`. -/
def DeliveredLate (s : State) : Action → Prop
  | .event (.powerEvent _) => s.pwrStateCb = true → s.main.assigned = true
  | _ => True

/-- Then a callback that is under way has been called behind the assignment. -/
theorem step_busy {s s' : State} {a : Action} (hok : DeliveredLate s a)
    (hbusy : s.event ≠ .idle → s.main.assigned = true) (hstep : step s a = some s') :
    s'.event ≠ .idle → s'.main.assigned = true := by
  obtain ⟨b, -, hstatement⟩ | ⟨b, rfl, hmove⟩ | ⟨rQueue, wQueue, -, rfl⟩ := step_cases hstep
  · have halone := mainStep_leavesAlone hstatement
    rw [halone.event]
    exact fun hevent => (halone.assigned (hbusy hevent)).1
  · rw [hmove.keepsMain.main]
    intro hbusy'
    cases hmove with
    | ignored hidle => exact absurd hidle hbusy'
    | called hidle hset => exact hok hset
    | firstSend hevent | secondSend hevent | store hevent | callbackReturns hevent =>
        apply hbusy
        rw [hevent]
        nofun
  · exact hbusy

/-- Such a run comes to every first send behind the assignment. -/
theorem reachable_of_deliveredLate {s : State} (h : system.Reachable DeliveredLate s) :
    system.Reachable ConnAssigned s := by
  have hboth : system.Reachable ConnAssigned s ∧
      (s.event ≠ .idle → s.main.assigned = true) := by
    refine h.invariant (I := fun s => system.Reachable ConnAssigned s ∧
      (s.event ≠ .idle → s.main.assigned = true)) ?_ ?_
    · rintro s rfl
      exact ⟨.of_initial rfl, fun hbusy => absurd rfl hbusy⟩
    · intro s a s' _ hs hok hstep
      refine ⟨hs.1.next ?_ hstep, step_busy hok hs.2 hstep⟩
      obtain ⟨b, rfl, -⟩ | ⟨b, rfl, hmove⟩ | ⟨rQueue, wQueue, rfl, -⟩ := step_cases hstep
      · trivial
      · cases hmove with
        | firstSend hevent =>
            apply hs.2
            rw [hevent]
            nofun
        | ignored | called | secondSend | store | callbackReturns => trivial
      · trivial
  exact hboth.1

end PowerCallback

end HdmiCec
