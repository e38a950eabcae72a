import HdmiCec.Bus.Connection
import HdmiCec.Core.MessageDecoder
import HdmiCec.Driver.IarmDriver

/-!
# The daemon

`CecIARMBusMgr.cpp` runs the library on the physical driver and offers it to the
other processes: `_Send` and `_AddLogicalAddress` are called over the IARM bus,
ENABLE events start and stop the manager, and the frame listener broadcasts what
the bus receives.

`CECIARMMgr` is the manager object with the two file-level variables `enabled`
and `m_connection`; `Library` is the library in the same process.
-/

namespace HdmiCec

/-! ## The library of one process -/

/-- What the calls of the library look at: `LibCCEC::initialized`, `Bus::started`
and the driver. -/
structure Library where
  initialized : Bool
  started : Bool
  driver : DriverImpl

namespace Library

/-- The state between `LibCCEC::init` and `LibCCEC::term`. -/
structure IsRunning (library : Library) : Prop where
  initialized : library.initialized = true
  started : library.started = true
  opened : library.driver.status = .opened

/-- `LibCCEC::addLogicalAddress(const LogicalAddress &source)`. -/
def addLogicalAddress {N : Type} (library : Library)
    (hdmiCecAddLogicalAddress : Int → N → Int × N) (source : LogicalAddress) (native : N) :
    Result Int × Library × N :=
  if !library.initialized then
    (throwing .invalidStateException, library, native)
  else
    match library.driver.addLogicalAddress hdmiCecAddLogicalAddress source native with
    | (outcome, driver, native') =>
        (outcome.map fun _ => 1, { library with driver := driver }, native')

end Library

/-! ## The manager -/

/-- The class `CECIARMMgr` with the variables `enabled` and `m_connection`.  The
objects behind `processor` and `frameListener` have no state; the model keeps
whether the pointers are set. -/
structure CECIARMMgr where
  enabled : Bool
  m_connection : Option Connection
  started : Bool
  processor : Bool
  frameListener : Bool
  connection : Option Connection
  deriving DecidableEq

/-- `_CECMgr_EventId_t`. -/
inductive EventId where
  | send
  | recv
  | enable
  | daemonInitialized
  | max
  | statusUpdated
  deriving DecidableEq, Repr

/-- How the calls of the library inside `start` and `stop` end: `LibCCEC::init`,
`Connection::open`, `Connection::close` and `LibCCEC::term`. -/
structure LibraryCalls where
  init : Result Unit
  connectionOpen : Result Unit
  connectionClose : Result Unit
  term : Result Unit

/-- All of them return normally. -/
def LibraryCalls.normal : LibraryCalls := ⟨.ok (), .ok (), .ok (), .ok ()⟩

namespace CECIARMMgr

/-- The manager after `init`. -/
def new : CECIARMMgr where
  enabled := false
  m_connection := none
  started := false
  processor := false
  frameListener := false
  connection := none

/-- `start()`. -/
def start (manager : CECIARMMgr) (calls : LibraryCalls) :
    CECIARMMgr × Result IARM_Result_t :=
  if manager.started then
    (manager, .ok .invalidState)
  else
    match calls.init with
    | .error r => (manager, .error r)
    | .ok () =>
        let connection := Connection.ofSource LogicalAddress.unregistered
        let manager :=
          { manager with processor := true, frameListener := true, connection := some connection }
        match calls.connectionOpen with
        | .error r => (manager, .error r)
        | .ok () => ({ manager with m_connection := some connection, started := true }, .ok .success)

/-- `stop()`. -/
def stop (manager : CECIARMMgr) (calls : LibraryCalls) :
    CECIARMMgr × Result IARM_Result_t :=
  if !manager.started then
    (manager, .ok .invalidState)
  else
    match manager.connection, calls.connectionClose with
    | none, _ => (manager, .error .undefined)
    | some _, .error r => (manager, .error r)
    | some _, .ok () =>
        let manager :=
          { manager with
            frameListener := false, m_connection := none, connection := none, processor := false }
        match calls.term with
        | .error r => (manager, .error r)
        | .ok () => ({ manager with started := false }, .ok .success)

/-- `_Enable(void *arg)`.  The result of `start` or `stop` is not looked at. -/
def enable (manager : CECIARMMgr) (calls : LibraryCalls) (enabled : Int) :
    CECIARMMgr × Result IARM_Result_t :=
  let manager := { manager with enabled := enabled ≠ 0 }
  let (manager, outcome) := if enabled ≠ 0 then manager.start calls else manager.stop calls
  (manager, outcome.map fun _ => .success)

/-- `cecMgrEventHandler(owner, eventId, data, len)`. -/
def cecMgrEventHandler (manager : CECIARMMgr) (calls : LibraryCalls) (eventId : EventId)
    (cecEventData : CECMgr.EventData) : CECIARMMgr × Result Unit :=
  match eventId with
  | .enable =>
      if cecEventData.length = 1 then
        let (manager, outcome) := manager.enable calls cecEventData.data.first.toNat
        (manager, outcome.map fun _ => ())
      else
        (manager, .ok ())
  | _ => (manager, .ok ())

end CECIARMMgr

/-! ## The daemon process -/

/-- The manager and the library it runs. -/
structure Daemon where
  manager : CECIARMMgr
  library : Library

namespace Daemon

/-- The daemon is started and its driver is open. -/
structure IsStarted (daemon : Daemon) : Prop where
  connection : daemon.manager.m_connection =
    some (Connection.ofSource LogicalAddress.unregistered)
  running : daemon.library.IsRunning

/-- The daemon after its first start, with the given logical addresses. -/
def started (logicalAddresses : List LogicalAddress) : Daemon where
  manager := (CECIARMMgr.new.start .normal).1
  library :=
    { initialized := true
      started := true
      driver :=
        { status := .opened
          rQueue := BoundedFifo.empty 32
          logicalAddresses := logicalAddresses } }

theorem started_isStarted (logicalAddresses : List LogicalAddress) :
    (started logicalAddresses).IsStarted :=
  ⟨rfl, ⟨rfl, rfl, rfl⟩⟩

/-- The bytes that `_Send` reads through `param->data` and `param->length`: a
length of 64 or more runs past the array. -/
def sendBytes (param : CECMgr.SendParam) : Result (List UInt8) :=
  if param.length.toNat ≤ CECMgr.maxDataLength + 1 then
    .ok (param.data.toList.take param.length.toNat)
  else
    .error .undefined

/-- `_Send(void *arg)`.  The loop that formats `strBuffer` and the log lines are
left out; the header and the opcode are read for them. -/
def send (hdmiCecTx : HdmiCecTx) (param : CECMgr.SendParam) (daemon : Daemon) :
    Result (IARM_Result_t × CECMgr.SendParam) := do
  let frameIn ← CECFrame.empty.appendAll (← sendBytes param)
  let _ ← Header.ofFrame frameIn 0
  if frameIn.length > 1 then
    let _ ← OpCode.ofFrame frameIn 1
  match daemon.manager.m_connection with
  | none => return (.invalidState, param)
  | some connection =>
      let library := daemon.library
      let busSend := fun frame =>
        (Bus.send library.started (fun _ => library.driver.write hdmiCecTx frame) 0).2
      let sent := (connection.send library.driver busSend frameIn).map fun _ =>
        HdmiCecIo.sentAndAckd
      let retVal ← catching Exception.isCCEC sent fun e =>
        if e = .cecNoAckException then
          .ok HdmiCecIo.sentButNotAckd
        else
          .ok HdmiCecIo.sentFailed
      return (.success, { param with retVal := UInt8.ofNat retVal.toNat })

/-- The frame that a handler rebuilds: `frameIn.append(block->data, block->length)`.  The
event block has the same two fields as the parameter block. -/
def rebuild (length : UInt8) (data : CECMgr.Data) : Result CECFrame := do
  CECFrame.empty.appendAll (← sendBytes ⟨length, data, 0⟩)

/-- `cecSendEventHandler(owner, eventId, data, len)`, on a bus that takes frames by
`busSendAsync`.  The mutex it declares is a local variable, and is not used. -/
def cecSendEventHandler (busSendAsync : CECFrame → Result Unit)
    (cecEventData : CECMgr.EventData) (daemon : Daemon) : Result Unit := do
  let frameIn ← rebuild cecEventData.length cecEventData.data
  match daemon.manager.m_connection with
  | none => return ()
  | some connection => connection.sendAsync daemon.library.driver busSendAsync frameIn

/-- `_AddLogicalAddress(void *arg)`. -/
def addLogicalAddress {N : Type} (hdmiCecAddLogicalAddress : Int → N → Int × N)
    (param : CECMgr.AddLogicalAddressParam) (daemon : Daemon × N) :
    Result (IARM_Result_t × CECMgr.AddLogicalAddressParam) × Daemon × N :=
  let source := LogicalAddress.ofInt param.logicalAddress
  match daemon.1.library.addLogicalAddress hdmiCecAddLogicalAddress source daemon.2 with
  | (outcome, library, native) =>
      let answer := outcome.map fun added =>
        (IARM_Result_t.success, { param with logicalAddress := added })
      (catching Exception.isCCEC answer fun _ => .ok (.invalidState, param),
        { daemon.1 with library := library }, native)

end Daemon

/-! ## The frame listener -/

namespace CecIARMMgrFrameListener

/-- The event block that `notify` fills from a frame. -/
def dataRcvd (in_ : CECFrame) : CECMgr.EventData where
  length := UInt8.ofNat in_.length
  data := Vector.ofFn fun i => in_.bytes.getD i 0

/-- `notify(const CECFrame &in)`, and the event it broadcasts.  The loop that
formats `strBuffer` and the log line are left out; the opcode is read for them. -/
def notify (process : Message → Header → Result Unit) (in_ : CECFrame) :
    Result CECMgr.EventData := do
  (MessageDecoder.decode process in_).outcome
  let _ ← Header.ofFrame in_ 0
  if in_.length ≤ CECMgr.maxDataLength then
    if in_.length > 1 then
      let _ ← OpCode.ofFrame in_ 1
    return dataRcvd in_
  else
    assertThat false
    return dataRcvd in_

end CecIARMMgrFrameListener

end HdmiCec
