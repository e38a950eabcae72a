import HdmiCec.Library.BoundedFifo
import HdmiCec.Core.Messages

/-!
# `DriverImpl`, one call at a time

The calls of `DriverImpl` that wait for no other thread: `open` and `close`,
`write`, those for the logical addresses, and the receive callback.  How `open`,
`close` and `read` meet the threads of the bus is the subject of
`HdmiCec.Bus.Threads`.

The native driver is outside, and each of its functions is a parameter.  A
native function that changes something behind the interface does so in a state
`N`; for the pseudo-driver that state is the daemon.
-/

namespace HdmiCec

/-! ## The error codes of the native driver -/

namespace HdmiCecIo

def success : Int := 0
def sentAndAckd : Int := 1
def sentButNotAckd : Int := 2
def sentFailed : Int := 3
def invalidState : Int := 4
def invalidArgument : Int := 5
def logicalAddressUnavailable : Int := 6
def generalError : Int := 7

end HdmiCecIo

/-- `HdmiCecTx(handle, buf, len, &result)`: the bytes and the value of `result`
before the call give the return code and the value of `result` after it. -/
abbrev HdmiCecTx := List UInt8 → Int → Int × Int

/-- `DriverImpl::status`. -/
inductive DriverStatus where
  | closed
  | closing
  | opened
  deriving DecidableEq

/-- The class `DriverImpl`.  Null pointers in `rQueue` are the sentinels of
`close`. -/
structure DriverImpl where
  status : DriverStatus
  rQueue : BoundedFifo (Option CECFrame)
  logicalAddresses : List LogicalAddress

namespace DriverImpl

/-! ## Opening and closing -/

/-- `open()`, where `hdmiCecOpen` is whether `HdmiCecOpen` succeeds. -/
def driverOpen (driver : DriverImpl) (hdmiCecOpen : Bool) : DriverImpl × Result Unit :=
  if driver.status ≠ .closed then
    (driver, .ok ())
  else if hdmiCecOpen then
    ({ driver with status := .opened }, .ok ())
  else
    (driver, throwing .ioException)

/-- `close()`, where `hdmiCecClose` is whether `HdmiCecClose` succeeds. -/
def driverClose (driver : DriverImpl) (hdmiCecClose : Bool) : DriverImpl × Result Unit :=
  if driver.status ≠ .opened then
    (driver, .ok ())
  else
    let driver := { driver with status := .closing, rQueue := driver.rQueue.offer none }
    if hdmiCecClose then
      ({ driver with status := .closed }, .ok ())
    else
      (driver, throwing .ioException)

/-! ## Receiving -/

/-- `getIncomingQueue(int nativeHandle)`. -/
def getIncomingQueue (driver : DriverImpl) : Result (BoundedFifo (Option CECFrame)) :=
  if driver.status ≠ .opened then throwing .invalidStateException else .ok driver.rQueue

/-- `DriverReceiveCallback(handle, callbackData, buf, len)`.  The frame is
filled before the `try` block is entered. -/
def driverReceiveCallback (driver : DriverImpl) (buf : List UInt8) :
    DriverImpl × Result Unit :=
  match CECFrame.empty.appendAll buf with
  | .error r => (driver, .error r)
  | .ok frame =>
      match driver.getIncomingQueue with
      | .error r => (driver, catching (fun _ => true) (.error r) fun _ => .ok ())
      | .ok rQueue => ({ driver with rQueue := rQueue.offer (some frame) }, .ok ())

/-- A packet that fits a frame is offered to the queue of an open driver. -/
theorem driverReceiveCallback_fits {driver : DriverImpl} {buf : List UInt8}
    (hopened : driver.status = .opened) (hfits : buf.length ≤ 128) :
    ∃ frame : CECFrame, frame.bytes = buf ∧
      driver.driverReceiveCallback buf =
        ({ driver with rQueue := driver.rQueue.offer (some frame) }, .ok ()) := by
  obtain ⟨frame, happend, hbytes⟩ :=
    CECFrame.appendAll_extends CECFrame.empty buf (by simpa using hfits)
  refine ⟨frame, by simpa using hbytes, ?_⟩
  rw [driverReceiveCallback, happend]
  simp [getIncomingQueue, hopened]

/-- A packet that does not fit a frame leaves the callback as an exception. -/
theorem driverReceiveCallback_overflows (driver : DriverImpl) {buf : List UInt8}
    (hlong : 128 < buf.length) :
    driver.driverReceiveCallback buf = (driver, throwing .outOfRange) := by
  rw [driverReceiveCallback, CECFrame.appendAll_overflows _ _ (by simpa using hlong)]
  rfl

/-! ## Writing -/

/-- The results of a transmission that `write` reports as an `IOException`. -/
def isSendFailure (sendResult : Int) : Bool :=
  sendResult == HdmiCecIo.invalidState ||
  sendResult == HdmiCecIo.invalidArgument ||
  sendResult == HdmiCecIo.logicalAddressUnavailable ||
  sendResult == HdmiCecIo.sentFailed ||
  sendResult == HdmiCecIo.generalError

/-- The end of `write`: a directed message, and a broadcast <Report Physical
Address>, has to be acknowledged. -/
def checkAcknowledged (frame : CECFrame) (sendResult : Int) : Result Unit := do
  let first ← frame.at' 0
  if first &&& 0x0F ≠ 0x0F ∧ sendResult = HdmiCecIo.sentButNotAckd then
    throwing .cecNoAckException
  else if first &&& 0x0F = 0x0F ∧ frame.length > 1 then
    let second ← frame.at' 1
    if (second &&& 0xFF).toUInt32 = Op.reportPhysicalAddress ∧
        sendResult = HdmiCecIo.sentButNotAckd then
      throwing .cecNoAckException
    else
      return ()
  else
    return ()

/-- `throw(InvalidStateException, IOException, CECNoAckException)`. -/
def isListed (e : Exception) : Bool :=
  e == .invalidStateException || e == .ioException || e == .cecNoAckException

/-- `write(const CECFrame &frame)`.  An empty frame that the native driver accepts has no
header for `at`, whose exception the specification leaves out. -/
def write (driver : DriverImpl) (hdmiCecTx : HdmiCecTx) (frame : CECFrame) :
    Result Unit :=
  specifying isListed <|
    if driver.status ≠ .opened then
      throwing .invalidStateException
    else
      let (err, sendResult) := hdmiCecTx frame.bytes HdmiCecIo.success
      if err ≠ HdmiCecIo.success then
        throwing .ioException
      else if sendResult ≠ HdmiCecIo.success ∧ isSendFailure sendResult then
        throwing .ioException
      else
        checkAcknowledged frame sendResult

/-- `writeAsync(const CECFrame &frame)`.  The native function returns its code and what it
has sent off, of a type `E`. -/
def writeAsync {E : Type} (driver : DriverImpl) (hdmiCecTxAsync : List UInt8 → Int × E)
    (frame : CECFrame) : Result Unit × Option E :=
  if driver.status ≠ .opened then
    (throwing .invalidStateException, none)
  else
    let (err, sent) := hdmiCecTxAsync frame.bytes
    (if err ≠ HdmiCecIo.success then throwing .ioException else .ok (), some sent)

/-! ### What a write comes to

`write` in terms of the bytes of the frame and the answer of the native driver
alone. -/

/-- The frames whose missing acknowledgement `write` reports. -/
def expectsAck : List UInt8 → Bool
  | [] => false
  | first :: rest => first &&& 0x0F != 0x0F || rest.head? == some 0x84

/-- The outcome of `write` for a frame of these bytes, when `HdmiCecTx` returns
`err` and `sendResult`. -/
def sendOutcome (bytes : List UInt8) (err sendResult : Int) : Result Unit :=
  if err ≠ HdmiCecIo.success ∨ isSendFailure sendResult then
    throwing .ioException
  else if expectsAck bytes ∧ sendResult = HdmiCecIo.sentButNotAckd then
    throwing .cecNoAckException
  else
    .ok ()

theorem isSendFailure_success : isSendFailure HdmiCecIo.success = false := by decide

/-- The opcode test of `write` on the byte as it stands in the frame. -/
theorem toUInt32_eq_reportPhysicalAddress (byte : UInt8) :
    (byte &&& 0xFF).toUInt32 = Op.reportPhysicalAddress ↔ byte = 0x84 := by
  have hmask : byte &&& 0xFF = byte := UInt8.and_neg_one
  rw [hmask, Op.reportPhysicalAddress, ← UInt32.toNat_inj, ← UInt8.toNat_inj]
  simp

theorem checkAcknowledged_eq {frame : CECFrame} {first : UInt8} {rest : List UInt8}
    (hbytes : frame.bytes = first :: rest) (sendResult : Int) :
    checkAcknowledged frame sendResult =
      if expectsAck (first :: rest) ∧ sendResult = HdmiCecIo.sentButNotAckd then
        throwing .cecNoAckException
      else
        .ok () := by
  have hlength : frame.length = rest.length + 1 := by
    rw [← CECFrame.bytes_length, hbytes, List.length_cons]
  have hfirst : frame.at' 0 = .ok first := by rw [CECFrame.at'_eq, hbytes]; rfl
  unfold checkAcknowledged expectsAck
  rw [hfirst, hlength]
  by_cases hdirected : first &&& 0x0F = 0x0F
  · cases rest with
    | nil => simp [hdirected]
    | cons second tail =>
        have hsecond : frame.at' 1 = .ok second := by rw [CECFrame.at'_eq, hbytes]; rfl
        have hopcode := toUInt32_eq_reportPhysicalAddress second
        simp only [Result.ok_bind, hdirected, hsecond, hopcode]
        simp
  · simp [hdirected]

/-- On an open driver the outcome of a write depends on the bytes of the frame
and on the answer of the native driver only. -/
theorem write_eq {driver : DriverImpl} {frame : CECFrame} (hdmiCecTx : HdmiCecTx)
    (hopened : driver.status = .opened) (hne : frame.bytes ≠ []) :
    driver.write hdmiCecTx frame =
      sendOutcome frame.bytes (hdmiCecTx frame.bytes HdmiCecIo.success).1
        (hdmiCecTx frame.bytes HdmiCecIo.success).2 := by
  obtain ⟨first, rest, hbytes⟩ := List.exists_cons_of_ne_nil hne
  rcases hanswer : hdmiCecTx frame.bytes HdmiCecIo.success with ⟨err, sendResult⟩
  unfold write sendOutcome
  rw [hanswer]
  dsimp only
  rw [checkAcknowledged_eq hbytes, hbytes, if_neg (fun hclosed => hclosed hopened)]
  by_cases herr : err = HdmiCecIo.success
  · have hfailure : (sendResult ≠ HdmiCecIo.success ∧ isSendFailure sendResult = true) ↔
        isSendFailure sendResult = true :=
      and_iff_right_of_imp fun hfailure hsend => by
        rw [hsend, isSendFailure_success] at hfailure
        cases hfailure
    simp only [herr, hfailure, ne_eq, not_true_eq_false, if_false, false_or]
    split
    · rfl
    · split <;> rfl
  · rw [if_pos herr, if_pos (Or.inl herr)]
    rfl

/-! ## Logical addresses -/

section LogicalAddresses

variable {N : Type}

/-- `addLogicalAddress(const LogicalAddress &source)`. -/
def addLogicalAddress (driver : DriverImpl) (hdmiCecAddLogicalAddress : Int → N → Int × N)
    (source : LogicalAddress) (native : N) : Result Bool × DriverImpl × N :=
  if driver.status ≠ .opened then
    (throwing .invalidStateException, driver, native)
  else
    match source.toInt with
    | .error r => (.error r, driver, native)
    | .ok logicalAddress =>
        let (retErr, native') := hdmiCecAddLogicalAddress logicalAddress.toNat native
        if retErr = HdmiCecIo.logicalAddressUnavailable then
          (throwing .addressNotAvailableException, driver, native')
        else if retErr = HdmiCecIo.generalError then
          (throwing .ioException, driver, native')
        else
          (.ok true,
            { driver with logicalAddresses := driver.logicalAddresses ++ [source] }, native')

/-- `removeLogicalAddress(const LogicalAddress &source)`: `std::list::remove` takes out
every entry that is equal.  What `HdmiCecRemoveLogicalAddress` returns is not looked at. -/
def removeLogicalAddress (driver : DriverImpl) (source : LogicalAddress) :
    Result Unit × DriverImpl :=
  if driver.status ≠ .opened then
    (throwing .invalidStateException, driver)
  else
    (source.toInt.map fun _ => (),
      { driver with logicalAddresses := driver.logicalAddresses.filter (· != source) })

/-- `isValidLogicalAddress(const LogicalAddress &source)`: the loop over the
list stops at the first entry equal to `source`. -/
def isValidLogicalAddress (driver : DriverImpl) (source : LogicalAddress) : Bool :=
  driver.logicalAddresses.any (· == source)

end LogicalAddresses

end DriverImpl

end HdmiCec
