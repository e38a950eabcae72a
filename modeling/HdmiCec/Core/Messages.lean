import HdmiCec.Core.Operands

/-!
# Headers, opcodes and messages

`Message` has one constructor for each message class of `Messages.hpp`, with
the operand objects of the class as arguments.  Every class has a `serialize`
and most have a constructor from the operand block of a frame; the classes
whose block is one operand, or two in a row, share `ofBlock` and `ofBlock2`
and keep the offsets the source passes.

`MessageEncoder.encode` is `MessageEncoder::encode(h, m)`: the header byte,
the opcode byte (none for the polling message) and the operands.
-/

namespace HdmiCec

/-- `Op_t`. -/
abbrev Op_t := UInt32

/-! ## Opcodes -/

namespace Op

def activeSource : Op_t := 0x82
def imageViewOn : Op_t := 0x04
def textViewOn : Op_t := 0x0D
def inactiveSource : Op_t := 0x9D
def requestActiveSource : Op_t := 0x85
def routingChange : Op_t := 0x80
def routingInformation : Op_t := 0x81
def setStreamPath : Op_t := 0x86
def standby : Op_t := 0x36
def getCecVersion : Op_t := 0x9F
def cecVersion : Op_t := 0x9E
def givePhysicalAddress : Op_t := 0x83
def getMenuLanguage : Op_t := 0x91
def reportPhysicalAddress : Op_t := 0x84
def setMenuLanguage : Op_t := 0x32
def deviceVendorId : Op_t := 0x87
def giveDeviceVendorId : Op_t := 0x8C
def setOsdString : Op_t := 0x64
def giveOsdName : Op_t := 0x46
def setOsdName : Op_t := 0x47
def userControlPressed : Op_t := 0x44
def userControlReleased : Op_t := 0x45
def giveDevicePowerStatus : Op_t := 0x8F
def reportPowerStatus : Op_t := 0x90
def featureAbort : Op_t := 0x00
def abort : Op_t := 0xFF
def giveAudioStatus : Op_t := 0x71
def reportAudioStatus : Op_t := 0x7A
def reportShortAudioDescriptor : Op_t := 0xA3
def requestShortAudioDescriptor : Op_t := 0xA4
def setSystemAudioMode : Op_t := 0x72
def systemAudioModeRequest : Op_t := 0x70
def initiateArc : Op_t := 0xC0
def reportArcInitiated : Op_t := 0xC1
def reportArcTerminated : Op_t := 0xC2
def requestArcInitiation : Op_t := 0xC3
def requestArcTermination : Op_t := 0xC4
def terminateArc : Op_t := 0xC5
/-- The special code of the polling message; no byte on the wire has it. -/
def polling : Op_t := 0x200

end Op

/-- The class `OpCode`. -/
structure OpCode where
  opCode_ : Op_t
  deriving DecidableEq, Repr

namespace OpCode

/-- `OpCode(const CECFrame &frame, int startPos)`. -/
def ofFrame (frame : CECFrame) (startPos : Nat) : Result OpCode := do
  let byte ← frame.at' startPos
  return ⟨byte.toUInt32⟩

theorem ofFrame_returns {frame : CECFrame} {startPos : Nat} (h : startPos < frame.length) :
    ∃ op, ofFrame frame startPos = .ok op := by
  obtain ⟨byte, hbyte⟩ := CECFrame.at'_returns h
  exact ⟨⟨byte.toUInt32⟩, by rw [ofFrame, hbyte]; rfl⟩

/-- An opcode that is read for a log line, if it is there, changes nothing. -/
theorem ofFrame_logged {α : Type} {frame : CECFrame} (rest : Result α) :
    (if frame.length > 1 then ofFrame frame 1 >>= fun _ => rest else rest) = rest := by
  by_cases hopcode : frame.length > 1
  · obtain ⟨op, hop⟩ := ofFrame_returns hopcode
    rw [if_pos hopcode, hop, Result.ok_bind]
  · rw [if_neg hopcode]

/-- `OpCode::serialize`: the polling code is not put on the wire. -/
def serialize (op : OpCode) (frame : CECFrame) : Result CECFrame :=
  if op.opCode_ != Op.polling then frame.append op.opCode_.toUInt8 else .ok frame

end OpCode

/-! ## The header -/

/-- The class `Header`. -/
structure Header where
  from_ : LogicalAddress
  to_ : LogicalAddress
  deriving DecidableEq, Repr

namespace Header

/-- `Header(const CECFrame &frame, size_t startPos = 0)`. -/
def ofFrame (frame : CECFrame) (startPos : Nat) : Result Header := do
  let byte ← frame.at' startPos
  return { from_ := CECBytes.ofByte ((byte &&& 0xF0) >>> 4)
           to_ := CECBytes.ofByte ((byte &&& 0x0F) >>> 0) }

theorem ofFrame_returns {frame : CECFrame} {startPos : Nat} (h : startPos < frame.length) :
    ∃ header, ofFrame frame startPos = .ok header := by
  obtain ⟨byte, hbyte⟩ := CECFrame.at'_returns h
  exact ⟨_, by rw [ofFrame, hbyte]; rfl⟩

theorem ofFrame_empty {frame : CECFrame} (hempty : frame.length = 0) :
    ofFrame frame 0 = throwing .outOfRange := by
  have hat : frame.at' 0 = throwing .outOfRange := if_pos (Nat.le_of_eq hempty)
  rw [ofFrame, hat]
  rfl

/-- `Header::serialize`: the byte of `to`, with `from` put into its upper half. -/
def serialize (header : Header) (frame : CECFrame) : Result CECFrame := do
  let frame ← header.to_.serialize frame
  let byte ← frame.at' (frame.length - 1)
  let to_ ← header.to_.toInt
  assertThat (byte == to_)
  let from_ ← header.from_.toInt
  frame.setAt (frame.length - 1) (from_ <<< 4 ||| byte)

/-- The header of a message from `initiator` to `follower`. -/
def ofNibbles (initiator follower : UInt8) : Header :=
  { from_ := CECBytes.ofByte initiator, to_ := CECBytes.ofByte follower }

end Header

/-! ## Messages -/

/-- The message classes of `Messages.hpp`. -/
inductive Message where
  | activeSource (physicalAddress : PhysicalAddress)
  | imageViewOn
  | textViewOn
  | inActiveSource (physicalAddress : PhysicalAddress)
  | requestActiveSource
  | standby
  | getCECVersion
  | cecVersion (version : Version)
  | setMenuLanguage (language : Language)
  | getMenuLanguage
  | giveOSDName
  | setOSDName (osdName : OSDName)
  | setOSDString (osdString : OSDString)
  | givePhysicalAddress
  | reportPhysicalAddress (physicalAddress : PhysicalAddress) (deviceType : DeviceType)
  | giveDeviceVendorID
  | deviceVendorID (vendorId : VendorID)
  | giveDevicePowerStatus
  | reportPowerStatus (status : PowerStatus)
  | abort
  | featureAbort (feature : OpCode) (reason : AbortReason)
  | routingChange (from_ to_ : PhysicalAddress)
  | routingInformation (toSink : PhysicalAddress)
  | setStreamPath (toSink : PhysicalAddress)
  | requestShortAudioDescriptor (requestAudioFormat : List RequestAudioFormat)
      (numberofdescriptor : UInt8)
  | reportShortAudioDescriptor (shortAudioDescriptor : List ShortAudioDescriptor)
      (numberofdescriptor : UInt8)
  | systemAudioModeRequest (physicaladdress : PhysicalAddress)
  | setSystemAudioMode (status : SystemAudioStatus)
  | giveAudioStatus
  | reportAudioStatus (status : AudioStatus)
  | userControlPressed (uiCommand : UICommand)
  | userControlReleased
  | polling
  | requestArcInitiation
  | reportArcInitiation
  | requestArcTermination
  | reportArcTermination
  | initiateArc
  | terminateArc
  deriving DecidableEq, Repr

namespace Message

/-- `opCode()` of every class. -/
def opCode : Message → Op_t
  | activeSource _ => Op.activeSource
  | imageViewOn => Op.imageViewOn
  | textViewOn => Op.textViewOn
  | inActiveSource _ => Op.inactiveSource
  | requestActiveSource => Op.requestActiveSource
  | standby => Op.standby
  | getCECVersion => Op.getCecVersion
  | cecVersion _ => Op.cecVersion
  | setMenuLanguage _ => Op.setMenuLanguage
  | getMenuLanguage => Op.getMenuLanguage
  | giveOSDName => Op.giveOsdName
  | setOSDName _ => Op.setOsdName
  | setOSDString _ => Op.setOsdString
  | givePhysicalAddress => Op.givePhysicalAddress
  | reportPhysicalAddress _ _ => Op.reportPhysicalAddress
  | giveDeviceVendorID => Op.giveDeviceVendorId
  | deviceVendorID _ => Op.deviceVendorId
  | giveDevicePowerStatus => Op.giveDevicePowerStatus
  | reportPowerStatus _ => Op.reportPowerStatus
  | abort => Op.abort
  | featureAbort _ _ => Op.featureAbort
  | routingChange _ _ => Op.routingChange
  | routingInformation _ => Op.routingInformation
  | setStreamPath _ => Op.setStreamPath
  | requestShortAudioDescriptor _ _ => Op.requestShortAudioDescriptor
  | reportShortAudioDescriptor _ _ => Op.reportShortAudioDescriptor
  | systemAudioModeRequest _ => Op.systemAudioModeRequest
  | setSystemAudioMode _ => Op.setSystemAudioMode
  | giveAudioStatus => Op.giveAudioStatus
  | reportAudioStatus _ => Op.reportAudioStatus
  | userControlPressed _ => Op.userControlPressed
  | userControlReleased => Op.userControlReleased
  | polling => Op.polling
  | requestArcInitiation => Op.requestArcInitiation
  | reportArcInitiation => Op.reportArcInitiated
  | requestArcTermination => Op.requestArcTermination
  | reportArcTermination => Op.reportArcTerminated
  | initiateArc => Op.initiateArc
  | terminateArc => Op.terminateArc

/-- The loop `for (uint8_t i = 0; i < n; i++) operands[i].serialize(frame)`
over a vector of operands; an index outside the vector is not checked. -/
def serializeFrom {C : OperandClass} (operands : List (CECBytes C)) :
    (i n : Nat) → CECFrame → Result CECFrame
  | _, 0, frame => .ok frame
  | i, n + 1, frame =>
      match operands[i]? with
      | none => .error .undefined
      | some operand => do
          let frame ← operand.serialize frame
          serializeFrom operands (i + 1) n frame

/-- `PhysicalAddress::getByteValue(index)`: the nibbles of the two bytes. -/
def getByteValue (address : PhysicalAddress) (index : Nat) : Result UInt8 := do
  assertThat (index < 4)
  match index with
  | 0 => return ((← address.get 0) &&& 0xF0) >>> 4
  | 1 => return (← address.get 0) &&& 0x0F
  | 2 => return ((← address.get 1) &&& 0xF0) >>> 4
  | 3 => return (← address.get 1) &&& 0x0F
  | _ => return 0

/-- The test `SystemAudioModeRequest::serialize` makes: all four nibbles are
0xF, read from the last to the first. -/
def isAllF (address : PhysicalAddress) : Result Bool := do
  if (← getByteValue address 3) != 0xF then return false
  if (← getByteValue address 2) != 0xF then return false
  if (← getByteValue address 1) != 0xF then return false
  return (← getByteValue address 0) == 0xF

/-- `SystemAudioModeRequest::serialize`: F.F.F.F is put on the wire as no
operand at all. -/
def serializeSystemAudioModeRequest (physicaladdress : PhysicalAddress)
    (frame : CECFrame) : Result CECFrame := do
  if (← isAllF physicaladdress) then return frame
  physicaladdress.serialize frame

/-- `ActiveSource::serialize` and `InActiveSource::serialize`: the argument
`physicalAddress.toString()` of their log line is evaluated at every log level,
and reads `str[0]` and `str[1]`. -/
def serializeLogged (physicalAddress : PhysicalAddress) (frame : CECFrame) :
    Result CECFrame := do
  let _ ← physicalAddress.get 0
  let _ ← physicalAddress.get 1
  physicalAddress.serialize frame

/-- `serialize(CECFrame &frame)` of every class; the classes without operands
inherit the empty `DataBlock::serialize`. -/
def serialize : Message → CECFrame → Result CECFrame
  | activeSource physicalAddress, frame => serializeLogged physicalAddress frame
  | inActiveSource physicalAddress, frame => serializeLogged physicalAddress frame
  | cecVersion version, frame => version.serialize frame
  | setMenuLanguage language, frame => language.serialize frame
  | setOSDName osdName, frame => osdName.serialize frame
  | setOSDString osdString, frame => osdString.serialize frame
  | reportPhysicalAddress physicalAddress deviceType, frame => do
      deviceType.serialize (← physicalAddress.serialize frame)
  | deviceVendorID vendorId, frame => vendorId.serialize frame
  | reportPowerStatus status, frame => status.serialize frame
  | featureAbort feature reason, frame => do
      reason.serialize (← feature.serialize frame)
  | routingChange from_ to_, frame => do
      to_.serialize (← from_.serialize frame)
  | routingInformation toSink, frame => toSink.serialize frame
  | setStreamPath toSink, frame => toSink.serialize frame
  | requestShortAudioDescriptor formats numberofdescriptor, frame =>
      serializeFrom formats 0 numberofdescriptor.toNat frame
  | reportShortAudioDescriptor descriptors numberofdescriptor, frame =>
      serializeFrom descriptors 0 numberofdescriptor.toNat frame
  | systemAudioModeRequest physicaladdress, frame =>
      serializeSystemAudioModeRequest physicaladdress frame
  | setSystemAudioMode status, frame => status.serialize frame
  | reportAudioStatus status, frame => status.serialize frame
  | userControlPressed uiCommand, frame => uiCommand.serialize frame
  | _, frame => .ok frame

/-- With both bytes the log line changes nothing. -/
theorem serializeLogged_whole {physicalAddress : PhysicalAddress}
    (h : 2 ≤ physicalAddress.str.length) (frame : CECFrame) :
    serializeLogged physicalAddress frame = physicalAddress.serialize frame := by
  obtain ⟨first, hfirst⟩ : ∃ byte, physicalAddress.get 0 = .ok byte :=
    CECBytes.get_inside (by omega)
  obtain ⟨second, hsecond⟩ : ∃ byte, physicalAddress.get 1 = .ok byte :=
    CECBytes.get_inside (by omega)
  rw [serializeLogged, hfirst, Result.ok_bind, hsecond, Result.ok_bind]

/-- The log line reads behind an address that is cut. -/
theorem serializeLogged_cut {physicalAddress : PhysicalAddress}
    (h : physicalAddress.str.length = 1) (frame : CECFrame) :
    serializeLogged physicalAddress frame = .error .undefined := by
  obtain ⟨first, hfirst⟩ : ∃ byte, physicalAddress.get 0 = .ok byte :=
    CECBytes.get_inside (by omega)
  rw [serializeLogged, hfirst, Result.ok_bind, CECBytes.get_outside (by omega),
    Result.error_bind]

/-! ### The constructors from an operand block -/

/-- A class whose block is one operand: `operand(frame, startPos)`, where the
decoder leaves `startPos` at its default 0. -/
def ofBlock {C : OperandClass} (build : CECBytes C → Message)
    (block : CECFrame) : Result Message := do
  return build (← CECBytes.ofFrame block 0)

/-- A class whose block is two operands, the second behind the `MAX_LEN`
bytes of the first. -/
def ofBlock2 {C D : OperandClass} (build : CECBytes C → CECBytes D → Message)
    (block : CECFrame) : Result Message := do
  let first ← CECBytes.ofFrame block 0
  let second ← CECBytes.ofFrame block (0 + C.maxLen)
  return build first second

/-- `FeatureAbort(const CECFrame &frame, int startPos = 0)`; `OpCode::MAX_LEN`
is 1. -/
def featureAbortOfBlock (block : CECFrame) : Result Message := do
  let feature ← OpCode.ofFrame block 0
  let reason ← CECBytes.ofFrame block (0 + 1)
  return featureAbort feature reason

/-- The loop that fills a descriptor vector: entry `i` is read at
`startPos + i * stride`. -/
def descriptorsFrom {C : OperandClass} (block : CECFrame) (stride : Nat) :
    (i n : Nat) → Result (List (CECBytes C))
  | _, 0 => .ok []
  | i, n + 1 => do
      let operand ← CECBytes.ofFrame block (i * stride)
      let rest ← descriptorsFrom block stride (i + 1) n
      return operand :: rest

/-- `RequestShortAudioDescriptor(const CECFrame &frame, int startPos = 0)`. -/
def requestShortAudioDescriptorOfBlock (block : CECFrame) : Result Message := do
  let len : UInt8 := UInt8.ofNat block.length
  let numberofdescriptor : UInt8 := if len > 4 then 4 else len
  let formats ← descriptorsFrom block 1 0 numberofdescriptor.toNat
  return requestShortAudioDescriptor formats numberofdescriptor

/-- `ReportShortAudioDescriptor(const CECFrame &frame, int startPos = 0)`. -/
def reportShortAudioDescriptorOfBlock (block : CECFrame) : Result Message := do
  let numberofdescriptor : UInt8 := UInt8.ofNat (block.length / 3)
  let descriptors ← descriptorsFrom block 3 0 numberofdescriptor.toNat
  return reportShortAudioDescriptor descriptors numberofdescriptor

/-- `SystemAudioModeRequest(const CECFrame &frame, int startPos = 0)`: the
operand is read before the length of the block is looked at. -/
def systemAudioModeRequestOfBlock (block : CECFrame) : Result Message := do
  let physicaladdress ← CECBytes.ofFrame block 0
  if block.length = 0 then
    return systemAudioModeRequest ⟨[0xFF, 0xFF]⟩
  return systemAudioModeRequest physicaladdress

/-- The loop that packs an id and a format code into one byte each. -/
def audioFormatsFrom (formatid audioFormatCode : List UInt8) :
    (i n : Nat) → Result (List RequestAudioFormat)
  | _, 0 => .ok []
  | i, n + 1 =>
      match formatid[i]?, audioFormatCode[i]? with
      | some id, some code => do
          let rest ← audioFormatsFrom formatid audioFormatCode (i + 1) n
          return CECBytes.ofByte ((id <<< 6) ||| (code &&& 0x3f)) :: rest
      | _, _ => .error .undefined

/-- `RequestShortAudioDescriptor(formatid, audioFormatCode, number)`. -/
def requestShortAudioDescriptorOf (formatid audioFormatCode : List UInt8)
    (number_of_descriptor : UInt8) : Result Message := do
  let numberofdescriptor : UInt8 :=
    if number_of_descriptor > 4 then 4 else number_of_descriptor
  let formats ← audioFormatsFrom formatid audioFormatCode 0 numberofdescriptor.toNat
  return requestShortAudioDescriptor formats numberofdescriptor

end Message

namespace MessageEncoder

/-- `encode(const DataBlock &m, CECFrame &out)`. -/
def encodeBlock (m : Message) (out : CECFrame) : Result CECFrame := do
  let out ← OpCode.serialize ⟨m.opCode⟩ out
  m.serialize out

/-- `encode(const Header &h, const DataBlock &m)`. -/
def encode (h : Header) (m : Message) : Result CECFrame := do
  let out ← h.serialize CECFrame.empty
  encodeBlock m out

end MessageEncoder

end HdmiCec
