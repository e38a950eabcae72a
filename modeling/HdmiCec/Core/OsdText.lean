import HdmiCec.Core.Completeness

/-!
# OSD names and OSD strings made from a text

`OSDName(const char *str)` and `OSDString(const char *str)` copy the text into the vector of
the operand and call `validate`, whose answer they do not look at.  `serialize` puts the
whole vector on the wire, and the constructor from a frame takes `MAX_LEN` bytes of it.  The
file follows a text of any length through the four places.
-/

namespace HdmiCec

/-- What a `const char *` points to, up to its terminator. -/
structure CString where
  bytes : List UInt8
  no_terminator : ∀ byte ∈ bytes, byte ≠ 0

/-- `strlen`. -/
def CString.strlen (s : CString) : Nat := s.bytes.length

namespace CECBytes

variable {C : OperandClass}

/-- `CECBytes(const uint8_t *buf, size_t len)`. -/
def ofBuf (buf : List UInt8) (len : Nat) : CECBytes C := ⟨buf.take len⟩

/-- `CECBytes::validate` of an object whose construction has come to its own class. -/
def validateOwn (operand : CECBytes C) : Bool :=
  operand.str.length != 0 && operand.str.length ≤ C.maxLen

/-- `OSDString(const char *str)` and `OSDName(const char *str)`. -/
def ofText (str : CString) : Result (CECBytes C) := do
  let operand := ofBuf str.bytes str.strlen
  let _ := validateOwn operand
  return operand

end CECBytes

/-- `OSDName(const char *str)`. -/
def OSDName.ofText (str : CString) : Result OSDName := CECBytes.ofText str

/-- `OSDString(const char *str)`. -/
def OSDString.ofText (str : CString) : Result OSDString := CECBytes.ofText str

/-- No text is refused. -/
theorem CECBytes.ofText_eq {C : OperandClass} (str : CString) :
    (ofText str : Result (CECBytes C)) = .ok ⟨str.bytes⟩ := by
  show Except.ok (CECBytes.mk (str.bytes.take str.bytes.length)) = _
  rw [List.take_length]

/-! ## The two messages -/

/-- A message class that holds one operand of this class and nothing else, and the case of
the switch that builds it. -/
structure Carries {C : OperandClass} (build : CECBytes C → Message) : Prop where
  serialize : ∀ operand frame, (build operand).serialize frame = operand.serialize frame
  opCode : ∃ opcode : UInt8, (∀ operand, (build operand).opCode = opcode.toUInt32) ∧
    MessageDecoder.switchCases.lookup opcode.toUInt32 = some (Message.ofBlock build)

theorem setOSDName_carries : Carries Message.setOSDName where
  serialize _ _ := rfl
  opCode := ⟨0x47, fun _ => rfl, rfl⟩

theorem setOSDString_carries : Carries Message.setOSDString where
  serialize _ _ := rfl
  opCode := ⟨0x64, fun _ => rfl, rfl⟩

namespace OsdText

variable {C : OperandClass} {build : CECBytes C → Message}

/-- What the sender of the text can go by: it is refused when the operand is constructed, or
the frame has an operand within the limit of the class and gives the text back. -/
def Survives (build : CECBytes C → Message) (construct : CString → Result (CECBytes C))
    (initiator follower : UInt8) (s : CString) : Prop :=
  construct s = throwing .invalidParamException ∨
    ∃ operand frame, construct s = .ok operand ∧
      MessageEncoder.encode (Header.ofNibbles initiator follower) (build operand) = .ok frame ∧
      1 ≤ (frame.bytes.drop 2).length ∧ (frame.bytes.drop 2).length ≤ C.maxLen ∧
      ∀ process, ∃ header, (MessageDecoder.decode process frame).calls =
        [(build ⟨s.bytes⟩, header)]

/-! ## The encoder -/

theorem opCode_ne_polling (hcarries : Carries build) (operand : CECBytes C) :
    ((build operand).opCode != Op.polling) = true := by
  obtain ⟨opcode, hopcode, -⟩ := hcarries.opCode
  rw [hopcode, bne_iff_ne]
  intro heq
  have hlt := opcode.toNat_lt
  have hnat := congrArg UInt32.toNat heq
  rw [UInt8.toNat_toUInt32] at hnat
  change opcode.toNat = 512 at hnat
  omega

/-- What fits the frame is put on the wire, whatever the limit of the class is. -/
theorem encode_fits (hcarries : Carries build) (initiator follower : UInt8)
    (operand : CECBytes C) (hfits : operand.str.length ≤ 126) :
    ∃ frame, MessageEncoder.encode (Header.ofNibbles initiator follower) (build operand) =
        .ok frame ∧
      frame.bytes = Header.pack initiator follower :: (build operand).opCode.toUInt8 ::
        operand.str := by
  refine MessageEncoder.encode_extends initiator follower
    (opCode_ne_polling hcarries operand) ?_ hfits
  intro frame hroom
  rw [hcarries.serialize]
  exact operand.serialize_extends frame hroom

/-- A longer operand overflows the frame behind header and opcode. -/
theorem encode_overflows (hcarries : Carries build) (initiator follower : UInt8)
    (operand : CECBytes C) (hlong : 126 < operand.str.length) :
    MessageEncoder.encode (Header.ofNibbles initiator follower) (build operand) =
      throwing .outOfRange := by
  obtain ⟨headed, hheader, hheaded⟩ := Header.serialize_empty initiator follower
  have hone : headed.length = 1 := by
    rw [← CECFrame.bytes_length, hheaded]
    rfl
  obtain ⟨coded, hcoded, hbytes⟩ :=
    CECFrame.append_extends headed (build operand).opCode.toUInt8 (by omega)
  have htwo : coded.length = 2 := by
    rw [← CECFrame.bytes_length, hbytes, List.length_append, CECFrame.bytes_length, hone]
    rfl
  have hopcode : OpCode.serialize ⟨(build operand).opCode⟩ headed = .ok coded := by
    rw [OpCode.serialize, if_pos (opCode_ne_polling hcarries operand)]
    exact hcoded
  rw [MessageEncoder.encode, hheader, Result.ok_bind, MessageEncoder.encodeBlock, hopcode,
    Result.ok_bind, hcarries.serialize]
  exact CECFrame.appendAll_overflows coded operand.str (by omega)

/-! ## The decoder -/

/-- A frame of these classes gives the part of its operand that is within the limit, and
nothing when there is no operand. -/
theorem decode_cuts (hcarries : Carries build) {frame : CECFrame} {first : UInt8}
    {operand : CECBytes C} {str : List UInt8}
    (hbytes : frame.bytes = first :: (build operand).opCode.toUInt8 :: str)
    (process : Message → Header → Result Unit) :
    (MessageDecoder.decode process frame).calls =
      if str = [] then []
      else [(build ⟨str.take C.maxLen⟩, MessageDecoder.unpack first)] := by
  obtain ⟨opcode, hopcode, hlookup⟩ := hcarries.opCode
  have hsame : (build operand).opCode.toUInt8 = opcode := by
    rw [hopcode]
    exact UInt8.toUInt8_toUInt32 opcode
  have hsecond : frame.bytes[1]? = some opcode := by
    rw [hbytes, hsame]
    rfl
  obtain ⟨first', block, hparts, hcalls⟩ := MessageDecoder.decode_calls_eq hsecond hlookup
  rw [hbytes, hsame] at hparts
  cases hparts
  obtain ⟨hbuilt, hfailed⟩ := hcalls process
  by_cases hnil : block.bytes = []
  · rw [if_pos hnil]
    refine hfailed (.throws .invalidParamException) ?_
    have hread : (CECBytes.ofFrame block 0 : Result (CECBytes C)) =
        throwing .invalidParamException := by
      rw [CECBytes.ofFrame, CECBytes.ofFrameRange_eq block 0 _ (Nat.zero_le _) C.maxLen_le,
        if_neg (Nat.not_lt_zero _), List.drop_zero, hnil, List.take_nil, if_pos rfl]
    rw [Message.ofBlock, hread]
    rfl
  · rw [if_neg hnil]
    apply hbuilt
    have hne : block.bytes.take C.maxLen ≠ [] := by
      have hpos := C.maxLen_pos
      have hlength := List.length_pos_iff.mpr hnil
      apply List.ne_nil_of_length_pos
      rw [List.length_take]
      omega
    rw [Message.ofBlock, CECBytes.ofFrame_of_slice block 0 _ rfl hne]
    rfl

/-- A text of a length between one and the limit survives, and no other. -/
theorem carried_survives_iff (hcarries : Carries build) (hroom : C.maxLen ≤ 126)
    (initiator follower : UInt8) (s : CString) :
    Survives build CECBytes.ofText initiator follower s ↔
      1 ≤ s.strlen ∧ s.strlen ≤ C.maxLen := by
  constructor
  · rintro (hrefused | ⟨operand, frame, hoperand, hframe, hpos, hmax, -⟩)
    · rw [CECBytes.ofText_eq] at hrefused
      cases hrefused
    · rw [CECBytes.ofText_eq] at hoperand
      cases hoperand
      have hfits : s.bytes.length ≤ 126 := by
        apply Nat.not_lt.mp
        intro hlong
        have hoverflow := encode_overflows hcarries initiator follower ⟨s.bytes⟩ hlong
        rw [hframe] at hoverflow
        cases hoverflow
      obtain ⟨frame', hframe', hbytes⟩ := encode_fits hcarries initiator follower ⟨s.bytes⟩ hfits
      rw [hframe] at hframe'
      cases hframe'
      rw [hbytes] at hpos hmax
      exact ⟨hpos, hmax⟩
  · rintro ⟨hpos, hmax⟩
    have hfits : s.bytes.length ≤ 126 := Nat.le_trans hmax hroom
    obtain ⟨frame, hframe, hbytes⟩ := encode_fits hcarries initiator follower ⟨s.bytes⟩ hfits
    refine .inr ⟨⟨s.bytes⟩, frame, CECBytes.ofText_eq s, hframe, ?_, ?_, fun process => ?_⟩
    · rw [hbytes]
      exact hpos
    · rw [hbytes]
      exact hmax
    · have hne : s.bytes ≠ [] := List.ne_nil_of_length_pos hpos
      rw [decode_cuts hcarries hbytes, if_neg hne, List.take_of_length_le hmax]
      exact ⟨_, rfl⟩

/-- OSD names of one to fourteen characters and OSD strings of one to thirteen reach the
other side; the constructors take all others as well. -/
theorem osdText_survives_iff (initiator follower : UInt8) (s : CString) :
    (Survives .setOSDName OSDName.ofText initiator follower s ↔
        1 ≤ s.strlen ∧ s.strlen ≤ 14) ∧
      (Survives .setOSDString OSDString.ofText initiator follower s ↔
        1 ≤ s.strlen ∧ s.strlen ≤ 13) :=
  ⟨carried_survives_iff setOSDName_carries (by decide) initiator follower s,
    carried_survives_iff setOSDString_carries (by decide) initiator follower s⟩

/-- "RDK-Settop-Box1", which is one character too long for a name. -/
def longName : CString where
  bytes := [0x52, 0x44, 0x4B, 0x2D, 0x53, 0x65, 0x74, 0x74, 0x6F, 0x70, 0x2D, 0x42, 0x6F, 0x78,
    0x31]
  no_terminator := by decide +kernel

/-- It is taken and sent whole, and arrives without its last character. -/
theorem longName_not_survives :
    OSDName.ofText longName = .ok ⟨longName.bytes⟩ ∧
      (∃ frame, MessageEncoder.encode (Header.ofNibbles 3 0) (.setOSDName ⟨longName.bytes⟩) =
          .ok frame ∧
        frame.bytes = 0x30 :: 0x47 :: longName.bytes ∧
        (MessageDecoder.decode (fun _ _ => .ok ()) frame).calls =
          [(.setOSDName ⟨longName.bytes.take 14⟩, MessageDecoder.unpack 0x30)]) ∧
      ¬ Survives .setOSDName OSDName.ofText 3 0 longName := by
  refine ⟨CECBytes.ofText_eq longName, ?_, ?_⟩
  · obtain ⟨frame, hframe, hbytes⟩ :=
      encode_fits setOSDName_carries 3 0 ⟨longName.bytes⟩ (by decide)
    exact ⟨frame, hframe, hbytes, decode_cuts setOSDName_carries hbytes _⟩
  · intro hsurvives
    have hlimit :=
      ((carried_survives_iff setOSDName_carries (by decide) 3 0 longName).mp hsurvives).2
    revert hlimit
    decide

end OsdText

end HdmiCec
