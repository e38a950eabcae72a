import HdmiCec.Core.Completeness

/-!
# The operands' own `validate`

Most operand classes with a table of values override `validate`.  The check in the
frame constructor is a virtual call from the constructor of the base class, so the
override is not the version that runs there; `ownValidate` is the one that a caller
of `validate` on the finished object gets.

What the decoder hands over passes `ownValidate` exactly if the bytes that become
such operands are in the range of their class (`operandsValid_iff`).
-/

namespace HdmiCec

/-! ## The most derived versions -/

/-- `validate` as the class of the operand has it: the override of the class, or
`CECBytes::validate` with the `getMaxLen` of the class. -/
def CECBytes.ownValidate {C : OperandClass} (operand : CECBytes C) : Result Bool :=
  match C with
  | .abortReason => do return (← operand.get 0) ≤ 5
  | .deviceType => do return (← operand.get 0) ≤ 7
  | .logicalAddress => do return (← operand.get 0) ≤ 15
  | .version => do return (← operand.get 0) ≤ 5 && (← operand.get 0) ≥ 4
  | .powerStatus => do return (← operand.get 0) ≤ 3
  | .systemAudioStatus => do return (← operand.get 0) ≤ 1
  | .audioStatus => do return ((← operand.get 0) &&& 0x80) >>> 7 ≤ 1
  | .osdString | .osdName | .language | .vendorID | .physicalAddress | .requestAudioFormat
  | .shortAudioDescriptor | .uiCommand =>
      .ok (operand.str.length != 0 && operand.str.length ≤ C.maxLen)

/-- The least and the greatest value that the override accepts. -/
def OperandClass.range : OperandClass → UInt8 × UInt8
  | .abortReason => (0, 5)
  | .deviceType => (0, 7)
  | .logicalAddress => (0, 15)
  | .version => (4, 5)
  | .powerStatus => (0, 3)
  | .systemAudioStatus => (0, 1)
  -- the only bit that is looked at has a name for both values
  | .audioStatus => (0, 255)
  | .osdString | .osdName | .language | .vendorID | .physicalAddress | .requestAudioFormat
  | .shortAudioDescriptor | .uiCommand => (0, 255)

/-- The byte is in the range of the class. -/
def OperandClass.InRange (C : OperandClass) (byte : UInt8) : Prop :=
  C.range.1 ≤ byte ∧ byte ≤ C.range.2

instance (C : OperandClass) (byte : UInt8) : Decidable (C.InRange byte) :=
  inferInstanceAs (Decidable (_ ∧ _))

/-- An operand that is neither empty nor too long passes its own `validate` exactly if its
first byte is in the range of its class. -/
theorem CECBytes.ownValidate_iff {C : OperandClass} {operand : CECBytes C} {first : UInt8}
    {rest : List UInt8} (hstr : operand.str = first :: rest)
    (hlength : operand.str.length ≤ C.maxLen) :
    operand.ownValidate = .ok true ↔ C.InRange first := by
  have hget : operand.get 0 = .ok first := by rw [CECBytes.get, hstr]; rfl
  have hzero : (0 : UInt8) ≤ first := UInt8.le_iff_toNat_le.mpr (Nat.zero_le _)
  have hall : first ≤ 255 :=
    UInt8.le_iff_toNat_le.mpr (Nat.le_of_lt_succ first.toNat_lt)
  cases C with
  | abortReason | deviceType | logicalAddress | powerStatus | systemAudioStatus =>
      simp [ownValidate, hget, OperandClass.InRange, OperandClass.range, hzero]
  | version =>
      simp [ownValidate, hget, OperandClass.InRange, OperandClass.range, and_comm]
  | audioStatus =>
      have hmute : ((first &&& 0x80) >>> 7) ≤ 1 := by
        rw [UInt8.le_iff_toNat_le]
        have hand : (first &&& 0x80).toNat ≤ 128 := by
          rw [UInt8.toNat_and]
          exact Nat.and_le_right
        rw [UInt8.toNat_shiftRight]
        show (first &&& 0x80).toNat >>> 7 ≤ 1
        rw [Nat.shiftRight_eq_div_pow]
        omega
      simp [ownValidate, hget, OperandClass.InRange, OperandClass.range, hzero, hall, hmute]
  | osdString | osdName | language | vendorID | physicalAddress | requestAudioFormat
  | shortAudioDescriptor | uiCommand =>
      have hne : operand.str.length ≠ 0 := by rw [hstr]; exact Nat.succ_ne_zero _
      simp only [ownValidate, OperandClass.InRange, OperandClass.range]
      simp [hzero, hall, hne, hlength]

/-- For an operand that was read, it is the byte at its place in the block. -/
theorem CECBytes.ownValidate_ofFrame {C : OperandClass} {block : CECFrame} {startPos : Nat}
    {operand : CECBytes C} (hstart : startPos ≤ 128)
    (hread : (CECBytes.ofFrame block startPos : Result (CECBytes C)) = .ok operand) :
    operand.ownValidate = .ok true ↔ ∀ byte ∈ block.bytes[startPos]?, C.InRange byte := by
  obtain ⟨hstr, hlt⟩ := CECBytes.ofFrame_eq_ok hstart hread
  rw [← CECFrame.bytes_length] at hlt
  have hpos := C.maxLen_pos
  have hfirst : operand.str =
      block.bytes[startPos] :: (block.bytes.drop (startPos + 1)).take (C.maxLen - 1) := by
    rw [hstr, List.drop_eq_getElem_cons hlt, List.take_cons hpos]
  have hlength : operand.str.length ≤ C.maxLen := by
    rw [hstr, List.length_take]
    omega
  rw [ownValidate_iff hfirst hlength, List.getElem?_eq_getElem hlt]
  simp

namespace Message

/-- Every operand of the message passes its own `validate`. -/
def OperandsValid (m : Message) : Prop :=
  ∀ operand ∈ m.operands, operand.2.ownValidate = .ok true

theorem operandsValid_of_nil {m : Message} (h : m.operands = []) : m.OperandsValid := by
  rw [OperandsValid, h]
  exact List.forall_mem_nil _

theorem ofBlock_valid_iff {C : OperandClass} {build : CECBytes C → Message}
    (hoperands : ∀ operand, (build operand).operands = [⟨_, operand⟩])
    {block : CECFrame} {m : Message} (h : ofBlock build block = .ok m) :
    m.OperandsValid ↔ ∀ byte ∈ block.bytes[0]?, C.InRange byte := by
  obtain ⟨operand, hread, hbuild⟩ := Result.bind_eq_ok h
  cases hbuild
  rw [OperandsValid, hoperands, List.forall_mem_singleton]
  exact CECBytes.ownValidate_ofFrame (Nat.zero_le _) hread

theorem ofBlock2_valid_iff {C D : OperandClass} {build : CECBytes C → CECBytes D → Message}
    (hoperands : ∀ first second,
      (build first second).operands = [⟨_, first⟩, ⟨_, second⟩])
    {block : CECFrame} {m : Message} (h : ofBlock2 build block = .ok m) :
    m.OperandsValid ↔ (∀ byte ∈ block.bytes[0]?, C.InRange byte) ∧
      ∀ byte ∈ block.bytes[C.maxLen]?, D.InRange byte := by
  obtain ⟨first, hfirst, hrest⟩ := Result.bind_eq_ok h
  obtain ⟨second, hsecond, hbuild⟩ := Result.bind_eq_ok hrest
  cases hbuild
  rw [Nat.zero_add] at hsecond
  rw [OperandsValid, hoperands, List.forall_mem_cons, List.forall_mem_singleton]
  exact and_congr (CECBytes.ownValidate_ofFrame (Nat.zero_le _) hfirst)
    (CECBytes.ownValidate_ofFrame C.maxLen_le hsecond)

theorem featureAbortOfBlock_valid_iff {block : CECFrame} {m : Message}
    (h : featureAbortOfBlock block = .ok m) :
    m.OperandsValid ↔ ∀ byte ∈ block.bytes[1]?, OperandClass.abortReason.InRange byte := by
  obtain ⟨feature, -, hrest⟩ := Result.bind_eq_ok h
  obtain ⟨reason, hreason, hbuild⟩ := Result.bind_eq_ok hrest
  cases hbuild
  rw [OperandsValid, operands, List.forall_mem_singleton]
  exact CECBytes.ownValidate_ofFrame (by omega) hreason

/-- A class without a table of values has every byte in its range. -/
theorem inRange_of_all {C : OperandClass} (hall : C.range = (0, 255)) (byte : UInt8) :
    C.InRange byte := by
  rw [OperandClass.InRange, hall]
  exact ⟨UInt8.le_iff_toNat_le.mpr (Nat.zero_le _),
    UInt8.le_iff_toNat_le.mpr (Nat.le_of_lt_succ byte.toNat_lt)⟩

theorem requestShortAudioDescriptorOfBlock_valid {block : CECFrame} {m : Message}
    (h : requestShortAudioDescriptorOfBlock block = .ok m) : m.OperandsValid := by
  obtain ⟨formats, number, rfl, hread⟩ := requestShortAudioDescriptorOfBlock_eq_ok h
  rw [OperandsValid, operands, List.forall_mem_map]
  intro format hmem
  obtain ⟨startPos, hstart, hk⟩ := hread format hmem
  exact (CECBytes.ownValidate_ofFrame hstart hk).mpr fun byte _ => inRange_of_all rfl byte

theorem reportShortAudioDescriptorOfBlock_valid {block : CECFrame} {m : Message}
    (h : reportShortAudioDescriptorOfBlock block = .ok m) : m.OperandsValid := by
  obtain ⟨descriptors, number, rfl, hread⟩ := reportShortAudioDescriptorOfBlock_eq_ok h
  rw [OperandsValid, operands, List.forall_mem_map]
  intro descriptor hmem
  obtain ⟨startPos, hwhole, hk⟩ := hread descriptor hmem
  have hle := block.length_le
  exact (CECBytes.ownValidate_ofFrame (by omega) hk).mpr fun byte _ => inRange_of_all rfl byte

theorem systemAudioModeRequestOfBlock_valid {block : CECFrame} {m : Message}
    (h : systemAudioModeRequestOfBlock block = .ok m) : m.OperandsValid := by
  obtain ⟨physicaladdress, hread, hbuild⟩ := Result.bind_eq_ok h
  have hpos := (CECBytes.ofFrame_eq_ok (Nat.zero_le _) hread).2
  rw [if_neg (by omega)] at hbuild
  cases hbuild
  rw [OperandsValid, operands, List.forall_mem_singleton]
  exact (CECBytes.ownValidate_ofFrame (Nat.zero_le _) hread).mpr
    fun byte _ => inRange_of_all rfl byte

end Message

/-! ## The frame as a whole -/

namespace MessageDecoder

/-- The operands with a table of values among those that `decode` reads: where they are
in the operand block, and their class. -/
def valuedOperands : List (Op_t × Nat × OperandClass) :=
  [ (Op.cecVersion, 0, .version),
    (Op.reportPhysicalAddress, 2, .deviceType),
    (Op.reportPowerStatus, 0, .powerStatus),
    (Op.featureAbort, 1, .abortReason),
    (Op.setSystemAudioMode, 0, .systemAudioStatus) ]

/-- The byte of the block that becomes such an operand, if there is one, is in the range
of its class. -/
def BlockInRange (op : Op_t) (operands : List UInt8) : Prop :=
  ∀ i C, valuedOperands.lookup op = some (i, C) → ∀ byte ∈ operands[i]?, C.InRange byte

/-- The frame carries no operand value that is out of range. -/
def ValuesInRange (frame : CECFrame) : Prop :=
  ∀ opcode, frame.bytes[1]? = some opcode →
    BlockInRange opcode.toUInt32 (frame.bytes.drop 2)

theorem blockInRange_iff {op : Op_t} {i : Nat} {C : OperandClass} {operands : List UInt8}
    (hlookup : valuedOperands.lookup op = some (i, C)) :
    BlockInRange op operands ↔ ∀ byte ∈ operands[i]?, C.InRange byte := by
  simp [BlockInRange, hlookup]

theorem blockInRange_of_none {op : Op_t} {operands : List UInt8}
    (hlookup : valuedOperands.lookup op = none) : BlockInRange op operands := by
  intro i C hsome
  rw [hlookup] at hsome
  cases hsome

/-- A class with one operand has no table of values, or is the one of the table. -/
theorem OneOperand.valued {op : Op_t} {C : OperandClass} {build : CECBytes C → Message}
    (h : OneOperand op build) :
    C.range = (0, 255) ∧ valuedOperands.lookup op = none ∨
      valuedOperands.lookup op = some (0, C) := by
  cases h <;> first | exact .inl ⟨rfl, rfl⟩ | exact .inr rfl

/-- The operands that a case of the switch builds are valid exactly if the values in the
block are in range. -/
theorem switchCases_valid_iff :
    ∀ entry ∈ switchCases, ∀ block m, entry.2 block = .ok m →
      (m.OperandsValid ↔ BlockInRange entry.1 block.bytes) := by
  rintro ⟨op, build⟩ hmem block m h
  have hany : ∀ {C : OperandClass} {i : Nat}, C.range = (0, 255) →
      ∀ byte ∈ block.bytes[i]?, C.InRange byte :=
    fun hall byte _ => Message.inRange_of_all hall byte
  cases switchCases_case hmem with
  | bare hbare =>
      cases h
      refine iff_of_true (Message.operandsValid_of_nil (Message.operands_bare hbare)) ?_
      exact blockInRange_of_none (by cases hbare <;> rfl)
  | one hone =>
      have hvalid := Message.ofBlock_valid_iff (Message.operands_one hone) h
      obtain ⟨hrange, hnone⟩ | hsome := hone.valued
      · exact iff_of_true (hvalid.mpr (hany hrange)) (blockInRange_of_none hnone)
      · rw [blockInRange_iff hsome]
        exact hvalid
  | two htwo =>
      rw [Message.ofBlock2_valid_iff (Message.operands_two htwo) h]
      cases htwo with
      | routingChange => exact iff_of_true ⟨hany rfl, hany rfl⟩ (blockInRange_of_none rfl)
      | reportPhysicalAddress =>
          rw [blockInRange_iff rfl]
          exact and_iff_right (hany rfl)
  | featureAbort =>
      rw [blockInRange_iff rfl]
      exact Message.featureAbortOfBlock_valid_iff h
  | requestShortAudioDescriptor =>
      exact iff_of_true (Message.requestShortAudioDescriptorOfBlock_valid h)
        (blockInRange_of_none rfl)
  | reportShortAudioDescriptor =>
      exact iff_of_true (Message.reportShortAudioDescriptorOfBlock_valid h)
        (blockInRange_of_none rfl)
  | systemAudioModeRequest =>
      exact iff_of_true (Message.systemAudioModeRequestOfBlock_valid h)
        (blockInRange_of_none rfl)

/-- Where the block has the byte of such an operand, the message is built. -/
theorem valuedOperand_read {op : Op_t} {i : Nat} {C : OperandClass}
    (hlookup : valuedOperands.lookup op = some (i, C)) : (op, i, 1) ∈ fixedOperands := by
  have hall : ∀ entry ∈ valuedOperands, (entry.1, entry.2.1, 1) ∈ fixedOperands := by decide
  exact hall _ (mem_of_lookup hlookup)

/-- What a constructor that checks its operand would give: the operands of a message that
reaches the processor pass their own `validate`, and a frame with a value out of range
does not reach it. -/
def Checks (process : Message → Header → Result Unit) (frame : CECFrame) : Prop :=
  (∀ m header, (m, header) ∈ (decode process frame).calls → m.OperandsValid) ∧
    (¬ ValuesInRange frame → (decode process frame).calls = [])

/-- The constructors let every value through: the operands that reach a processor are
valid exactly if the frame carries no value that is out of range. -/
theorem operandsValid_iff (process : Message → Header → Result Unit) (frame : CECFrame) :
    Checks process frame ↔ ValuesInRange frame := by
  constructor
  · rintro ⟨hvalid, -⟩ opcode hopcode i C hlookup byte hbyte
    obtain ⟨build, hcase, haccepts⟩ := switchCases_accepts _ (valuedOperand_read hlookup)
    obtain ⟨first, block, hbytes, hcalls⟩ := decode_calls hopcode hcase
    have hblock : frame.bytes.drop 2 = block.bytes := by rw [hbytes]; rfl
    rw [hblock] at hbyte
    -- the byte is there, so the constructor returns
    have hlt : i < block.length := by
      rw [← CECFrame.bytes_length]
      exact (List.getElem?_eq_some_iff.mp hbyte).1
    obtain ⟨m, hm⟩ := (haccepts block).mpr hlt
    have hoperands := hvalid m (unpack first) ((hcalls process m _).mpr ⟨hm, rfl⟩)
    have hvalues := (switchCases_valid_iff _ (mem_of_lookup hcase) block m hm).mp hoperands
    exact hvalues i C hlookup byte hbyte
  · intro hrange
    refine ⟨fun m header hcall => ?_, fun hnot => absurd hrange hnot⟩
    rcases calls_cases hcall with
      ⟨first, -, rfl, -⟩ | ⟨first, opcode, block, build, hbytes, -, hmem, hbuild⟩
    · exact Message.operandsValid_of_nil rfl
    · have hblock := hrange opcode (by rw [hbytes]; rfl)
      rw [hbytes] at hblock
      exact (switchCases_valid_iff _ hmem block m hbuild).mpr hblock

/-- <Report Power Status> with the reserved value 7 reaches the processor. -/
theorem not_operandsValid :
    ¬ ∀ (process : Message → Header → Result Unit) (frame : CECFrame), Checks process frame := by
  intro hall
  have hvalid := (hall (fun _ _ => .ok ())
    (CECFrame.ofBytes [0x40, 0x90, 0x07] (by decide))).1
  have hoperand := hvalid (.reportPowerStatus ⟨[0x07]⟩) (unpack 0x40) (by decide +kernel)
    ⟨_, ⟨[0x07]⟩⟩ List.mem_cons_self
  revert hoperand
  decide

end MessageDecoder

end HdmiCec
