import HdmiCec.Core.AudioMessages
import HdmiCec.Core.Trailing

/-!
# A second pass changes nothing

A frame that is decoded and encoded again is a prefix of the old one: `Reencode` says which.
Here the prefix is decoded.  Every constructor builds from the operand bytes that it has
kept what it has built from the whole block, so that a message and its header are the same
after the second pass.

The exceptions are the three classes that read an address to encode it, if it is half an
address, and <System Audio Mode Request> with F.F.F.F, which is encoded without an operand.
-/

namespace HdmiCec

/-- An operand is read alike from the part of the block that it reaches into. -/
theorem CECBytes.ofFrame_shorter {C : OperandClass} {block shorter : CECFrame} {k : Nat}
    (hbytes : shorter.bytes = block.bytes.take k) {startPos : Nat} (hstart : startPos ≤ 128)
    {operand : CECBytes C}
    (hread : (CECBytes.ofFrame block startPos : Result (CECBytes C)) = .ok operand)
    (hreach : min (startPos + C.maxLen) block.length ≤ k) :
    (CECBytes.ofFrame shorter startPos : Result (CECBytes C)) = .ok operand := by
  obtain ⟨hstr, hlt⟩ := CECBytes.ofFrame_eq_ok hstart hread
  have hlength := block.bytes_length
  have hpos := C.maxLen_pos
  apply CECBytes.ofFrame_of_slice
  · rw [hbytes, hstr, List.drop_take, List.take_take]
    by_cases hinside : C.maxLen ≤ k - startPos
    · rw [Nat.min_eq_left hinside]
    · -- the operand goes to the end of the block
      rw [List.take_of_length_le, List.take_of_length_le] <;> rw [List.length_drop] <;> omega
  · rw [hstr]
    apply List.ne_nil_of_length_pos
    rw [List.length_take, List.length_drop]
    omega

namespace Message

/-- The block of the operand bytes that a message keeps. -/
def KeptOf (block shorter : CECFrame) (m : Message) : Prop :=
  shorter.bytes = block.bytes.take (m.kept block.length)

/-- The request that is encoded without its operand. -/
def IsAllF (m : Message) : Prop := m = systemAudioModeRequest ⟨[0xFF, 0xFF]⟩

/-- A case of the switch builds the same from what its message keeps of the block. -/
def Rebuilds (build : CECFrame → Result Message) : Prop :=
  ∀ (block shorter : CECFrame) (m : Message), build block = .ok m → KeptOf block shorter m →
    ¬ m.IsAllF → build shorter = .ok m

theorem rebuilds_constant (m : Message) : Rebuilds fun _ => .ok m :=
  fun _ _ _ hbuild _ _ => hbuild

theorem ofBlock_rebuilds {C : OperandClass} {build : CECBytes C → Message}
    (hkept : ∀ operand n, (build operand).kept n = min C.maxLen n) :
    Rebuilds (ofBlock build) := by
  intro block shorter m hbuild hshorter _
  obtain ⟨operand, hread, hm⟩ := Result.bind_eq_ok hbuild
  cases hm
  rw [KeptOf, hkept] at hshorter
  rw [ofBlock, CECBytes.ofFrame_shorter hshorter (Nat.zero_le _) hread (by omega)]
  rfl

theorem ofBlock2_rebuilds {C D : OperandClass} {build : CECBytes C → CECBytes D → Message}
    (hkept : ∀ first second n, (build first second).kept n = min (C.maxLen + D.maxLen) n) :
    Rebuilds (ofBlock2 build) := by
  intro block shorter m hbuild hshorter _
  obtain ⟨first, hfirst, hrest⟩ := Result.bind_eq_ok hbuild
  obtain ⟨second, hsecond, hm⟩ := Result.bind_eq_ok hrest
  cases hm
  have hmax := C.maxLen_le
  rw [KeptOf, hkept] at hshorter
  rw [ofBlock2, CECBytes.ofFrame_shorter hshorter (Nat.zero_le _) hfirst (by omega),
    Result.ok_bind, CECBytes.ofFrame_shorter hshorter (by omega) hsecond (by omega)]
  rfl

theorem featureAbortOfBlock_rebuilds : Rebuilds featureAbortOfBlock := by
  intro block shorter m hbuild hshorter _
  obtain ⟨feature, hfeature, hrest⟩ := Result.bind_eq_ok hbuild
  obtain ⟨reason, hreason, hm⟩ := Result.bind_eq_ok hrest
  cases hm
  have hbytes : shorter.bytes = block.bytes.take (min 2 block.length) := hshorter
  have hlt := (CECBytes.ofFrame_eq_ok (by omega) hreason).2
  have hsame : shorter.at' 0 = block.at' 0 := by
    rw [CECFrame.at'_eq, CECFrame.at'_eq, hbytes, List.getElem?_take_of_lt (by omega)]
  have hopcode : OpCode.ofFrame shorter 0 = .ok feature := by
    rw [OpCode.ofFrame, hsame]
    exact hfeature
  have hread : (CECBytes.ofFrame shorter (0 + 1) : Result AbortReason) = .ok reason := by
    apply CECBytes.ofFrame_shorter hbytes (by omega) hreason
    simp only [OperandClass.maxLen]
    omega
  rw [featureAbortOfBlock, hopcode, Result.ok_bind, hread]
  rfl

/-! ## The counted descriptors -/

theorem descriptorsFrom_shorter {C : OperandClass} {block shorter : CECFrame} {k : Nat}
    (hbytes : shorter.bytes = block.bytes.take k) (n : Nat) :
    ∀ (i : Nat) (operands : List (CECBytes C)), (i + n) * C.maxLen ≤ k → k ≤ 128 →
      descriptorsFrom block C.maxLen i n = .ok operands →
      descriptorsFrom shorter C.maxLen i n = .ok operands := by
  induction n with
  | zero =>
      intro i operands _ _ h
      exact h
  | succ n ih =>
      intro i operands hbound hk h
      obtain ⟨operand, hread, htail⟩ := Result.bind_eq_ok h
      obtain ⟨rest, hrest, hcons⟩ := Result.bind_eq_ok htail
      cases hcons
      have hnext : (i + 1) * C.maxLen ≤ (i + (n + 1)) * C.maxLen :=
        Nat.mul_le_mul_right _ (by omega)
      rw [Nat.succ_mul] at hnext
      have hlater : (i + 1 + n) * C.maxLen ≤ k := by
        rw [Nat.add_right_comm]
        exact hbound
      rw [descriptorsFrom, CECBytes.ofFrame_shorter hbytes (by omega) hread (by omega),
        Result.ok_bind, ih (i + 1) rest hlater hk hrest]
      rfl

theorem requestShortAudioDescriptorOfBlock_rebuilds :
    Rebuilds requestShortAudioDescriptorOfBlock := by
  intro block shorter m hbuild hshorter _
  have hle := block.length_le
  have hle' := shorter.length_le
  obtain ⟨formats, hread, hm⟩ := Result.bind_eq_ok hbuild
  cases hm
  have hbytes : shorter.bytes = block.bytes.take (min 4 block.length) := hshorter
  have hlength : shorter.length = min 4 block.length := by
    rw [← CECFrame.bytes_length, hbytes, List.length_take, CECFrame.bytes_length]
    omega
  have hnumber := count_toNat (show min 4 block.length ≤ 128 by omega)
  rw [numberofdescriptor_eq hle, hnumber] at hread
  have hread' : descriptorsFrom shorter 1 0 (min 4 block.length) = .ok formats :=
    descriptorsFrom_shorter (C := .requestAudioFormat) hbytes _ 0 formats
      (by simp only [OperandClass.maxLen]; omega) (by omega) hread
  rw [requestShortAudioDescriptorOfBlock]
  rw [numberofdescriptor_eq hle, numberofdescriptor_eq shorter.length_le, hlength,
    ← Nat.min_assoc, Nat.min_self, hnumber, hread']
  rfl

theorem reportShortAudioDescriptorOfBlock_rebuilds :
    Rebuilds reportShortAudioDescriptorOfBlock := by
  intro block shorter m hbuild hshorter _
  have hle := block.length_le
  obtain ⟨descriptors, hread, hm⟩ := Result.bind_eq_ok hbuild
  cases hm
  have hbytes : shorter.bytes = block.bytes.take (3 * (block.length / 3)) := hshorter
  have hlength : shorter.length / 3 = block.length / 3 := by
    rw [← CECFrame.bytes_length, hbytes, List.length_take, CECFrame.bytes_length]
    omega
  have hnumber := count_toNat (show block.length / 3 ≤ 128 by omega)
  rw [hnumber] at hread
  have hread' : descriptorsFrom shorter 3 0 (block.length / 3) = .ok descriptors :=
    descriptorsFrom_shorter (C := .shortAudioDescriptor) hbytes _ 0 descriptors
      (by simp only [OperandClass.maxLen]; omega) (by omega) hread
  rw [reportShortAudioDescriptorOfBlock, hlength, hnumber, hread']
  rfl

theorem systemAudioModeRequestOfBlock_rebuilds : Rebuilds systemAudioModeRequestOfBlock := by
  intro block shorter m hbuild hshorter hsome
  obtain ⟨physicaladdress, hread, -⟩ := Result.bind_eq_ok hbuild
  obtain ⟨address, rfl, hstr, hpos⟩ := systemAudioModeRequestOfBlock_eq_ok hbuild
  have hsame : address = physicaladdress := by
    have hstr' := (CECBytes.ofFrame_eq_ok (Nat.zero_le _) hread).1
    rw [List.drop_zero] at hstr'
    cases address
    cases physicaladdress
    simp_all [OperandClass.maxLen]
  subst hsame
  have haddress : address.str ≠ [0xFF, 0xFF] := by
    intro hall
    apply hsome
    rw [IsAllF, ← hall]
  have hbytes : shorter.bytes = block.bytes.take (min 2 block.length) := by
    rw [KeptOf, kept, if_neg haddress] at hshorter
    exact hshorter
  have hne : shorter.length ≠ 0 := by
    rw [← CECFrame.bytes_length, hbytes, List.length_take, CECFrame.bytes_length]
    omega
  have hread' : (CECBytes.ofFrame shorter 0 : Result PhysicalAddress) = .ok address :=
    CECBytes.ofFrame_shorter hbytes (Nat.zero_le _) hread
      (by simp only [OperandClass.maxLen]; omega)
  rw [systemAudioModeRequestOfBlock, hread', Result.ok_bind, if_neg hne]
  rfl

end Message

namespace MessageDecoder

open Message

theorem switchCases_rebuild : ∀ entry ∈ switchCases, Rebuilds entry.2 := by
  rintro ⟨op, build⟩ hmem
  cases switchCases_case hmem with
  | bare => exact rebuilds_constant _
  | one hone => exact ofBlock_rebuilds hone.kept_eq
  | two htwo => exact ofBlock2_rebuilds htwo.kept_eq
  | featureAbort => exact featureAbortOfBlock_rebuilds
  | requestShortAudioDescriptor => exact requestShortAudioDescriptorOfBlock_rebuilds
  | reportShortAudioDescriptor => exact reportShortAudioDescriptorOfBlock_rebuilds
  | systemAudioModeRequest => exact systemAudioModeRequestOfBlock_rebuilds

/-- A <System Audio Mode Request> that is encoded without its operand. -/
def WithoutOperand (frame : CECFrame) : Prop :=
  (frame.bytes.drop 1).take 3 = [0x70, 0xFF, 0xFF]

instance (frame : CECFrame) : Decidable (WithoutOperand frame) :=
  inferInstanceAs (Decidable (_ = _))

/-- What is encoded of a message that was handed over is handed over as the same message
with the same header. -/
def Recodes (m : Message) (header : Header) : Prop :=
  ∃ out, MessageEncoder.encode header m = .ok out ∧
    ∀ process, (decode process out).calls = [(m, header)]

section Built

variable {first opcode : UInt8} {block : CECFrame} {m : Message} {build : CECFrame → Result Message}

/-- The case of the request is the one of its opcode. -/
theorem build_of_request (hcase : (opcode.toUInt32, build) ∈ switchCases)
    (hrequest : opcode.toUInt32 = Op.systemAudioModeRequest) :
    build = systemAudioModeRequestOfBlock := by
  have hlookup := switchOf_lookup hcase
  rw [hrequest] at hlookup
  exact (Option.some.inj hlookup).symm

theorem opcode_of_allF (hopcode : m.opCode = opcode.toUInt32) (hall : m.IsAllF) :
    opcode = 0x70 := by
  rw [hall] at hopcode
  have hbyte := congrArg UInt32.toUInt8 hopcode
  simpa [Message.opCode, Op.systemAudioModeRequest] using hbyte.symm

theorem withoutOperand_iff {frame : CECFrame}
    (hbytes : frame.bytes = first :: opcode :: block.bytes)
    (hcase : (opcode.toUInt32, build) ∈ switchCases) (hbuild : build block = .ok m) :
    WithoutOperand frame ↔ m.IsAllF := by
  have hparts : WithoutOperand frame ↔ opcode = 0x70 ∧ block.bytes.take 2 = [0xFF, 0xFF] := by
    rw [WithoutOperand, hbytes]
    simp
  rw [hparts]
  constructor
  · rintro ⟨rfl, htwo⟩
    rw [build_of_request hcase rfl] at hbuild
    obtain ⟨⟨str⟩, rfl, hstr, -⟩ := systemAudioModeRequestOfBlock_eq_ok hbuild
    change str = _ at hstr
    rw [IsAllF, hstr, htwo]
  · rintro rfl
    have hopcode := (switchCases_putsBack _ hcase block _ hbuild).1
    have hbyte := opcode_of_allF hopcode rfl
    rw [build_of_request hcase hopcode.symm] at hbuild
    obtain ⟨address, hm, hstr, -⟩ := systemAudioModeRequestOfBlock_eq_ok hbuild
    cases hm
    exact ⟨hbyte, hstr.symm⟩

/-- What is encoded of a message that the switch has built is decoded by the same case. -/
theorem built_recodes_iff (hcase : (opcode.toUInt32, build) ∈ switchCases)
    (hbuild : build block = .ok m) (hfits : 2 + block.length ≤ 128) :
    Recodes m (unpack first) ↔
      ¬ (ReadsAddress opcode.toUInt32 ∧ block.length = 1) ∧ ¬ m.IsAllF := by
  obtain ⟨hopcode, hserialize⟩ := switchCases_putsBack _ hcase block m hbuild
  split at hserialize
  · next htruncated =>
    -- half an address is not encoded
    refine iff_of_false ?_ fun hnot => hnot.1 htruncated
    rintro ⟨out, hout, -⟩
    rw [encode_undefined hopcode hserialize] at hout
    cases hout
  · next hwhole =>
    obtain ⟨out, hout, hextends⟩ := encode_extends first hopcode hserialize hfits
    have hbytes : out.bytes = first :: opcode :: block.bytes.take (m.kept block.length) := by
      rw [hextends, CECFrame.bytes_empty]
      rfl
    by_cases hall : m.IsAllF
    · refine iff_of_false ?_ fun hnot => hnot.2 hall
      rintro ⟨out', hout', hcalls⟩
      cases hout.symm.trans hout'
      have hempty : out.bytes = [first, 0x70] := by
        rw [hbytes, opcode_of_allF hopcode hall, hall, Message.kept, if_pos rfl, List.take_zero]
      have hnone := hcalls fun _ _ => .ok ()
      rw [decode_emptyRequest _ hempty] at hnone
      cases hnone
    · refine iff_of_true ⟨out, hout, fun process => ?_⟩ ⟨hwhole, hall⟩
      obtain ⟨first', block', hparts, hcalls⟩ :=
        @decode_calls_eq out opcode (by rw [hbytes]; rfl) _ (switchOf_lookup hcase)
      rw [hbytes] at hparts
      obtain ⟨rfl, hrest⟩ := List.cons.inj hparts
      have hkept : KeptOf block block' m := (List.cons.inj hrest).2.symm
      exact (hcalls process).1 m (switchCases_rebuild _ hcase block block' m hbuild hkept hall)

end Built

/-- Encoding and decoding once more gives back every message that was handed over, with its
header, unless the frame ends within an address that `serialize` reads or is the request with
F.F.F.F: after the first pass a second one changes nothing. -/
theorem recodes_iff {process : Message → Header → Result Unit} {frame : CECFrame} {m : Message}
    {header : Header} (hcall : (m, header) ∈ (decode process frame).calls) :
    Recodes m header ↔ ¬ TruncatedAddress frame ∧ ¬ WithoutOperand frame := by
  rcases calls_cases hcall with
    ⟨first, hbytes, rfl, rfl⟩ | ⟨first, opcode, block, build, hbytes, rfl, hcase, hbuild⟩
  · -- the polling message is its header
    obtain ⟨out, hout, hpolling⟩ :=
      Header.serialize_empty ((first &&& 0xF0) >>> 4) ((first &&& 0x0F) >>> 0)
    rw [Header.pack_unpack] at hpolling
    refine iff_of_true ⟨out, ?_, fun process' => ?_⟩ ⟨fun htruncated => ?_, fun hwithout => ?_⟩
    · rw [MessageEncoder.encode, unpack, hout]
      rfl
    · have hone : out.length = 1 := by
        rw [← CECFrame.bytes_length, hpolling]
        rfl
      have hheader : Header.ofFrame out 0 = .ok (unpack first) := by
        rw [Header.ofFrame, CECFrame.at'_eq, hpolling]
        rfl
      rw [decode, hheader]
      dsimp only
      rw [if_pos hone]
    · have hthree := htruncated.1
      rw [← CECFrame.bytes_length, hbytes] at hthree
      cases hthree
    · rw [WithoutOperand, hbytes] at hwithout
      cases hwithout
  · have hlength := length_of_bytes hbytes
    have hle := frame.length_le
    rw [truncatedAddress_iff hbytes, withoutOperand_iff hbytes hcase hbuild]
    exact built_recodes_iff hcase hbuild (by omega)

/-- <Set OSD Name> with two bytes more than a name has: the second pass gives the 14 bytes
that the first one has kept. -/
theorem recodes_iff_longName :
    Recodes (.setOSDName ⟨[0x53, 0x54, 0x42, 0x53, 0x54, 0x42, 0x53, 0x54, 0x42, 0x53, 0x54, 0x42,
      0x53, 0x54]⟩) (unpack 0x50) := by
  refine (@recodes_iff (fun _ _ => .ok ())
    (CECFrame.ofBytes [0x50, 0x47, 0x53, 0x54, 0x42, 0x53, 0x54, 0x42, 0x53, 0x54, 0x42, 0x53,
      0x54, 0x42, 0x53, 0x54, 0x42, 0x53] (by decide)) _ _ ?_).mpr (by decide)
  exact List.mem_singleton.mpr rfl

end MessageDecoder

end HdmiCec
