import HdmiCec.Core.Completeness

/-!
# Bytes behind the operands

A later version of the protocol may add operands to a message.  A constructor from a frame
slices by its own offsets and `MAX_LEN`, so an operand that is complete stays the same when
the block goes on behind it.  The exceptions are the operands whose size is what is left of
the frame: names and strings, and the descriptors that are counted by the length.
-/

namespace HdmiCec

/-- An operand that is complete in its block is read alike from a longer one. -/
theorem CECBytes.ofFrame_longer {C : OperandClass} {block longer : CECFrame}
    {extra : List UInt8} (hbytes : longer.bytes = block.bytes ++ extra) {startPos : Nat}
    (hstart : startPos ≤ 128) {operand : CECBytes C}
    (hread : (CECBytes.ofFrame block startPos : Result (CECBytes C)) = .ok operand)
    (hfull : operand.str.length = C.maxLen) :
    (CECBytes.ofFrame longer startPos : Result (CECBytes C)) = .ok operand := by
  obtain ⟨hstr, hlt⟩ := CECBytes.ofFrame_eq_ok hstart hread
  have hle : startPos ≤ block.bytes.length := by
    rw [CECFrame.bytes_length]
    omega
  have henough : C.maxLen ≤ (block.bytes.drop startPos).length := by
    rw [hstr, List.length_take] at hfull
    omega
  apply CECBytes.ofFrame_of_slice
  · rw [hbytes, List.drop_append_of_le_length hle, List.take_append_of_le_length henough, hstr]
  · apply List.ne_nil_of_length_pos
    have hpos := C.maxLen_pos
    omega

namespace Message

/-- The messages whose operands have a size of their own.  The others take what is left of
the frame, or are told by its length. -/
def FixedSize : Message → Prop
  | setOSDName _ => False
  | setOSDString _ => False
  | requestShortAudioDescriptor _ _ => False
  | reportShortAudioDescriptor _ _ => False
  | polling => False
  | _ => True

/-- A message with operands of a fixed size, all of which are complete. -/
structure Whole (m : Message) : Prop where
  fixed : m.FixedSize
  complete : ∀ operand ∈ m.operands, operand.2.str.length = operand.1.maxLen

/-- A case of the switch builds the same from every longer block. -/
def Ignores (build : CECFrame → Result Message) : Prop :=
  ∀ (block longer : CECFrame) (extra : List UInt8) (m : Message),
    longer.bytes = block.bytes ++ extra → build block = .ok m → m.Whole →
      build longer = .ok m

theorem ignores_constant (m : Message) : Ignores fun _ => .ok m :=
  fun _ _ _ _ _ hbuild _ => hbuild

theorem ofBlock_ignores {C : OperandClass} {build : CECBytes C → Message}
    (hsize : ∀ operand, (build operand).Whole → operand.str.length = C.maxLen) :
    Ignores (ofBlock build) := by
  intro block longer extra m hbytes hbuild hwhole
  obtain ⟨operand, hread, hm⟩ := Result.bind_eq_ok hbuild
  cases hm
  rw [ofBlock, CECBytes.ofFrame_longer hbytes (Nat.zero_le _) hread (hsize operand hwhole)]
  rfl

theorem ofBlock2_ignores {C D : OperandClass} {build : CECBytes C → CECBytes D → Message}
    (hsize : ∀ first second, (build first second).Whole →
      first.str.length = C.maxLen ∧ second.str.length = D.maxLen) :
    Ignores (ofBlock2 build) := by
  intro block longer extra m hbytes hbuild hwhole
  obtain ⟨first, hfirst, hrest⟩ := Result.bind_eq_ok hbuild
  obtain ⟨second, hsecond, hm⟩ := Result.bind_eq_ok hrest
  cases hm
  obtain ⟨hsizeFirst, hsizeSecond⟩ := hsize first second hwhole
  have hstart : 0 + C.maxLen ≤ 128 := by
    have hmax := C.maxLen_le
    omega
  rw [ofBlock2, CECBytes.ofFrame_longer hbytes (Nat.zero_le _) hfirst hsizeFirst,
    Result.ok_bind, CECBytes.ofFrame_longer hbytes hstart hsecond hsizeSecond]
  rfl

theorem featureAbortOfBlock_ignores : Ignores featureAbortOfBlock := by
  intro block longer extra m hbytes hbuild hwhole
  obtain ⟨feature, hfeature, hrest⟩ := Result.bind_eq_ok hbuild
  obtain ⟨reason, hreason, hm⟩ := Result.bind_eq_ok hrest
  cases hm
  have hsize : reason.str.length = OperandClass.abortReason.maxLen :=
    hwhole.complete ⟨_, reason⟩ (List.mem_singleton.mpr rfl)
  have hlonger : OpCode.ofFrame longer 0 = .ok feature := by
    obtain ⟨byte, hat, -⟩ := Result.bind_eq_ok hfeature
    have hsame : longer.at' 0 = block.at' 0 := by
      rw [CECFrame.at'_eq] at hat
      rw [CECFrame.at'_eq, CECFrame.at'_eq, hbytes]
      cases hblock : block.bytes with
      | nil =>
          rw [hblock] at hat
          cases hat
      | cons first rest => rfl
    rw [OpCode.ofFrame, hsame]
    exact hfeature
  rw [featureAbortOfBlock, hlonger, Result.ok_bind,
    CECBytes.ofFrame_longer hbytes (by omega) hreason hsize]
  rfl

/-- The physical address is read before the length of the block is looked at, and the block
is not empty then. -/
theorem systemAudioModeRequestOfBlock_ignores : Ignores systemAudioModeRequestOfBlock := by
  intro block longer extra m hbytes hbuild hwhole
  obtain ⟨physicaladdress, rfl, hstr, hpos⟩ := systemAudioModeRequestOfBlock_eq_ok hbuild
  have hsize : physicaladdress.str.length = 2 :=
    hwhole.complete ⟨_, physicaladdress⟩ (List.mem_singleton.mpr rfl)
  have henough : 2 ≤ block.bytes.length := by
    rw [hstr, List.length_take] at hsize
    omega
  have hread : (CECBytes.ofFrame longer 0 : Result PhysicalAddress) = .ok physicaladdress := by
    refine CECBytes.ofFrame_of_slice longer 0 physicaladdress.str ?_ ?_
    · rw [List.drop_zero, hbytes]
      show (block.bytes ++ extra).take 2 = _
      rw [List.take_append_of_le_length henough, hstr]
    · apply List.ne_nil_of_length_pos
      omega
  have hlonger : longer.length ≠ 0 := by
    rw [← CECFrame.bytes_length, hbytes, List.length_append]
    omega
  rw [systemAudioModeRequestOfBlock, hread, Result.ok_bind, if_neg hlonger]
  rfl

end Message

namespace MessageDecoder

open Message

theorem OneOperand.fixed_size {op : Op_t} {C : OperandClass} {build : CECBytes C → Message}
    (h : OneOperand op build) (operand : CECBytes C) (hwhole : (build operand).Whole) :
    operand.str.length = C.maxLen := by
  cases h with
  | setOSDString | setOSDName => exact hwhole.fixed.elim
  | _ => exact hwhole.complete ⟨_, operand⟩ (List.mem_singleton.mpr rfl)

theorem TwoOperands.fixed_size {op : Op_t} {C D : OperandClass}
    {build : CECBytes C → CECBytes D → Message} (h : TwoOperands op build)
    (first : CECBytes C) (second : CECBytes D) (hwhole : (build first second).Whole) :
    first.str.length = C.maxLen ∧ second.str.length = D.maxLen := by
  cases h <;>
    exact ⟨hwhole.complete ⟨_, first⟩ (List.mem_cons_self ..),
      hwhole.complete ⟨_, second⟩ (List.mem_cons_of_mem _ (List.mem_singleton.mpr rfl))⟩

/-- No case looks behind operands that are complete. -/
theorem switchCases_ignore : ∀ entry ∈ switchCases, Ignores entry.2 := by
  rintro ⟨op, build⟩ hmem
  cases switchCases_case hmem with
  | bare => exact ignores_constant _
  | one hone => exact ofBlock_ignores hone.fixed_size
  | two htwo => exact ofBlock2_ignores htwo.fixed_size
  | featureAbort => exact featureAbortOfBlock_ignores
  | systemAudioModeRequest => exact systemAudioModeRequestOfBlock_ignores
  | requestShortAudioDescriptor | reportShortAudioDescriptor =>
      -- descriptors are told by the length of the block
      intro block longer extra m hbytes hbuild hwhole
      obtain ⟨operands, -, hm⟩ := Result.bind_eq_ok hbuild
      cases hm
      exact hwhole.fixed.elim

/-- What stands behind the complete operands of a frame changes neither the message that is
handed over nor its header. -/
theorem decode_trailing {process : Message → Header → Result Unit} {frame : CECFrame}
    {m : Message} {header : Header} (hcall : (m, header) ∈ (decode process frame).calls)
    (hwhole : m.Whole) {extra : List UInt8} (hroom : frame.length + extra.length ≤ 128) :
    ∃ longer, frame.appendAll extra = .ok longer ∧ longer.bytes = frame.bytes ++ extra ∧
      ∀ process', (decode process' longer).calls = [(m, header)] := by
  obtain ⟨longer, happend, hlonger⟩ := CECFrame.appendAll_extends frame extra hroom
  refine ⟨longer, happend, hlonger, fun process' => ?_⟩
  rcases calls_cases hcall with
    ⟨first, -, rfl, -⟩ | ⟨first, opcode, block, build, hbytes, rfl, hmem, hbuild⟩
  · exact hwhole.fixed.elim
  · have hopcode : longer.bytes[1]? = some opcode := by
      rw [hlonger, hbytes]
      rfl
    obtain ⟨first', block', hparts, hcalls⟩ :=
      decode_calls_eq hopcode (switchOf_lookup hmem)
    rw [hlonger, hbytes] at hparts
    obtain ⟨rfl, hrest⟩ := List.cons.inj hparts
    have hblock : block'.bytes = block.bytes ++ extra := (List.cons.inj hrest).2.symm
    exact (hcalls process').1 m (switchCases_ignore _ hmem block block' extra m hblock hbuild
      hwhole)

/-- <Report Physical Address> with two more bytes than the protocol knows. -/
theorem decode_trailing_reportPhysicalAddress :
    ∃ longer, (CECFrame.ofBytes [0x4F, 0x84, 0x10, 0x00, 0x04] (by decide)).appendAll
        [0xAA, 0xBB] = .ok longer ∧
      longer.bytes = [0x4F, 0x84, 0x10, 0x00, 0x04, 0xAA, 0xBB] ∧
      ∀ process', (decode process' longer).calls =
        [(.reportPhysicalAddress ⟨[0x10, 0x00]⟩ ⟨[0x04]⟩, unpack 0x4F)] :=
  @decode_trailing (fun _ _ => .ok ()) (CECFrame.ofBytes [0x4F, 0x84, 0x10, 0x00, 0x04] (by decide))
    (.reportPhysicalAddress ⟨[0x10, 0x00]⟩ ⟨[0x04]⟩) (unpack 0x4F) (by decide +kernel)
    ⟨trivial, by decide⟩ [0xAA, 0xBB] (by decide)

end MessageDecoder

end HdmiCec
