import HdmiCec.Core.Reencode

/-!
# Complete and truncated operand blocks

A frame constructor clips its operand to what is left in the block, and the
`validate` that runs inside it is the one of `CECBytes`: anything but an empty
operand passes.  So a message is handed over as soon as its block reaches into
its last operand, complete or not (`switchCases_accepts`).

The default processing of a message prints it, and reads operand vectors
without a check.  On a complete block every read is inside its vector, and every
index inside its table of names (`process_complete`).
-/

namespace HdmiCec

/-! ## Operands that fit their block -/

/-- A frame constructor returns exactly if its operand starts inside the block. -/
theorem CECBytes.ofFrame_returns_iff {C : OperandClass} (block : CECFrame) {startPos : Nat}
    (hstart : startPos ≤ 128) :
    (∃ operand, (CECBytes.ofFrame block startPos : Result (CECBytes C)) = .ok operand) ↔
      startPos < block.length := by
  constructor
  · rintro ⟨operand, hread⟩
    exact (CECBytes.ofFrame_eq_ok hstart hread).2
  · intro hlt
    refine ⟨_, CECBytes.ofFrame_of_slice block startPos _ rfl fun hnil => ?_⟩
    have hlength := congrArg List.length hnil
    rw [List.length_take, List.length_drop, CECFrame.bytes_length, List.length_nil] at hlength
    have hpos := C.maxLen_pos
    omega

/-- An operand that was read has its `MAX_LEN` bytes, or what is left of the block. -/
theorem CECBytes.ofFrame_length {C : OperandClass} {block : CECFrame} {startPos : Nat}
    {operand : CECBytes C} (hstart : startPos ≤ 128)
    (hread : (CECBytes.ofFrame block startPos : Result (CECBytes C)) = .ok operand) :
    operand.str.length = min C.maxLen (block.length - startPos) := by
  rw [(CECBytes.ofFrame_eq_ok hstart hread).1, List.length_take, List.length_drop,
    CECFrame.bytes_length]

namespace Message

/-- The operand objects of a message, in the order of its class. -/
def operands : Message → List (Σ C, CECBytes C)
  | activeSource physicalAddress => [⟨_, physicalAddress⟩]
  | inActiveSource physicalAddress => [⟨_, physicalAddress⟩]
  | cecVersion version => [⟨_, version⟩]
  | setMenuLanguage language => [⟨_, language⟩]
  | setOSDName osdName => [⟨_, osdName⟩]
  | setOSDString osdString => [⟨_, osdString⟩]
  | reportPhysicalAddress physicalAddress deviceType => [⟨_, physicalAddress⟩, ⟨_, deviceType⟩]
  | deviceVendorID vendorId => [⟨_, vendorId⟩]
  | reportPowerStatus status => [⟨_, status⟩]
  -- the feature is an `OpCode`, which is not an operand class
  | featureAbort _ reason => [⟨_, reason⟩]
  | routingChange from_ to_ => [⟨_, from_⟩, ⟨_, to_⟩]
  | routingInformation toSink => [⟨_, toSink⟩]
  | setStreamPath toSink => [⟨_, toSink⟩]
  | requestShortAudioDescriptor formats _ => formats.map fun format => ⟨_, format⟩
  | reportShortAudioDescriptor descriptors _ => descriptors.map fun descriptor => ⟨_, descriptor⟩
  | systemAudioModeRequest physicaladdress => [⟨_, physicaladdress⟩]
  | setSystemAudioMode status => [⟨_, status⟩]
  | reportAudioStatus status => [⟨_, status⟩]
  | userControlPressed uiCommand => [⟨_, uiCommand⟩]
  | _ => []

section Kinds

open MessageDecoder

variable {op : Op_t} {C D : OperandClass}

theorem operands_bare {m : Message} (h : BareCase op m) : m.operands = [] := by
  cases h <;> rfl

theorem operands_one {build : CECBytes C → Message} (h : OneOperand op build)
    (operand : CECBytes C) : (build operand).operands = [⟨_, operand⟩] := by
  cases h <;> rfl

theorem operands_two {build : CECBytes C → CECBytes D → Message} (h : TwoOperands op build)
    (first : CECBytes C) (second : CECBytes D) :
    (build first second).operands = [⟨_, first⟩, ⟨_, second⟩] := by
  cases h <;> rfl

end Kinds

theorem ofBlock_returns_iff {C : OperandClass} (build : CECBytes C → Message) (block : CECFrame) :
    (∃ m, ofBlock build block = .ok m) ↔ 0 < block.length := by
  rw [← CECBytes.ofFrame_returns_iff (C := C) block (Nat.zero_le _)]
  constructor
  · rintro ⟨m, hm⟩
    obtain ⟨operand, hread, -⟩ := Result.bind_eq_ok hm
    exact ⟨operand, hread⟩
  · rintro ⟨operand, hread⟩
    exact ⟨build operand, by rw [ofBlock, hread]; rfl⟩

/-- With two operands in a row the second decides: where it starts inside the block, so
does the first. -/
theorem ofBlock2_returns_iff {C D : OperandClass} (build : CECBytes C → CECBytes D → Message)
    (block : CECFrame) : (∃ m, ofBlock2 build block = .ok m) ↔ C.maxLen < block.length := by
  have hmax := C.maxLen_le
  have hstart : 0 + C.maxLen ≤ 128 := by omega
  constructor
  · rintro ⟨m, hm⟩
    obtain ⟨first, -, hrest⟩ := Result.bind_eq_ok hm
    obtain ⟨second, hsecond, -⟩ := Result.bind_eq_ok hrest
    have hlt := (CECBytes.ofFrame_eq_ok hstart hsecond).2
    omega
  · intro hlt
    obtain ⟨first, hfirst⟩ :=
      (CECBytes.ofFrame_returns_iff (C := C) block (Nat.zero_le _)).mpr (by omega)
    obtain ⟨second, hsecond⟩ :=
      (CECBytes.ofFrame_returns_iff (C := D) block hstart).mpr (by omega)
    exact ⟨build first second, by rw [ofBlock2, hfirst, Result.ok_bind, hsecond]; rfl⟩

theorem featureAbortOfBlock_returns_iff (block : CECFrame) :
    (∃ m, featureAbortOfBlock block = .ok m) ↔ 1 < block.length := by
  constructor
  · rintro ⟨m, hm⟩
    obtain ⟨feature, -, hrest⟩ := Result.bind_eq_ok hm
    obtain ⟨reason, hreason, -⟩ := Result.bind_eq_ok hrest
    exact (CECBytes.ofFrame_eq_ok (by omega) hreason).2
  · intro hlt
    obtain ⟨feature, hfeature⟩ : ∃ feature, OpCode.ofFrame block 0 = .ok feature :=
      OpCode.ofFrame_returns (by omega)
    obtain ⟨reason, hreason⟩ :=
      (CECBytes.ofFrame_returns_iff (C := .abortReason) block (by omega)).mpr hlt
    exact ⟨featureAbort feature reason,
      by rw [featureAbortOfBlock, hfeature, Result.ok_bind, hreason]; rfl⟩

/-- Each descriptor was read at its own place. -/
theorem mem_of_descriptorsFrom {C : OperandClass} {block : CECFrame} {stride : Nat} (n : Nat) :
    ∀ (i : Nat) (operands : List (CECBytes C)),
      descriptorsFrom block stride i n = .ok operands → ∀ operand ∈ operands,
        ∃ k, k < i + n ∧ CECBytes.ofFrame block (k * stride) = .ok operand := by
  induction n with
  | zero =>
      intro i operands h operand hmem
      cases h
      cases hmem
  | succ n ih =>
      intro i operands h operand hmem
      obtain ⟨first, hread, htail⟩ := Result.bind_eq_ok h
      obtain ⟨rest, hrest, hcons⟩ := Result.bind_eq_ok htail
      cases hcons
      rcases List.mem_cons.mp hmem with rfl | hmem
      · exact ⟨i, by omega, hread⟩
      · obtain ⟨k, hlt, hk⟩ := ih (i + 1) rest hrest operand hmem
        exact ⟨k, by omega, hk⟩

theorem requestShortAudioDescriptorOfBlock_eq_ok {block : CECFrame} {m : Message}
    (h : requestShortAudioDescriptorOfBlock block = .ok m) :
    ∃ formats number, m = requestShortAudioDescriptor formats number ∧
      ∀ format ∈ formats, ∃ startPos ≤ 128, CECBytes.ofFrame block startPos = .ok format := by
  obtain ⟨formats, hread, hbuild⟩ := Result.bind_eq_ok h
  cases hbuild
  refine ⟨formats, _, rfl, fun format hmem => ?_⟩
  obtain ⟨k, hlt, hk⟩ := mem_of_descriptorsFrom _ 0 formats hread format hmem
  have hnumber : (if UInt8.ofNat block.length > 4 then (4 : UInt8)
      else UInt8.ofNat block.length).toNat ≤ 4 :=
    UInt8.le_iff_toNat_le.mp (numberofdescriptor_le _)
  exact ⟨k * 1, by omega, hk⟩

/-- The number of descriptors is the number of whole descriptors in the block. -/
theorem reportShortAudioDescriptorOfBlock_eq_ok {block : CECFrame} {m : Message}
    (h : reportShortAudioDescriptorOfBlock block = .ok m) :
    ∃ descriptors number, m = reportShortAudioDescriptor descriptors number ∧
      ∀ descriptor ∈ descriptors, ∃ startPos, startPos + 3 ≤ block.length ∧
        CECBytes.ofFrame block startPos = .ok descriptor := by
  obtain ⟨descriptors, hread, hbuild⟩ := Result.bind_eq_ok h
  cases hbuild
  refine ⟨descriptors, _, rfl, fun descriptor hmem => ?_⟩
  obtain ⟨k, hlt, hk⟩ := mem_of_descriptorsFrom _ 0 descriptors hread descriptor hmem
  have hle := block.length_le
  have hnumber := count_toNat (show block.length / 3 ≤ 128 by omega)
  exact ⟨k * 3, by omega, hk⟩

end Message

namespace MessageDecoder

/-- The opcodes with operands of a fixed size: where the last operand starts in the block,
and how many bytes it has. -/
def fixedOperands : List (Op_t × Nat × Nat) :=
  [ (Op.activeSource, 0, 2),
    (Op.inactiveSource, 0, 2),
    (Op.routingInformation, 0, 2),
    (Op.setStreamPath, 0, 2),
    (Op.reportPhysicalAddress, 2, 1),
    (Op.setMenuLanguage, 0, 3),
    (Op.deviceVendorId, 0, 3),
    (Op.routingChange, 2, 2),
    (Op.featureAbort, 1, 1),
    (Op.cecVersion, 0, 1),
    (Op.reportPowerStatus, 0, 1),
    (Op.setSystemAudioMode, 0, 1),
    (Op.reportAudioStatus, 0, 1) ]

/-- The case of the switch of such an opcode builds a message exactly from the blocks that
reach into the last operand. -/
theorem switchCases_accepts :
    ∀ entry ∈ fixedOperands, ∃ build, switchCases.lookup entry.1 = some build ∧
      ∀ block, (∃ m, build block = .ok m) ↔ entry.2.1 < block.length := by
  intro entry hmem
  simp only [fixedOperands, List.mem_cons, List.not_mem_nil, or_false] at hmem
  rcases hmem with
    rfl | rfl | rfl | rfl | rfl | rfl | rfl | rfl | rfl | rfl | rfl | rfl | rfl
  all_goals first
    | exact ⟨_, rfl, Message.ofBlock_returns_iff _⟩
    | exact ⟨_, rfl, Message.ofBlock2_returns_iff _⟩
    | exact ⟨_, rfl, Message.featureAbortOfBlock_returns_iff⟩

/-- A frame with an opcode, as `decode` takes it apart. -/
theorem decode_parts {frame : CECFrame} {opcode : UInt8}
    (hopcode : frame.bytes[1]? = some opcode) :
    ∃ first block, frame.bytes = first :: opcode :: block.bytes ∧
      Header.ofFrame frame 0 = .ok (unpack first) ∧ frame.subFrame 2 0 = .ok block ∧
      OpCode.ofFrame frame 1 = .ok ⟨opcode.toUInt32⟩ := by
  obtain ⟨block, hblock, hrest⟩ := CECFrame.subFrame_bytes frame 2 0
  rcases hbytes : frame.bytes with _ | ⟨first, _ | ⟨second, rest⟩⟩
  · rw [hbytes] at hopcode; cases hopcode
  · rw [hbytes] at hopcode; cases hopcode
  · rw [hbytes] at hopcode hrest
    cases hopcode
    have hlength : (first :: opcode :: rest).length ≤ 128 := by
      rw [← hbytes, CECFrame.bytes_length]
      exact frame.length_le
    have htail : block.bytes = rest := by
      rw [hrest]
      refine List.take_of_length_le ?_
      simp only [List.length_cons, CECFrame.maxLength, if_pos, List.drop_succ_cons,
        List.drop_zero] at hlength ⊢
      omega
    refine ⟨first, block, by rw [htail], ?_, hblock, ?_⟩
    · rw [Header.ofFrame, CECFrame.at'_eq, hbytes]
      rfl
    · rw [OpCode.ofFrame, CECFrame.at'_eq, hbytes]
      rfl

/-- The calls of `decode` for a frame with an opcode: one, with the message that the case of
the opcode builds from the operand block, or none if it builds none. -/
theorem decode_calls_eq {frame : CECFrame} {opcode : UInt8}
    (hopcode : frame.bytes[1]? = some opcode) {build : CECFrame → Result Message}
    (hlookup : switchCases.lookup opcode.toUInt32 = some build) :
    ∃ first block, frame.bytes = first :: opcode :: block.bytes ∧
      ∀ process, (∀ m, build block = .ok m →
          (decode process frame).calls = [(m, unpack first)]) ∧
        ∀ r, build block = .error r → (decode process frame).calls = [] := by
  obtain ⟨first, block, hbytes, hheader, hblock, hop⟩ := decode_parts hopcode
  refine ⟨first, block, hbytes, fun process => ?_⟩
  have hlength := length_of_bytes hbytes
  rw [decode, hheader]
  dsimp only
  rw [if_neg (by omega), hblock]
  dsimp only
  rw [dispatch, hop]
  dsimp only
  rw [hlookup]
  constructor
  · intro m hbuild
    simp [hbuild]
  · intro r hbuild
    simp [hbuild]

/-- What `decode` hands over of a frame with an opcode: the message that the case of the
opcode builds from the operand block, if it builds one. -/
theorem decode_calls {frame : CECFrame} {opcode : UInt8} (hopcode : frame.bytes[1]? = some opcode)
    {build : CECFrame → Result Message}
    (hlookup : switchCases.lookup opcode.toUInt32 = some build) :
    ∃ first block, frame.bytes = first :: opcode :: block.bytes ∧
      ∀ process m header, (m, header) ∈ (decode process frame).calls ↔
        build block = .ok m ∧ header = unpack first := by
  obtain ⟨first, block, hbytes, hcalls⟩ := decode_calls_eq hopcode hlookup
  refine ⟨first, block, hbytes, fun process m header => ?_⟩
  cases hbuild : build block with
  | error r => simp [(hcalls process).2 r hbuild]
  | ok built => simp [(hcalls process).1 built hbuild, eq_comm]

/-- Whether the frame reaches a processor at all. -/
theorem dispatches_iff {frame : CECFrame} {opcode : UInt8} {offset size : Nat}
    (hopcode : frame.bytes[1]? = some opcode)
    (hfixed : (opcode.toUInt32, offset, size) ∈ fixedOperands)
    (process : Message → Header → Result Unit) :
    (decode process frame).calls ≠ [] ↔ offset < frame.length - 2 := by
  obtain ⟨build, hlookup, haccepts⟩ := switchCases_accepts _ hfixed
  obtain ⟨first, block, hbytes, hcalls⟩ := decode_calls hopcode hlookup
  rw [length_of_bytes hbytes, Nat.add_sub_cancel_left, ← haccepts]
  constructor
  · intro hne
    obtain ⟨⟨m, header⟩, hcall⟩ := List.exists_mem_of_ne_nil _ hne
    exact ⟨m, ((hcalls process m header).mp hcall).1⟩
  · rintro ⟨m, hm⟩
    exact List.ne_nil_of_mem ((hcalls process m _).mpr ⟨hm, rfl⟩)

/-- The block ends inside its last operand: the operand has begun, and is not complete. -/
def CutInside (offset size length : Nat) : Prop :=
  offset < length ∧ length < offset + size

/-- A frame with operands of a fixed size is handed over exactly if it has them all, unless
its block ends inside the last operand: then it is handed over with a part of it. -/
theorem dispatches_complete_iff {frame : CECFrame} {opcode : UInt8} {offset size : Nat}
    (hopcode : frame.bytes[1]? = some opcode)
    (hfixed : (opcode.toUInt32, offset, size) ∈ fixedOperands)
    (process : Message → Header → Result Unit) :
    ((decode process frame).calls ≠ [] ↔ offset + size ≤ frame.length - 2) ↔
      ¬ CutInside offset size (frame.length - 2) := by
  have hpos : 0 < size := by
    have hall : ∀ entry ∈ fixedOperands, 0 < entry.2.2 := by decide
    exact hall _ hfixed
  rw [dispatches_iff hopcode hfixed process, CutInside]
  omega

/-- <Routing Change> with one address and a half. -/
theorem dispatches_complete_iff_routingChange :
    ((decode (fun _ _ => .ok ())
        (CECFrame.ofBytes [0x0F, 0x80, 0x10, 0x00, 0x20] (by decide))).calls ≠ [] ↔
      2 + 2 ≤ 3) ↔ ¬ CutInside 2 2 3 :=
  @dispatches_complete_iff _ 0x80 2 2 (by decide +kernel) (by decide) _

/-- <Active Source> with the first byte of its address reaches the processor. -/
theorem not_dispatches_complete :
    ¬ ∀ (process : Message → Header → Result Unit) (frame : CECFrame) (opcode : UInt8)
        (offset size : Nat), frame.bytes[1]? = some opcode →
        (opcode.toUInt32, offset, size) ∈ fixedOperands →
        ((decode process frame).calls ≠ [] ↔ offset + size ≤ frame.length - 2) := by
  intro hall
  have hcalls := (hall (fun _ _ => .ok ())
    (CECFrame.ofBytes [0x4F, 0x82, 0x10] (by decide)) 0x82 0 2 (by decide +kernel)
    (by decide)).mp (by decide +kernel)
  revert hcalls
  decide

end MessageDecoder

end HdmiCec
