import HdmiCec.Core.Completeness
import HdmiCec.Core.MessageProcessor

/-!
# Printing complete messages

`MessageProcessor::process` prints the header and the message.  Printing reads an
operand at places that its class fixes, and the classes with a table of names use
what they read as an index.  Where every operand reaches as far as printing reads
(`ReadsInside`), nothing depends on what lies behind the vectors: the outcome is the
one of `MessageProcessor.processFormatting_returns`, whatever a read outside comes to.

The operands of a complete message reach that far (`switchCases_readsInside`).
-/

namespace HdmiCec

/-- How many bytes of an operand printing reads without looking at its length. -/
def OperandClass.printLen : OperandClass → Nat
  | .physicalAddress => 2
  -- `getAtmosbit` reads the third byte
  | .shortAudioDescriptor => 3
  | .osdString | .osdName | .language | .vendorID | .uiCommand => 0
  | .abortReason | .deviceType | .logicalAddress | .version | .powerStatus
  | .requestAudioFormat | .systemAudioStatus | .audioStatus => 1

/-- The operand has the bytes that printing reads. -/
def CECBytes.ReadsInside {C : OperandClass} (operand : CECBytes C) : Prop :=
  C.printLen ≤ operand.str.length

/-- Every operand of the message has the bytes that printing reads. -/
def Message.ReadsInside (m : Message) : Prop :=
  ∀ operand ∈ m.operands, operand.2.ReadsInside

section

variable (outside : Result UInt8)

namespace CECBytes

variable {C : OperandClass}

theorem peek_inside (operand : CECBytes C) {i : Nat} (h : i < operand.str.length) :
    operand.peek outside i = operand.peek (.ok 0) i := by
  rw [peek, peek, List.getElem?_eq_getElem h]

theorem toString_inside {operand : CECBytes C} (h : operand.ReadsInside) :
    operand.toString outside = operand.toString (.ok 0) := by
  cases C with
  | osdString | osdName | language | vendorID | uiCommand => rfl
  | physicalAddress =>
      have hlength : 2 ≤ operand.str.length := h
      rw [toString, toString, peek_inside outside operand (by omega),
        peek_inside outside operand (by omega)]
  | shortAudioDescriptor =>
      have hlength : 3 ≤ operand.str.length := h
      rw [toString, toString, peek_inside outside operand (by omega)]
  | requestAudioFormat | audioStatus =>
      have hlength : 1 ≤ operand.str.length := h
      rw [toString, toString, peek_inside outside operand hlength]
  | abortReason | deviceType | logicalAddress | version | powerStatus | systemAudioStatus =>
      have hlength : 1 ≤ operand.str.length := h
      simp only [toString, nameOf, peek_inside outside operand hlength]

theorem getAtmosbit_inside {operand : ShortAudioDescriptor} (h : operand.ReadsInside) :
    operand.getAtmosbit outside = operand.getAtmosbit (.ok 0) := by
  have hlength : 3 ≤ operand.str.length := h
  have hfirst := peek_inside outside operand (i := 0) (by omega)
  have hthird := peek_inside outside operand (i := 2) (by omega)
  simp only [getAtmosbit, hfirst, hthird]

end CECBytes

/-- The addresses of a header that was read from a frame are one byte each. -/
theorem Header.print_inside (first : UInt8) :
    (MessageDecoder.unpack first).print outside =
      (MessageDecoder.unpack first).print (.ok 0) := rfl

namespace Message

theorem printFrom_congr {C : OperandClass} {f g : CECBytes C → Result Unit}
    {operands : List (CECBytes C)} (h : ∀ operand ∈ operands, f operand = g operand) (n : Nat) :
    ∀ i, printFrom f operands i n = printFrom g operands i n := by
  induction n with
  | zero => intro i; rfl
  | succ n ih =>
      intro i
      rw [printFrom, printFrom]
      cases hget : operands[i]? with
      | none => rfl
      | some operand =>
          dsimp only
          rw [h operand (List.mem_of_getElem? hget), ih]

theorem printFormatting_inside {m : Message} (h : m.ReadsInside) (handed : Result Unit) :
    m.printFormatting outside handed = m.printFormatting (.ok 0) handed := by
  cases m with
  | requestShortAudioDescriptor formats numberofdescriptor =>
      refine printFrom_congr (fun format hmem => ?_) _ 0
      rw [CECBytes.toString_inside outside (h ⟨_, format⟩ (List.mem_map_of_mem hmem))]
  | reportShortAudioDescriptor descriptors numberofdescriptor =>
      refine printFrom_congr (fun descriptor hmem => ?_) _ 0
      have hinside : descriptor.ReadsInside := h ⟨_, descriptor⟩ (List.mem_map_of_mem hmem)
      rw [CECBytes.toString_inside outside hinside, CECBytes.getAtmosbit_inside outside hinside]
  | reportPhysicalAddress physicalAddress deviceType =>
      have hfirst : physicalAddress.ReadsInside := h ⟨_, physicalAddress⟩ (by simp [operands])
      have hsecond : deviceType.ReadsInside := h ⟨_, deviceType⟩ (by simp [operands])
      rw [printFormatting, printFormatting, CECBytes.toString_inside outside hfirst,
        CECBytes.toString_inside outside hsecond]
  | routingChange from_ to_ =>
      have hfirst : from_.ReadsInside := h ⟨_, from_⟩ (by simp [operands])
      have hsecond : to_.ReadsInside := h ⟨_, to_⟩ (by simp [operands])
      rw [printFormatting, printFormatting, CECBytes.toString_inside outside hfirst,
        CECBytes.toString_inside outside hsecond]
  | activeSource operand | inActiveSource operand | cecVersion operand
  | setMenuLanguage operand | setOSDName operand | setOSDString operand
  | deviceVendorID operand | reportPowerStatus operand | featureAbort feature operand
  | routingInformation operand | setStreamPath operand | systemAudioModeRequest operand =>
      exact CECBytes.toString_inside outside (h ⟨_, operand⟩ List.mem_cons_self)
  | _ => rfl

end Message

/-- A message whose operands reach far enough is processed without a read outside. -/
theorem MessageProcessor.processFormatting_inside {m : Message} (hinside : m.ReadsInside)
    (hcounted : m.DescriptorsCounted) (handed : Result Unit) (first : UInt8) :
    processFormatting outside handed m (MessageDecoder.unpack first) =
      if m.handsString then handed else .ok () := by
  rw [← processFormatting_returns 0 hcounted handed (MessageDecoder.unpack first),
    processFormatting, processFormatting, Header.print_inside,
    Message.printFormatting_inside outside hinside]

theorem MessageProcessor.process_inside {m : Message} (hinside : m.ReadsInside)
    (hcounted : m.DescriptorsCounted) (first : UInt8) :
    process outside m (MessageDecoder.unpack first) = .ok () := by
  rw [process, processFormatting_inside outside hinside hcounted, ite_self]

end

/-! ## Complete messages -/

namespace MessageDecoder

/-- The block has the operands of its opcode: all bytes of operands of a fixed size, and
a whole physical address, or none, in a <System Audio Mode Request>.  The other messages
have no operands, or as many as there are. -/
def CompleteBlock (op : Op_t) (length : Nat) : Prop :=
  (∀ entry ∈ fixedOperands, entry.1 = op → entry.2.1 + entry.2.2 ≤ length) ∧
    (op = Op.systemAudioModeRequest → length ≠ 1)

/-- The operand block of the frame is complete for its opcode. -/
def Complete (frame : CECFrame) : Prop :=
  ∀ opcode, frame.bytes[1]? = some opcode → CompleteBlock opcode.toUInt32 (frame.length - 2)

theorem CompleteBlock.fixed {op : Op_t} {offset size length : Nat}
    (h : CompleteBlock op length) (hlookup : fixedOperands.lookup op = some (offset, size)) :
    offset + size ≤ length := by
  exact h.1 (op, offset, size) (mem_of_lookup hlookup) rfl

end MessageDecoder

namespace Message

open MessageDecoder

theorem readsInside_of_nil {m : Message} (h : m.operands = []) : m.ReadsInside := by
  rw [ReadsInside, h]
  exact List.forall_mem_nil _

theorem ofBlock_readsInside {C : OperandClass} {build : CECBytes C → Message}
    (hoperands : ∀ operand, (build operand).operands = [⟨_, operand⟩])
    {block : CECFrame} {m : Message} (h : ofBlock build block = .ok m)
    (hprint : C.printLen ≤ min C.maxLen block.length) : m.ReadsInside := by
  obtain ⟨operand, hread, hbuild⟩ := Result.bind_eq_ok h
  cases hbuild
  rw [ReadsInside, hoperands, List.forall_mem_singleton]
  show C.printLen ≤ operand.str.length
  rw [CECBytes.ofFrame_length (Nat.zero_le _) hread]
  exact hprint

theorem ofBlock2_readsInside {C D : OperandClass} {build : CECBytes C → CECBytes D → Message}
    (hoperands : ∀ first second,
      (build first second).operands = [⟨_, first⟩, ⟨_, second⟩])
    {block : CECFrame} {m : Message} (h : ofBlock2 build block = .ok m)
    (hprint : C.printLen ≤ min C.maxLen block.length)
    (hprint' : D.printLen ≤ min D.maxLen (block.length - C.maxLen)) : m.ReadsInside := by
  obtain ⟨first, hfirst, hrest⟩ := Result.bind_eq_ok h
  obtain ⟨second, hsecond, hbuild⟩ := Result.bind_eq_ok hrest
  cases hbuild
  rw [Nat.zero_add] at hsecond
  rw [ReadsInside, hoperands, List.forall_mem_cons, List.forall_mem_singleton]
  have hmax := C.maxLen_le
  constructor
  · show C.printLen ≤ first.str.length
    rw [CECBytes.ofFrame_length (Nat.zero_le _) hfirst]
    exact hprint
  · show D.printLen ≤ second.str.length
    rw [CECBytes.ofFrame_length hmax hsecond]
    exact hprint'

theorem featureAbortOfBlock_readsInside {block : CECFrame} {m : Message}
    (h : featureAbortOfBlock block = .ok m) : m.ReadsInside := by
  obtain ⟨feature, -, hrest⟩ := Result.bind_eq_ok h
  obtain ⟨reason, hreason, hbuild⟩ := Result.bind_eq_ok hrest
  cases hbuild
  have hlt := (CECBytes.ofFrame_eq_ok (by omega) hreason).2
  have hlength := CECBytes.ofFrame_length (by omega) hreason
  rw [ReadsInside, operands, List.forall_mem_singleton]
  show 1 ≤ reason.str.length
  simp only [OperandClass.maxLen] at hlength
  omega

theorem requestShortAudioDescriptorOfBlock_readsInside {block : CECFrame} {m : Message}
    (h : requestShortAudioDescriptorOfBlock block = .ok m) : m.ReadsInside := by
  obtain ⟨formats, number, rfl, hread⟩ := requestShortAudioDescriptorOfBlock_eq_ok h
  rw [ReadsInside, operands, List.forall_mem_map]
  intro format hmem
  obtain ⟨startPos, hstart, hk⟩ := hread format hmem
  have hinside := (CECBytes.ofFrame_eq_ok hstart hk).2
  have hlength := CECBytes.ofFrame_length hstart hk
  show 1 ≤ format.str.length
  simp only [OperandClass.maxLen] at hlength
  omega

theorem reportShortAudioDescriptorOfBlock_readsInside {block : CECFrame} {m : Message}
    (h : reportShortAudioDescriptorOfBlock block = .ok m) : m.ReadsInside := by
  obtain ⟨descriptors, number, rfl, hread⟩ := reportShortAudioDescriptorOfBlock_eq_ok h
  rw [ReadsInside, operands, List.forall_mem_map]
  intro descriptor hmem
  obtain ⟨startPos, hwhole, hk⟩ := hread descriptor hmem
  have hle := block.length_le
  have hlength := CECBytes.ofFrame_length (by omega) hk
  show 3 ≤ descriptor.str.length
  simp only [OperandClass.maxLen] at hlength
  omega

theorem systemAudioModeRequestOfBlock_readsInside {block : CECFrame} {m : Message}
    (h : systemAudioModeRequestOfBlock block = .ok m) (hwhole : block.length ≠ 1) :
    m.ReadsInside := by
  obtain ⟨physicaladdress, rfl, hstr, hpos⟩ := systemAudioModeRequestOfBlock_eq_ok h
  rw [ReadsInside, operands, List.forall_mem_singleton]
  show 2 ≤ physicaladdress.str.length
  rw [hstr, List.length_take, CECFrame.bytes_length]
  omega

end Message

namespace MessageDecoder

/-- Printing reads no byte of a class with one operand, or the operand has a fixed size. -/
theorem OneOperand.fixed {op : Op_t} {C : OperandClass} {build : CECBytes C → Message}
    (h : OneOperand op build) :
    C.printLen = 0 ∨ C.printLen ≤ C.maxLen ∧ fixedOperands.lookup op = some (0, C.maxLen) := by
  cases h <;> first | exact .inl rfl | exact .inr ⟨by decide, rfl⟩

theorem TwoOperands.fixed {op : Op_t} {C D : OperandClass}
    {build : CECBytes C → CECBytes D → Message} (h : TwoOperands op build) :
    C.printLen ≤ C.maxLen ∧ D.printLen ≤ D.maxLen ∧
      fixedOperands.lookup op = some (C.maxLen, D.maxLen) := by
  cases h <;> exact ⟨by decide, by decide, rfl⟩

/-- What the switch builds of a complete block has the operand bytes that printing
reads. -/
theorem switchCases_readsInside :
    ∀ entry ∈ switchCases, ∀ block m, entry.2 block = .ok m →
      CompleteBlock entry.1 block.length → m.ReadsInside := by
  rintro ⟨op, build⟩ hmem block m h hcomplete
  cases switchCases_case hmem with
  | bare hbare =>
      cases h
      exact Message.readsInside_of_nil (Message.operands_bare hbare)
  | one hone =>
      refine Message.ofBlock_readsInside (Message.operands_one hone) h ?_
      obtain hnone | ⟨hprint, hlookup⟩ := hone.fixed
      · omega
      · have hwhole := hcomplete.fixed hlookup
        omega
  | two htwo =>
      obtain ⟨hprint, hprint', hlookup⟩ := htwo.fixed
      have hwhole := hcomplete.fixed hlookup
      exact Message.ofBlock2_readsInside (Message.operands_two htwo) h (by omega) (by omega)
  | featureAbort => exact Message.featureAbortOfBlock_readsInside h
  | requestShortAudioDescriptor => exact Message.requestShortAudioDescriptorOfBlock_readsInside h
  | reportShortAudioDescriptor => exact Message.reportShortAudioDescriptorOfBlock_readsInside h
  | systemAudioModeRequest =>
      exact Message.systemAudioModeRequestOfBlock_readsInside h (hcomplete.2 rfl)

/-- The messages that `decode` hands over have their descriptor vectors counted. -/
theorem calls_counted {process : Message → Header → Result Unit} {frame : CECFrame}
    {m : Message} {header : Header} (hcall : (m, header) ∈ (decode process frame).calls) :
    m.DescriptorsCounted := by
  rcases calls_cases hcall with
    ⟨first, -, rfl, -⟩ | ⟨first, opcode, block, build, -, -, hcase, hbuild⟩
  · trivial
  · have hsettles : Settles Message.DescriptorsCounted (build block) :=
      switchCases_settles _ hcase block
    rw [hbuild] at hsettles
    exact hsettles

theorem calls_readsInside {process : Message → Header → Result Unit} {frame : CECFrame}
    (hcomplete : Complete frame) {m : Message} {header : Header}
    (hcall : (m, header) ∈ (decode process frame).calls) : m.ReadsInside := by
  rcases calls_cases hcall with
    ⟨first, -, rfl, -⟩ | ⟨first, opcode, block, build, hbytes, -, hcase, hbuild⟩
  · exact Message.readsInside_of_nil rfl
  · refine switchCases_readsInside _ hcase block m hbuild ?_
    have hblock := hcomplete opcode (by rw [hbytes]; rfl)
    rwa [length_of_bytes hbytes, Nat.add_sub_cancel_left] at hblock

/-- The default processing of a complete message reads every operand byte inside its
vector, every descriptor inside its list and every name inside its table: it ends
normally although each read outside would be undefined. -/
theorem process_complete {frame : CECFrame} (hcomplete : Complete frame) {m : Message}
    {header : Header}
    (hcall : (m, header) ∈ (decode (MessageProcessor.process (.error .undefined)) frame).calls) :
    MessageProcessor.process (.error .undefined) m header = .ok () := by
  have hheader : ∃ first, header = unpack first := by
    rcases calls_cases hcall with ⟨first, -, -, heq⟩ | ⟨first, -, -, -, -, heq, -, -⟩ <;>
      exact ⟨first, heq⟩
  obtain ⟨first, rfl⟩ := hheader
  exact MessageProcessor.process_inside _ (calls_readsInside hcomplete hcall)
    (calls_counted hcall) first

/-- A report with two short audio descriptors, the second one with an Atmos bit. -/
theorem process_complete_descriptors :
    MessageProcessor.process (.error .undefined)
      (.reportShortAudioDescriptor [⟨[0x09, 0x07, 0x01]⟩, ⟨[0x57, 0x06, 0x03]⟩] 2)
      (unpack 0x50) = .ok () := by
  refine @process_complete
    (CECFrame.ofBytes [0x50, 0xA3, 0x09, 0x07, 0x01, 0x57, 0x06, 0x03] (by decide)) ?_ _ _ ?_
  · intro opcode hopcode
    cases hopcode
    exact ⟨by decide, by decide⟩
  · decide +kernel

end MessageDecoder

end HdmiCec
