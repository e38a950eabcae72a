import HdmiCec.Core.Printing

/-!
# Printing a received frame

A frame whose operand block is not complete may be printed as well.  Two kinds of frames
cannot: where the last physical address has one byte, `PhysicalAddress::toString` reads the
second, at every level of the log; and at the level of debugging the format of a short audio
descriptor gets a `std::string` object for its `%s`.

`decode_printable` and `decode_unprintable` say that there are no others: the first whatever a
read outside of a vector comes to, the second where it is undefined.
-/

namespace HdmiCec

namespace MessageDecoder

/-! ## The blocks that cannot be printed -/

/-- Where the last physical address starts in the operand block, for the opcodes whose block
can end in one. -/
def lastAddress : List (Op_t × Nat) :=
  [ (Op.activeSource, 0),
    (Op.inactiveSource, 0),
    (Op.routingInformation, 0),
    (Op.setStreamPath, 0),
    (Op.systemAudioModeRequest, 0),
    (Op.routingChange, 2) ]

/-- The block has one byte of its last physical address. -/
def CutBlock (op : Op_t) (length : Nat) : Prop :=
  ∃ startPos ∈ lastAddress.lookup op, length = startPos + 1

/-- The block has a short audio descriptor. -/
def DescriptorBlock (op : Op_t) (length : Nat) : Prop :=
  op = Op.requestShortAudioDescriptor ∧ 1 ≤ length ∨
    op = Op.reportShortAudioDescriptor ∧ 3 ≤ length

instance (op : Op_t) (length : Nat) : Decidable (CutBlock op length) :=
  inferInstanceAs (Decidable (∃ startPos ∈ _, _))

instance (op : Op_t) (length : Nat) : Decidable (DescriptorBlock op length) :=
  inferInstanceAs (Decidable (_ ∨ _))

/-- The last physical address of the packet is cut. -/
def CutAddress (bytes : List UInt8) : Prop :=
  ∃ opcode ∈ bytes[1]?, CutBlock opcode.toUInt32 (bytes.length - 2)

/-- The packet carries a short audio descriptor. -/
def CarriesDescriptor (bytes : List UInt8) : Prop :=
  ∃ opcode ∈ bytes[1]?, DescriptorBlock opcode.toUInt32 (bytes.length - 2)

/-- The packet can be printed at the level of the log. -/
def Printable (cec_log_level : Int) (bytes : List UInt8) : Prop :=
  ¬ CutAddress bytes ∧
    ¬ (LogLines.isPrinted LogLines.logDebug cec_log_level = true ∧ CarriesDescriptor bytes)

instance (bytes : List UInt8) : Decidable (CutAddress bytes) :=
  inferInstanceAs (Decidable (∃ opcode ∈ _, _))

instance (bytes : List UInt8) : Decidable (CarriesDescriptor bytes) :=
  inferInstanceAs (Decidable (∃ opcode ∈ _, _))

instance (cec_log_level : Int) (bytes : List UInt8) :
    Decidable (Printable cec_log_level bytes) :=
  inferInstanceAs (Decidable (_ ∧ _))

end MessageDecoder

/-! ## One byte of an address -/

theorem CECBytes.toString_cut {physicalAddress : PhysicalAddress}
    (h : physicalAddress.str.length = 1) :
    physicalAddress.toString (.error .undefined) = .error .undefined := by
  obtain ⟨str⟩ := physicalAddress
  obtain ⟨first, rfl⟩ := List.length_eq_one_iff.mp h
  rfl

namespace Message

/-- A message that is printed by reading behind an address of one byte. -/
def PrintsOutside (m : Message) : Prop :=
  ∀ handed, m.printFormatting (.error .undefined) handed = .error .undefined

theorem ofBlock_printsOutside {build : PhysicalAddress → Message}
    (hprint : ∀ operand handed,
      (build operand).printFormatting (.error .undefined) handed =
        operand.toString (.error .undefined))
    {block : CECFrame} (hone : block.length = 1) :
    ∃ m, ofBlock build block = .ok m ∧ m.PrintsOutside := by
  obtain ⟨m, hm⟩ := (ofBlock_returns_iff build block).mpr (by omega)
  obtain ⟨operand, rfl, hstr, -⟩ := ofBlock_eq_ok hm
  refine ⟨_, hm, fun handed => ?_⟩
  rw [hprint]
  apply CECBytes.toString_cut
  rw [hstr, List.length_take, CECFrame.bytes_length, hone]
  rfl

theorem systemAudioModeRequestOfBlock_printsOutside {block : CECFrame}
    (hone : block.length = 1) :
    ∃ m, systemAudioModeRequestOfBlock block = .ok m ∧ m.PrintsOutside := by
  obtain ⟨physicaladdress, hread⟩ :=
    (CECBytes.ofFrame_returns_iff (C := .physicalAddress) block (Nat.zero_le _)).mpr (by omega)
  have hm : systemAudioModeRequestOfBlock block =
      .ok (systemAudioModeRequest physicaladdress) := by
    rw [systemAudioModeRequestOfBlock, hread, Result.ok_bind, if_neg (by omega)]
    rfl
  refine ⟨_, hm, fun handed => CECBytes.toString_cut ?_⟩
  rw [CECBytes.ofFrame_length (Nat.zero_le _) hread, hone]
  rfl

/-- The first address is whole where the second one begins. -/
theorem routingChangeOfBlock_printsOutside {block : CECFrame} (hthree : block.length = 3) :
    ∃ m, ofBlock2 routingChange block = .ok m ∧ m.PrintsOutside := by
  obtain ⟨from_, hfrom⟩ :=
    (CECBytes.ofFrame_returns_iff (C := .physicalAddress) block (Nat.zero_le _)).mpr (by omega)
  obtain ⟨to_, hto⟩ :=
    (CECBytes.ofFrame_returns_iff (C := .physicalAddress) block
      (show 0 + OperandClass.maxLen .physicalAddress ≤ 128 by decide)).mpr
        (by simp only [OperandClass.maxLen]; omega)
  have hm : ofBlock2 routingChange block = .ok (routingChange from_ to_) := by
    rw [ofBlock2, hfrom, Result.ok_bind, hto]
    rfl
  refine ⟨_, hm, fun handed => ?_⟩
  have hwhole : from_.ReadsInside := by
    show 2 ≤ from_.str.length
    rw [CECBytes.ofFrame_length (Nat.zero_le _) hfrom, hthree]
    decide
  have hcut : to_.str.length = 1 := by
    rw [CECBytes.ofFrame_length (by decide) hto, hthree]
    rfl
  rw [printFormatting, CECBytes.toString_inside _ hwhole, CECBytes.toString_returns,
    Result.ok_bind, CECBytes.toString_cut hcut]

/-! ## The descriptors of a block -/

theorem descriptorsFrom_returns {C : OperandClass} {block : CECFrame} {stride : Nat} (n : Nat) :
    ∀ i, (∀ k, k < i + n → k * stride < block.length) →
      ∃ operands : List (CECBytes C), descriptorsFrom block stride i n = .ok operands := by
  induction n with
  | zero => exact fun _ _ => ⟨[], rfl⟩
  | succ n ih =>
      intro i hinside
      have hle := block.length_le
      have hstart := hinside i (by omega)
      obtain ⟨operand, hread⟩ :=
        (CECBytes.ofFrame_returns_iff (C := C) block (by omega)).mpr hstart
      obtain ⟨rest, hrest⟩ := ih (i + 1) fun k hk => hinside k (by omega)
      exact ⟨operand :: rest, by rw [descriptorsFrom, hread, Result.ok_bind, hrest]; rfl⟩

/-- The request is built of every block, and has a descriptor unless the block is empty. -/
theorem requestShortAudioDescriptorOfBlock_returns (block : CECFrame) :
    ∃ m, requestShortAudioDescriptorOfBlock block = .ok m ∧
      (m.handsString = true ↔ 1 ≤ block.length) := by
  have hle := block.length_le
  have hcount := count_toNat (show min 4 block.length ≤ 128 by omega)
  obtain ⟨formats, hread⟩ : ∃ formats : List RequestAudioFormat,
      descriptorsFrom block 1 0 (min 4 block.length) = .ok formats :=
    descriptorsFrom_returns _ 0 fun k hk => by omega
  rw [requestShortAudioDescriptorOfBlock, numberofdescriptor_eq hle, hcount, hread]
  refine ⟨_, rfl, ?_⟩
  rw [handsString, decide_eq_true_eq, hcount]
  omega

/-- The report is built of every block, with the descriptors that are whole. -/
theorem reportShortAudioDescriptorOfBlock_returns (block : CECFrame) :
    ∃ m, reportShortAudioDescriptorOfBlock block = .ok m ∧
      (m.handsString = true ↔ 3 ≤ block.length) := by
  have hle := block.length_le
  have hcount := count_toNat (show block.length / 3 ≤ 128 by omega)
  obtain ⟨descriptors, hread⟩ : ∃ descriptors : List ShortAudioDescriptor,
      descriptorsFrom block 3 0 (block.length / 3) = .ok descriptors :=
    descriptorsFrom_returns _ 0 fun k hk => by omega
  rw [reportShortAudioDescriptorOfBlock, hcount, hread]
  refine ⟨_, rfl, ?_⟩
  rw [handsString, decide_eq_true_eq, hcount]
  omega

end Message

namespace MessageDecoder

/-! ## The cases of the switch -/

/-- A class with one operand prints what is there, or it is an address. -/
theorem OneOperand.printed {op : Op_t} {C : OperandClass} {build : CECBytes C → Message}
    (h : OneOperand op build) :
    C.printLen ≤ 1 ∨ C.printLen = 2 ∧ C.maxLen = 2 ∧ lastAddress.lookup op = some 0 := by
  cases h <;> first | exact .inl (by decide) | exact .inr ⟨rfl, rfl, rfl⟩

/-- Where no address is cut, printing reads inside of the operands. -/
theorem switchCases_readsInside_of_not_cut :
    ∀ entry ∈ switchCases, ∀ block m, entry.2 block = .ok m →
      ¬ CutBlock entry.1 block.length → m.ReadsInside := by
  rintro ⟨op, build⟩ hmem block m h hcut
  have hlast : ∀ {startPos}, lastAddress.lookup op = some startPos →
      block.length ≠ startPos + 1 := fun hlookup hend => hcut ⟨_, hlookup, hend⟩
  cases switchCases_case hmem with
  | bare hbare =>
      cases h
      exact Message.readsInside_of_nil (Message.operands_bare hbare)
  | one hone =>
      have hpos := (Message.ofBlock_returns_iff _ block).mp ⟨m, h⟩
      have hmax := OperandClass.maxLen_pos
      refine Message.ofBlock_readsInside (Message.operands_one hone) h ?_
      obtain hsmall | ⟨hprint, htwo, hlookup⟩ := hone.printed
      · exact Nat.le_trans hsmall (Nat.le_min.mpr ⟨hmax _, hpos⟩)
      · have hend := hlast hlookup
        omega
  | two htwo =>
      have hlt := (Message.ofBlock2_returns_iff _ block).mp ⟨m, h⟩
      refine Message.ofBlock2_readsInside (Message.operands_two htwo) h ?_ ?_ <;>
        cases htwo with
        | reportPhysicalAddress =>
            simp only [OperandClass.printLen, OperandClass.maxLen] at hlt ⊢
            omega
        | routingChange =>
            have hend := @hlast 2 rfl
            simp only [OperandClass.printLen, OperandClass.maxLen] at hlt ⊢
            omega
  | featureAbort => exact Message.featureAbortOfBlock_readsInside h
  | requestShortAudioDescriptor => exact Message.requestShortAudioDescriptorOfBlock_readsInside h
  | reportShortAudioDescriptor => exact Message.reportShortAudioDescriptorOfBlock_readsInside h
  | systemAudioModeRequest =>
      exact Message.systemAudioModeRequestOfBlock_readsInside h (hlast rfl)

/-- Where an address is cut, the message is built and printed with a read outside. -/
theorem switchCases_printsOutside :
    ∀ entry ∈ switchCases, ∀ block : CECFrame, CutBlock entry.1 block.length →
      ∃ m, entry.2 block = .ok m ∧ m.PrintsOutside := by
  rintro ⟨op, build⟩ hmem block ⟨startPos, hlookup, hend⟩
  cases switchCases_case hmem with
  | bare hbare => cases hbare <;> cases hlookup
  | one hone =>
      cases hone with
      | activeSource | inActiveSource | routingInformation | setStreamPath =>
          cases hlookup
          exact Message.ofBlock_printsOutside (fun _ _ => rfl) hend
      | _ => cases hlookup
  | two htwo =>
      cases htwo with
      | reportPhysicalAddress => cases hlookup
      | routingChange =>
          cases hlookup
          exact Message.routingChangeOfBlock_printsOutside hend
  | systemAudioModeRequest =>
      cases hlookup
      exact Message.systemAudioModeRequestOfBlock_printsOutside hend
  | featureAbort | requestShortAudioDescriptor | reportShortAudioDescriptor => cases hlookup

theorem BareCase.handsString_eq {op : Op_t} {m : Message} (h : BareCase op m) :
    m.handsString = false := by
  cases h <;> rfl

theorem OneOperand.handsString_eq {op : Op_t} {C : OperandClass} {build : CECBytes C → Message}
    (h : OneOperand op build) (operand : CECBytes C) : (build operand).handsString = false := by
  cases h <;> rfl

theorem TwoOperands.handsString_eq {op : Op_t} {C D : OperandClass}
    {build : CECBytes C → CECBytes D → Message} (h : TwoOperands op build) (first : CECBytes C)
    (second : CECBytes D) : (build first second).handsString = false := by
  cases h <;> rfl

/-- The messages with a `std::string` object in their log line are those of a block with a
descriptor. -/
theorem switchCases_handsString :
    ∀ entry ∈ switchCases, ∀ block m, entry.2 block = .ok m →
      (m.handsString = true ↔ DescriptorBlock entry.1 block.length) := by
  rintro ⟨op, build⟩ hmem block m h
  -- the other classes have neither
  have hother : m.handsString = false → op ≠ Op.requestShortAudioDescriptor →
      op ≠ Op.reportShortAudioDescriptor →
      (m.handsString = true ↔ DescriptorBlock op block.length) := by
    intro hnone hrequest hreport
    rw [hnone]
    exact iff_of_false Bool.false_ne_true
      fun hblock => hblock.elim (fun h => hrequest h.1) fun h => hreport h.1
  cases switchCases_case hmem with
  | bare hbare =>
      cases h
      exact hother hbare.handsString_eq (by cases hbare <;> decide) (by cases hbare <;> decide)
  | one hone =>
      obtain ⟨operand, rfl, -, -⟩ := Message.ofBlock_eq_ok h
      exact hother (hone.handsString_eq operand) (by cases hone <;> decide)
        (by cases hone <;> decide)
  | two htwo =>
      obtain ⟨first, -, hrest⟩ := Result.bind_eq_ok h
      obtain ⟨second, -, hbuild⟩ := Result.bind_eq_ok hrest
      cases hbuild
      exact hother (htwo.handsString_eq first second) (by cases htwo <;> decide)
        (by cases htwo <;> decide)
  | featureAbort =>
      obtain ⟨feature, reason, rfl, -⟩ := Message.featureAbortOfBlock_putsBack h
      exact hother rfl (by decide) (by decide)
  | requestShortAudioDescriptor =>
      obtain ⟨m', hm, hhands⟩ := Message.requestShortAudioDescriptorOfBlock_returns block
      cases hm.symm.trans h
      simp [hhands, DescriptorBlock, Op.requestShortAudioDescriptor, Op.reportShortAudioDescriptor]
  | reportShortAudioDescriptor =>
      obtain ⟨m', hm, hhands⟩ := Message.reportShortAudioDescriptorOfBlock_returns block
      cases hm.symm.trans h
      simp [hhands, DescriptorBlock, Op.requestShortAudioDescriptor, Op.reportShortAudioDescriptor]
  | systemAudioModeRequest =>
      obtain ⟨physicaladdress, rfl, -, -⟩ := Message.systemAudioModeRequestOfBlock_eq_ok h
      exact hother rfl (by decide) (by decide)

/-! ## The outcome of `decode` -/

/-- A frame with a header is handed over once, or not at all, whatever the processor is.  The
polling message is the one whose processing stands outside of the `try` block. -/
theorem decode_outcome {frame : CECFrame} (hne : 1 ≤ frame.length) :
    (∀ process, (decode process frame).calls = [] ∧ (decode process frame).outcome = .ok ()) ∨
      ∃ call : Message × Header, ∀ process, (decode process frame).calls = [call] ∧
        (decode process frame).outcome =
          if frame.length = 1 then process call.1 call.2
          else catching (fun _ => true) (process call.1 call.2) fun _ => .ok () := by
  obtain ⟨header, hheader⟩ : ∃ header, Header.ofFrame frame 0 = .ok header :=
    Header.ofFrame_returns hne
  simp only [decode, hheader]
  by_cases hpolling : frame.length = 1
  · simp only [if_pos hpolling]
    exact .inr ⟨(.polling, header), fun process => ⟨rfl, rfl⟩⟩
  · obtain ⟨block, hblock, -⟩ := CECFrame.subFrame_bytes frame 2 0
    obtain ⟨op, hop⟩ : ∃ op, OpCode.ofFrame frame 1 = .ok op :=
      OpCode.ofFrame_returns (by omega)
    simp only [if_neg hpolling, hblock, dispatch, hop]
    cases hlookup : switchCases.lookup op.opCode_ with
    | none => exact .inl fun process => ⟨rfl, rfl⟩
    | some build =>
        have hsettles := switchCases_settles _ (mem_of_lookup hlookup) block
        dsimp only at hsettles ⊢
        cases hbuild : build block with
        | ok m => exact .inr ⟨(m, header), fun process => ⟨rfl, rfl⟩⟩
        | error r =>
            -- what a constructor throws is caught
            rw [hbuild] at hsettles
            have hthrows : Settles (fun _ : Unit => True) (.error r) := by
              cases r <;> exact hsettles
            exact .inl fun process => ⟨rfl, hthrows.catching_all⟩

/-- Two processors that agree on what they are handed end `decode` alike. -/
theorem decode_congr {process process' : Message → Header → Result Unit} {frame : CECFrame}
    (hne : 1 ≤ frame.length)
    (h : ∀ m header, (m, header) ∈ (decode process frame).calls →
      process m header = process' m header) :
    (decode process frame).outcome = (decode process' frame).outcome := by
  obtain hnone | ⟨call, hcall⟩ := decode_outcome hne
  · rw [(hnone process).2, (hnone process').2]
  · obtain ⟨hcalls, houtcome⟩ := hcall process
    have hsame := h call.1 call.2 (by rw [hcalls]; exact List.mem_singleton.mpr rfl)
    rw [houtcome, (hcall process').2, hsame]

/-- `decode` returns if every call of `process` does. -/
theorem decode_returns_of_calls {process : Message → Header → Result Unit} {frame : CECFrame}
    (hne : 1 ≤ frame.length)
    (h : ∀ m header, (m, header) ∈ (decode process frame).calls → process m header = .ok ()) :
    (decode process frame).outcome = .ok () := by
  obtain hnone | ⟨call, hcall⟩ := decode_outcome hne
  · exact (hnone process).2
  · obtain ⟨hcalls, houtcome⟩ := hcall process
    have hreturns := h call.1 call.2 (by rw [hcalls]; exact List.mem_singleton.mpr rfl)
    rw [houtcome, hreturns, catching_ok, ite_self]

/-- What is undefined in a call of `process` is undefined in `decode`. -/
theorem decode_undefined_of_call {process : Message → Header → Result Unit} {frame : CECFrame}
    (hne : 1 ≤ frame.length) {m : Message} {header : Header}
    (hcall : (m, header) ∈ (decode process frame).calls)
    (h : process m header = .error .undefined) :
    (decode process frame).outcome = .error .undefined := by
  obtain hnone | ⟨call, hcalled⟩ := decode_outcome hne
  · rw [(hnone process).1] at hcall
    cases hcall
  · obtain ⟨hcalls, houtcome⟩ := hcalled process
    rw [hcalls, List.mem_singleton] at hcall
    cases hcall
    rw [houtcome, h, catching_undefined, ite_self]

/-- Every opcode of the two conditions has a case. -/
theorem case_of_cut {op : Op_t} {length : Nat} (h : CutBlock op length) :
    ∃ build, switchCases.lookup op = some build := by
  have hall : ∀ entry ∈ lastAddress, (switchCases.lookup entry.1).isSome = true := by decide
  obtain ⟨startPos, hlookup, -⟩ := h
  exact Option.isSome_iff_exists.mp (hall _ (mem_of_lookup hlookup))

theorem case_of_descriptor {op : Op_t} {length : Nat} (h : DescriptorBlock op length) :
    ∃ build, switchCases.lookup op = some build ∧
      ∀ block, ∃ m, build block = .ok m := by
  obtain ⟨rfl, -⟩ | ⟨rfl, -⟩ := h
  · refine ⟨_, rfl, fun block => ?_⟩
    obtain ⟨m, hm, -⟩ := Message.requestShortAudioDescriptorOfBlock_returns block
    exact ⟨m, hm⟩
  · refine ⟨_, rfl, fun block => ?_⟩
    obtain ⟨m, hm, -⟩ := Message.reportShortAudioDescriptorOfBlock_returns block
    exact ⟨m, hm⟩

section

variable {cec_log_level : Int} {frame : CECFrame}

/-- A call of the default processing for a frame that can be printed. -/
theorem processAt_printable (outside : Result UInt8)
    (hprintable : Printable cec_log_level frame.bytes)
    {process : Message → Header → Result Unit} {m : Message} {header : Header}
    (hcall : (m, header) ∈ (decode process frame).calls) :
    MessageProcessor.processAt outside cec_log_level m header = .ok () := by
  have hcounted := calls_counted hcall
  rcases calls_cases hcall with
    ⟨first, -, rfl, rfl⟩ | ⟨first, opcode, block, build, hbytes, rfl, hcase, hbuild⟩
  · exact MessageProcessor.processFormatting_inside outside (Message.readsInside_of_nil rfl)
      hcounted _ first
  · have hopcode : frame.bytes[1]? = some opcode := by rw [hbytes]; rfl
    have hlength : frame.bytes.length - 2 = block.length := by
      rw [CECFrame.bytes_length, length_of_bytes hbytes, Nat.add_sub_cancel_left]
    obtain ⟨hcut, hdescriptor⟩ := hprintable
    have hinside : m.ReadsInside := by
      refine switchCases_readsInside_of_not_cut _ hcase block m hbuild fun hblock => hcut ?_
      exact ⟨opcode, hopcode, by rw [hlength]; exact hblock⟩
    rw [MessageProcessor.processAt,
      MessageProcessor.processFormatting_inside outside hinside hcounted]
    by_cases hhands : m.handsString = true
    · rw [if_pos hhands, LogLines.ccecFormat, if_neg]
      intro hprinted
      have hblock := (switchCases_handsString _ hcase block m hbuild).mp hhands
      exact hdescriptor ⟨hprinted, opcode, hopcode, by rw [hlength]; exact hblock⟩
    · rw [if_neg hhands]

/-- The default processing of a frame that can be printed returns, whatever a read outside of
a vector comes to. -/
theorem decode_printable (outside : Result UInt8) (hne : 1 ≤ frame.length)
    (hprintable : Printable cec_log_level frame.bytes) :
    (decode (MessageProcessor.processAt outside cec_log_level) frame).outcome = .ok () :=
  decode_returns_of_calls hne fun _ _ hcall => processAt_printable outside hprintable hcall

/-- The default processing of every other frame is undefined. -/
theorem decode_unprintable (hprintable : ¬ Printable cec_log_level frame.bytes) :
    (decode (MessageProcessor.processAt (.error .undefined) cec_log_level) frame).outcome =
      .error .undefined := by
  -- the opcode has a case, and the case builds a message
  have hcalled : ∀ {opcode : UInt8} {build : CECFrame → Result Message},
      frame.bytes[1]? = some opcode → switchCases.lookup opcode.toUInt32 = some build →
        ∃ first block, block.length = frame.bytes.length - 2 ∧ ∀ m, build block = .ok m →
          ∀ process, (m, unpack first) ∈ (decode process frame).calls := by
    intro opcode build hopcode hlookup
    obtain ⟨first, block, hbytes, hcalls⟩ := decode_calls hopcode hlookup
    refine ⟨first, block, ?_, fun m hm process => (hcalls process m _).mpr ⟨hm, rfl⟩⟩
    rw [CECFrame.bytes_length, length_of_bytes hbytes, Nat.add_sub_cancel_left]
  have hne : ∀ {opcode : UInt8}, frame.bytes[1]? = some opcode → 1 ≤ frame.length := by
    intro opcode hopcode
    have hlt := (List.getElem?_eq_some_iff.mp hopcode).1
    rw [CECFrame.bytes_length] at hlt
    omega
  by_cases hcut : CutAddress frame.bytes
  · obtain ⟨opcode, hopcode, hblock⟩ := hcut
    obtain ⟨build, hlookup⟩ := case_of_cut hblock
    obtain ⟨first, block, hlength, hcall⟩ := hcalled hopcode hlookup
    rw [← hlength] at hblock
    obtain ⟨m, hm, hprints⟩ :=
      switchCases_printsOutside _ (mem_of_lookup hlookup) block hblock
    refine decode_undefined_of_call (hne hopcode) (hcall m hm _) ?_
    rw [MessageProcessor.processAt, MessageProcessor.processFormatting, Header.print_inside,
      Header.print_returns, Result.ok_bind, hprints]
  · have hdescriptor : LogLines.isPrinted LogLines.logDebug cec_log_level = true ∧
        CarriesDescriptor frame.bytes := by
      by_contra hnot
      exact hprintable ⟨hcut, hnot⟩
    obtain ⟨hprinted, opcode, hopcode, hblock⟩ := hdescriptor
    obtain ⟨build, hlookup, hreturns⟩ := case_of_descriptor hblock
    obtain ⟨first, block, hlength, hcall⟩ := hcalled hopcode hlookup
    obtain ⟨m, hm⟩ := hreturns block
    have hmem := hcall m hm (MessageProcessor.processAt (.error .undefined) cec_log_level)
    refine decode_undefined_of_call (hne hopcode) hmem ?_
    have hinside : m.ReadsInside := by
      refine switchCases_readsInside_of_not_cut _ (mem_of_lookup hlookup) block m hm ?_
      intro hcutBlock
      exact hcut ⟨opcode, hopcode, by rw [← hlength]; exact hcutBlock⟩
    have hhands := (switchCases_handsString _ (mem_of_lookup hlookup) block m hm).mpr
      (by rw [hlength]; exact hblock)
    rw [MessageProcessor.processAt, MessageProcessor.processFormatting_inside _ hinside
      (calls_counted hmem), if_pos hhands, LogLines.ccecFormat, if_pos hprinted]

end

end MessageDecoder

end HdmiCec
