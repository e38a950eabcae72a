import HdmiCec.Core.MessageDecoder

/-!
# The base `MessageProcessor`

The default processing of a message prints its header and the message.  The
text goes to the log, where nothing reads it; what the model keeps of printing
are the reads it makes: bytes of operand vectors, entries of descriptor vectors,
and names out of tables.

`std::vector::operator[]` does not check its index, and an operand can be shorter
than its class says.  `outside` is what a read behind an operand vector comes to:
`.error .undefined` by the C++ standard, or some byte where the memory behind the
vector can be read.
-/

namespace HdmiCec

section

variable (outside : Result UInt8)

namespace CECBytes

variable {C : OperandClass}

/-- `str[i]` where printing reads it. -/
def peek (operand : CECBytes C) (i : Nat) : Result UInt8 :=
  match operand.str[i]? with
  | some byte => .ok byte
  | none => outside

/-- `names_[index]` of a table of `size` names. -/
def nameAt (size : Nat) (index : UInt8) : Result Unit :=
  if index.toNat < size then .ok () else .error .undefined

/-- `toString` of a class with a table of names: the name of a valid value, and
"Unknown" for the others. -/
def nameOf (operand : CECBytes C) (valid : UInt8 → Bool) (size : Nat) : Result Unit := do
  let byte ← operand.peek outside 0
  if valid byte then nameAt size byte else return ()

/-- `toString` of every operand class. -/
def toString (operand : CECBytes C) : Result Unit :=
  match C with
  | .abortReason => operand.nameOf outside (· ≤ 5) 6
  | .deviceType => operand.nameOf outside (· ≤ 7) 8
  | .logicalAddress => operand.nameOf outside (· ≤ 15) 16
  | .version => operand.nameOf outside (fun byte => byte ≤ 5 && byte ≥ 4) 6
  | .powerStatus => operand.nameOf outside (· ≤ 3) 6
  | .systemAudioStatus => operand.nameOf outside (· ≤ 1) 2
  | .audioStatus => do
      let byte ← operand.peek outside 0
      let mute := (byte &&& 0x80) >>> 7
      if mute ≤ 1 then nameAt 2 mute else return ()
  | .requestAudioFormat => do
      let byte ← operand.peek outside 0
      nameAt 16 (byte &&& 0xF)
  | .shortAudioDescriptor => do
      let byte ← operand.peek outside 0
      nameAt 16 ((byte >>> 3) &&& 0xF)
  | .physicalAddress => do
      let _ ← operand.peek outside 0
      let _ ← operand.peek outside 1
      return ()
  -- these print the vector from its begin to its end
  | .osdString | .osdName | .language | .vendorID | .uiCommand => .ok ()

/-- `ShortAudioDescriptor::getAtmosbit`. -/
def getAtmosbit (operand : ShortAudioDescriptor) : Result Bool := do
  let byte ← operand.peek outside 0
  let code := (byte >>> 3) &&& 0xF
  if code ≥ 9 && code ≤ 15 then
    let flags ← operand.peek outside 2
    return (flags &&& 0x3) != 0
  else
    return false

end CECBytes

/-- `Header::print`. -/
def Header.print (header : Header) : Result Unit := do
  header.from_.toString outside
  header.to_.toString outside

namespace Message

/-- The loop of a `print` over a vector of operands. -/
def printFrom {C : OperandClass} (printOne : CECBytes C → Result Unit)
    (operands : List (CECBytes C)) : (i n : Nat) → Result Unit
  | _, 0 => .ok ()
  | i, n + 1 =>
      match operands[i]? with
      | none => .error .undefined
      | some operand => do
          printOne operand
          printFrom printOne operands (i + 1) n

/-- `print` of every class; the classes without one of their own inherit the one
of `DataBlock`, which prints the name of the opcode.  The two classes with a vector
hand a `std::string` object to `%s`, and `handed` is what the format makes of it. -/
def printFormatting (handed : Result Unit) : Message → Result Unit
  | activeSource physicalAddress => physicalAddress.toString outside
  | inActiveSource physicalAddress => physicalAddress.toString outside
  | cecVersion version => version.toString outside
  | setMenuLanguage language => language.toString outside
  | setOSDName osdName => osdName.toString outside
  | setOSDString osdString => osdString.toString outside
  | reportPhysicalAddress physicalAddress deviceType => do
      physicalAddress.toString outside
      deviceType.toString outside
  | deviceVendorID vendorId => vendorId.toString outside
  | reportPowerStatus status => status.toString outside
  | featureAbort _ reason => reason.toString outside
  | routingChange from_ to_ => do
      from_.toString outside
      to_.toString outside
  | routingInformation toSink => toSink.toString outside
  | setStreamPath toSink => toSink.toString outside
  | requestShortAudioDescriptor formats numberofdescriptor =>
      printFrom
        (fun format => do
          format.toString outside
          handed)
        formats 0 numberofdescriptor.toNat
  | reportShortAudioDescriptor descriptors numberofdescriptor =>
      printFrom
        (fun descriptor => do
          descriptor.toString outside
          let _ ← descriptor.getAtmosbit outside
          handed)
        descriptors 0 numberofdescriptor.toNat
  | systemAudioModeRequest physicaladdress => physicaladdress.toString outside
  | _ => .ok ()

/-- What `print` evaluates at every level of the log. -/
def print (m : Message) : Result Unit := m.printFormatting outside (.ok ())

end Message

namespace MessageProcessor

/-- `MessageProcessor::process` of every message class, up to what the format makes of the
`std::string` objects. -/
def processFormatting (handed : Result Unit) (m : Message) (header : Header) : Result Unit := do
  header.print outside
  m.printFormatting outside handed

/-- What `process` evaluates at every level of the log. -/
def process (m : Message) (header : Header) : Result Unit :=
  processFormatting outside (.ok ()) m header

/-- `process` at a level of the log: the lines are of the level `LOG_DEBUG`, and the format
of a `std::string` object is undefined. -/
def processAt (cec_log_level : Int) (m : Message) (header : Header) : Result Unit :=
  processFormatting outside (LogLines.ccecFormat LogLines.logDebug cec_log_level
    (.error .undefined)) m header

end MessageProcessor

end

/-! ## Printing on an implementation that can read behind a vector -/

section

variable (byte : UInt8) {C : OperandClass}

namespace CECBytes

theorem peek_returns (operand : CECBytes C) (i : Nat) :
    ∃ b, operand.peek (.ok byte) i = .ok b := by
  unfold peek
  cases operand.str[i]? with
  | some b => exact ⟨b, rfl⟩
  | none => exact ⟨byte, rfl⟩

theorem nameAt_returns {size : Nat} {index : UInt8} (h : index.toNat < size) :
    nameAt size index = .ok () := if_pos h

theorem nameOf_returns (operand : CECBytes C) {valid : UInt8 → Bool} {size : Nat}
    (h : ∀ b, valid b = true → b.toNat < size) :
    operand.nameOf (.ok byte) valid size = .ok () := by
  obtain ⟨b, hpeek⟩ := operand.peek_returns byte 0
  rw [nameOf, hpeek, Result.ok_bind]
  by_cases hvalid : valid b = true
  · rw [if_pos hvalid, nameAt_returns (h b hvalid)]
  · rw [if_neg hvalid]
    rfl

/-- A masked index is within a table of sixteen names. -/
theorem and_fifteen_lt (b : UInt8) : (b &&& 0xF).toNat < 16 := by
  rw [UInt8.toNat_and]
  exact Nat.lt_succ_of_le Nat.and_le_right

/-- Every `toString` stays within its table of names. -/
theorem toString_returns (operand : CECBytes C) : operand.toString (.ok byte) = .ok () := by
  obtain ⟨b, hb⟩ := operand.peek_returns byte 0
  obtain ⟨b', hb'⟩ := operand.peek_returns byte 1
  have hle : ∀ {k : UInt8} {size : Nat}, k.toNat < size → ∀ b : UInt8,
      decide (b ≤ k) = true → b.toNat < size := by
    intro k size hk b hb
    have := UInt8.le_iff_toNat_le.mp (of_decide_eq_true hb)
    omega
  cases C with
  | abortReason => exact nameOf_returns byte operand (hle (by decide))
  | deviceType => exact nameOf_returns byte operand (hle (by decide))
  | logicalAddress => exact nameOf_returns byte operand (hle (by decide))
  | version =>
      refine nameOf_returns byte operand fun b hvalid => ?_
      exact hle (by decide) b (Bool.and_eq_true_iff.mp hvalid).1
  | powerStatus => exact nameOf_returns byte operand (hle (by decide))
  | systemAudioStatus => exact nameOf_returns byte operand (hle (by decide))
  | audioStatus =>
      rw [toString, hb, Result.ok_bind]
      dsimp only
      split
      · next hvalid => exact nameAt_returns (hle (by decide) _ (decide_eq_true hvalid))
      · rfl
  | requestAudioFormat =>
      rw [toString, hb]
      exact nameAt_returns (and_fifteen_lt b)
  | shortAudioDescriptor =>
      rw [toString, hb]
      exact nameAt_returns (and_fifteen_lt (b >>> 3))
  | physicalAddress =>
      rw [toString, hb, Result.ok_bind, hb']
      rfl
  | osdString | osdName | language | vendorID | uiCommand => rfl

theorem getAtmosbit_returns (operand : ShortAudioDescriptor) :
    ∃ b, operand.getAtmosbit (.ok byte) = .ok b := by
  obtain ⟨b, hb⟩ := operand.peek_returns byte 0
  obtain ⟨b', hb'⟩ := operand.peek_returns byte 2
  rw [getAtmosbit, hb, Result.ok_bind]
  dsimp only
  split
  · exact ⟨_, by rw [hb']; rfl⟩
  · exact ⟨_, rfl⟩

end CECBytes

theorem Header.print_returns (header : Header) : header.print (.ok byte) = .ok () := by
  rw [print, CECBytes.toString_returns, CECBytes.toString_returns]
  rfl

namespace Message

/-- The descriptor vectors are as long as the message says. -/
def DescriptorsCounted : Message → Prop
  | requestShortAudioDescriptor formats numberofdescriptor =>
      formats.length = numberofdescriptor.toNat
  | reportShortAudioDescriptor descriptors numberofdescriptor =>
      descriptors.length = numberofdescriptor.toNat
  | _ => True

/-- The message hands a `std::string` object to `%s`, once for each descriptor. -/
def handsString : Message → Bool
  | requestShortAudioDescriptor _ numberofdescriptor => 0 < numberofdescriptor.toNat
  | reportShortAudioDescriptor _ numberofdescriptor => 0 < numberofdescriptor.toNat
  | _ => false

/-- The first descriptor decides: all come to the same. -/
theorem printFrom_eq {printOne : CECBytes C → Result Unit} {handed : Result Unit}
    (hone : ∀ operand, printOne operand = handed) (operands : List (CECBytes C)) (n : Nat) :
    ∀ i, i + n ≤ operands.length →
      printFrom printOne operands i n = if decide (0 < n) then handed else .ok () := by
  induction n with
  | zero => intro i _; rfl
  | succ n ih =>
      intro i hle
      rw [printFrom, List.getElem?_eq_getElem (by omega),
        if_pos (decide_eq_true (Nat.succ_pos n))]
      dsimp only
      rw [hone, ih (i + 1) (by omega)]
      cases handed with
      | error r => rfl
      | ok u => split <;> rfl

theorem printFormatting_returns {m : Message} (h : m.DescriptorsCounted)
    (handed : Result Unit) :
    m.printFormatting (.ok byte) handed = if m.handsString then handed else .ok () := by
  have hstring : ∀ {C : OperandClass} (operand : CECBytes C),
      operand.toString (.ok byte) = .ok () := fun operand => operand.toString_returns byte
  cases m with
  | requestShortAudioDescriptor formats numberofdescriptor =>
      have hcount : formats.length = numberofdescriptor.toNat := h
      refine printFrom_eq (fun format => ?_) formats _ 0 (by omega)
      rw [hstring, Result.ok_bind]
  | reportShortAudioDescriptor descriptors numberofdescriptor =>
      have hcount : descriptors.length = numberofdescriptor.toNat := h
      refine printFrom_eq (fun descriptor => ?_) descriptors _ 0 (by omega)
      obtain ⟨b, hatmos⟩ := descriptor.getAtmosbit_returns byte
      rw [hstring, Result.ok_bind, hatmos, Result.ok_bind]
  | _ => simp [printFormatting, hstring, handsString]

end Message

/-- The default processing ends normally, unless the format of a string object does not. -/
theorem MessageProcessor.processFormatting_returns {m : Message} (h : m.DescriptorsCounted)
    (handed : Result Unit) (header : Header) :
    processFormatting (.ok byte) handed m header =
      if m.handsString then handed else .ok () := by
  rw [processFormatting, Header.print_returns, Result.ok_bind,
    Message.printFormatting_returns byte h]

end

/-! ## What the decoder hands over

The constructors of the operands and of the messages return or throw, and the
messages that reach a processor have their descriptor vectors counted. -/

theorem CECBytes.ofFrame_settles {C : OperandClass} (frame : CECFrame) (startPos : Nat) :
    Settles (fun _ => True) (CECBytes.ofFrame frame startPos : Result (CECBytes C)) := by
  unfold ofFrame ofFrameRange
  dsimp only
  split
  · exact Settles.throwing _
  · split
    · trivial
    · exact Settles.throwing _

theorem OpCode.ofFrame_settles (frame : CECFrame) (startPos : Nat) :
    Settles (fun _ => True) (OpCode.ofFrame frame startPos) := by
  unfold ofFrame CECFrame.at'
  split
  · exact Settles.throwing _
  · trivial

namespace Message

theorem descriptorsFrom_settles {C : OperandClass} (block : CECFrame) (stride n : Nat) :
    ∀ i, Settles (fun operands : List (CECBytes C) => operands.length = n)
      (descriptorsFrom block stride i n) := by
  induction n with
  | zero => intro i; rfl
  | succ n ih =>
      intro i
      refine (CECBytes.ofFrame_settles block (i * stride)).bind fun operand _ => ?_
      refine (ih (i + 1)).bind fun rest hrest => ?_
      show (operand :: rest).length = n + 1
      rw [List.length_cons, hrest]

theorem ofBlock_settles {C : OperandClass} {build : CECBytes C → Message}
    (hbuild : ∀ operand, (build operand).DescriptorsCounted) (block : CECFrame) :
    Settles DescriptorsCounted (ofBlock build block) :=
  (CECBytes.ofFrame_settles block 0).bind fun operand _ => hbuild operand

theorem ofBlock2_settles {C D : OperandClass} {build : CECBytes C → CECBytes D → Message}
    (hbuild : ∀ first second, (build first second).DescriptorsCounted) (block : CECFrame) :
    Settles DescriptorsCounted (ofBlock2 build block) := by
  refine (CECBytes.ofFrame_settles block 0).bind fun first _ => ?_
  refine (CECBytes.ofFrame_settles block (0 + C.maxLen)).bind fun second _ => ?_
  exact hbuild first second

theorem featureAbortOfBlock_settles (block : CECFrame) :
    Settles DescriptorsCounted (featureAbortOfBlock block) := by
  refine (OpCode.ofFrame_settles block 0).bind fun feature _ => ?_
  exact (CECBytes.ofFrame_settles block (0 + 1)).bind fun reason _ => trivial

theorem requestShortAudioDescriptorOfBlock_settles (block : CECFrame) :
    Settles DescriptorsCounted (requestShortAudioDescriptorOfBlock block) :=
  (descriptorsFrom_settles block 1 _ 0).bind fun _ hlength => hlength

theorem reportShortAudioDescriptorOfBlock_settles (block : CECFrame) :
    Settles DescriptorsCounted (reportShortAudioDescriptorOfBlock block) :=
  (descriptorsFrom_settles block 3 _ 0).bind fun _ hlength => hlength

theorem systemAudioModeRequestOfBlock_settles (block : CECFrame) :
    Settles DescriptorsCounted (systemAudioModeRequestOfBlock block) := by
  refine (CECBytes.ofFrame_settles block 0).bind fun physicaladdress _ => ?_
  split <;> trivial

end Message

namespace MessageDecoder

/-- Every case of the switch builds a message that can be printed, or throws. -/
theorem switchCases_settles :
    ∀ entry ∈ switchCases, ∀ block, Settles Message.DescriptorsCounted (entry.2 block) := by
  rintro ⟨op, build⟩ hmem block
  cases switchCases_case hmem with
  | bare hbare => cases hbare <;> trivial
  | one hone => exact Message.ofBlock_settles (fun _ => by cases hone <;> trivial) block
  | two htwo => exact Message.ofBlock2_settles (fun _ _ => by cases htwo <;> trivial) block
  | featureAbort => exact Message.featureAbortOfBlock_settles block
  | requestShortAudioDescriptor => exact Message.requestShortAudioDescriptorOfBlock_settles block
  | reportShortAudioDescriptor => exact Message.reportShortAudioDescriptorOfBlock_settles block
  | systemAudioModeRequest => exact Message.systemAudioModeRequestOfBlock_settles block

/-- Without a header the decoder throws before it enters its `try` block. -/
theorem decode_empty (process : Message → Header → Result Unit) {frame : CECFrame}
    (hempty : frame.length = 0) : (decode process frame).outcome = throwing .outOfRange := by
  rw [decode, Header.ofFrame_empty hempty]
  rfl

end MessageDecoder

end HdmiCec
