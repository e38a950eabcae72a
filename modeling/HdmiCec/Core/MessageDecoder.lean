import HdmiCec.Core.Messages

/-!
# `MessageDecoder::decode`

The decoder reads the header, tells a polling message by the length 1, cuts
off the operand block and switches on the opcode.  Each case builds the
message from the block and hands it to `processor.process`.

A processor is modelled by the outcome of its `process` methods, and `decode`
returns the calls it made together with its own outcome.  Only the switch is
inside the `try` block; the header and the polling case are not.
-/

namespace HdmiCec

namespace MessageDecoder

/-- What a case of the switch calls on the operand block, by what its class reads of it. -/
structure CaseCalls (R : Type) where
  /-- A class without operands. -/
  bare : Message → R
  ofBlock : {C : OperandClass} → (CECBytes C → Message) → R
  ofBlock2 : {C D : OperandClass} → (CECBytes C → CECBytes D → Message) → R
  featureAbortOfBlock : R
  requestShortAudioDescriptorOfBlock : R
  reportShortAudioDescriptorOfBlock : R
  systemAudioModeRequestOfBlock : R

/-- The cases of the switch that process a message.  The vendor and user-control cases of
the source are commented out there and fall under `break`, as the default does. -/
def switchOf {R : Type} (calls : CaseCalls R) : List (Op_t × R) :=
  [ (Op.activeSource, calls.ofBlock .activeSource),
    (Op.inactiveSource, calls.ofBlock .inActiveSource),
    (Op.imageViewOn, calls.bare .imageViewOn),
    (Op.textViewOn, calls.bare .textViewOn),
    (Op.requestActiveSource, calls.bare .requestActiveSource),
    (Op.standby, calls.bare .standby),
    (Op.getCecVersion, calls.bare .getCECVersion),
    (Op.cecVersion, calls.ofBlock .cecVersion),
    (Op.setMenuLanguage, calls.ofBlock .setMenuLanguage),
    (Op.giveOsdName, calls.bare .giveOSDName),
    (Op.givePhysicalAddress, calls.bare .givePhysicalAddress),
    (Op.reportPhysicalAddress, calls.ofBlock2 .reportPhysicalAddress),
    (Op.giveDeviceVendorId, calls.bare .giveDeviceVendorID),
    (Op.routingChange, calls.ofBlock2 .routingChange),
    (Op.routingInformation, calls.ofBlock .routingInformation),
    (Op.setStreamPath, calls.ofBlock .setStreamPath),
    (Op.getMenuLanguage, calls.bare .getMenuLanguage),
    (Op.deviceVendorId, calls.ofBlock .deviceVendorID),
    (Op.setOsdString, calls.ofBlock .setOSDString),
    (Op.setOsdName, calls.ofBlock .setOSDName),
    (Op.giveDevicePowerStatus, calls.bare .giveDevicePowerStatus),
    (Op.reportPowerStatus, calls.ofBlock .reportPowerStatus),
    (Op.featureAbort, calls.featureAbortOfBlock),
    (Op.abort, calls.bare .abort),
    (Op.initiateArc, calls.bare .initiateArc),
    (Op.terminateArc, calls.bare .terminateArc),
    (Op.requestShortAudioDescriptor, calls.requestShortAudioDescriptorOfBlock),
    (Op.reportShortAudioDescriptor, calls.reportShortAudioDescriptorOfBlock),
    (Op.systemAudioModeRequest, calls.systemAudioModeRequestOfBlock),
    (Op.setSystemAudioMode, calls.ofBlock .setSystemAudioMode),
    (Op.reportAudioStatus, calls.ofBlock .reportAudioStatus) ]

/-- The constructors that the cases call. -/
abbrev blockCalls : CaseCalls (CECFrame → Result Message) where
  bare m := fun _ => .ok m
  ofBlock := Message.ofBlock
  ofBlock2 := Message.ofBlock2
  featureAbortOfBlock := Message.featureAbortOfBlock
  requestShortAudioDescriptorOfBlock := Message.requestShortAudioDescriptorOfBlock
  reportShortAudioDescriptorOfBlock := Message.reportShortAudioDescriptorOfBlock
  systemAudioModeRequestOfBlock := Message.systemAudioModeRequestOfBlock

/-- The cases of the switch with the constructor each one calls on the operand block. -/
def switchCases : List (Op_t × (CECFrame → Result Message)) := switchOf blockCalls

/-! ### The case principle

A proof about every case of the switch is one about each kind of class: no operand, one,
two in a row, and the four classes with a constructor of their own.  What it needs of the
classes of a kind is a lemma about `BareCase`, `OneOperand` or `TwoOperands`. -/

/-- The opcodes of the classes without operands. -/
inductive BareCase : Op_t → Message → Prop
  | imageViewOn : BareCase Op.imageViewOn .imageViewOn
  | textViewOn : BareCase Op.textViewOn .textViewOn
  | requestActiveSource : BareCase Op.requestActiveSource .requestActiveSource
  | standby : BareCase Op.standby .standby
  | getCECVersion : BareCase Op.getCecVersion .getCECVersion
  | giveOSDName : BareCase Op.giveOsdName .giveOSDName
  | givePhysicalAddress : BareCase Op.givePhysicalAddress .givePhysicalAddress
  | giveDeviceVendorID : BareCase Op.giveDeviceVendorId .giveDeviceVendorID
  | getMenuLanguage : BareCase Op.getMenuLanguage .getMenuLanguage
  | giveDevicePowerStatus : BareCase Op.giveDevicePowerStatus .giveDevicePowerStatus
  | abort : BareCase Op.abort .abort
  | initiateArc : BareCase Op.initiateArc .initiateArc
  | terminateArc : BareCase Op.terminateArc .terminateArc

/-- The opcodes of the classes with one operand, and what they build of it. -/
inductive OneOperand : Op_t → {C : OperandClass} → (CECBytes C → Message) → Prop
  | activeSource : OneOperand Op.activeSource .activeSource
  | inActiveSource : OneOperand Op.inactiveSource .inActiveSource
  | cecVersion : OneOperand Op.cecVersion .cecVersion
  | setMenuLanguage : OneOperand Op.setMenuLanguage .setMenuLanguage
  | routingInformation : OneOperand Op.routingInformation .routingInformation
  | setStreamPath : OneOperand Op.setStreamPath .setStreamPath
  | deviceVendorID : OneOperand Op.deviceVendorId .deviceVendorID
  | setOSDString : OneOperand Op.setOsdString .setOSDString
  | setOSDName : OneOperand Op.setOsdName .setOSDName
  | reportPowerStatus : OneOperand Op.reportPowerStatus .reportPowerStatus
  | setSystemAudioMode : OneOperand Op.setSystemAudioMode .setSystemAudioMode
  | reportAudioStatus : OneOperand Op.reportAudioStatus .reportAudioStatus

/-- The opcodes of the classes with two operands in a row. -/
inductive TwoOperands :
    Op_t → {C D : OperandClass} → (CECBytes C → CECBytes D → Message) → Prop
  | reportPhysicalAddress : TwoOperands Op.reportPhysicalAddress .reportPhysicalAddress
  | routingChange : TwoOperands Op.routingChange .routingChange

/-- The kinds of cases. -/
inductive CaseOf {R : Type} (calls : CaseCalls R) : Op_t → R → Prop
  | bare {op : Op_t} {m : Message} (hbare : BareCase op m) : CaseOf calls op (calls.bare m)
  | one {op : Op_t} {C : OperandClass} {build : CECBytes C → Message}
      (hone : OneOperand op build) : CaseOf calls op (calls.ofBlock build)
  | two {op : Op_t} {C D : OperandClass} {build : CECBytes C → CECBytes D → Message}
      (htwo : TwoOperands op build) : CaseOf calls op (calls.ofBlock2 build)
  | featureAbort : CaseOf calls Op.featureAbort calls.featureAbortOfBlock
  | requestShortAudioDescriptor :
      CaseOf calls Op.requestShortAudioDescriptor calls.requestShortAudioDescriptorOfBlock
  | reportShortAudioDescriptor :
      CaseOf calls Op.reportShortAudioDescriptor calls.reportShortAudioDescriptorOfBlock
  | systemAudioModeRequest :
      CaseOf calls Op.systemAudioModeRequest calls.systemAudioModeRequestOfBlock

/-- Every case of the switch is of one of the kinds. -/
theorem switchOf_case {R : Type} {calls : CaseCalls R} {op : Op_t} {build : R}
    (hmem : (op, build) ∈ switchOf calls) : CaseOf calls op build := by
  have hall : ∀ entry ∈ switchOf calls, CaseOf calls entry.1 entry.2 := by
    simp only [switchOf, List.forall_mem_cons]
    repeat' apply And.intro
    all_goals first
      | exact List.forall_mem_nil _
      | exact .featureAbort
      | exact .requestShortAudioDescriptor
      | exact .reportShortAudioDescriptor
      | exact .systemAudioModeRequest
      | exact .bare (by constructor)
      | exact .one (by constructor)
      | exact .two (by constructor)
  exact hall (op, build) hmem

theorem switchCases_case {op : Op_t} {build : CECFrame → Result Message}
    (hmem : (op, build) ∈ switchCases) : CaseOf blockCalls op build :=
  switchOf_case hmem

/-- Each opcode has one case. -/
theorem switchOf_lookup {R : Type} {calls : CaseCalls R} {op : Op_t} {build : R}
    (hmem : (op, build) ∈ switchOf calls) : (switchOf calls).lookup op = some build := by
  cases switchOf_case hmem with
  | bare hbare => cases hbare <;> rfl
  | one hone => cases hone <;> rfl
  | two htwo => cases htwo <;> rfl
  | featureAbort | requestShortAudioDescriptor | reportShortAudioDescriptor
  | systemAudioModeRequest => rfl

/-- The case that is found for an opcode is one of the table. -/
theorem mem_of_lookup {β : Type} {cases_ : List (Op_t × β)} {op : Op_t} {found : β}
    (hlookup : cases_.lookup op = some found) : (op, found) ∈ cases_ := by
  obtain ⟨before, after, hcases, -⟩ := List.lookup_eq_some_iff.mp hlookup
  rw [hcases]
  exact List.mem_append_right before List.mem_cons_self

/-- The calls of `process` that `decode` made, and how it ended itself. -/
structure Trace where
  calls : List (Message × Header)
  outcome : Result Unit

/-- The body of the `try` block: the switch on the opcode. -/
def dispatch (process : Message → Header → Result Unit) (in_ block : CECFrame)
    (header : Header) : Trace :=
  match OpCode.ofFrame in_ 1 with
  | .error r => ⟨[], .error r⟩
  | .ok op =>
      match switchCases.lookup op.opCode_ with
      | none => ⟨[], .ok ()⟩
      | some build =>
          match build block with
          | .error r => ⟨[], .error r⟩
          | .ok m => ⟨[(m, header)], process m header⟩

/-- `decode(const CECFrame &in_)`.  Both catch clauses of the source log and
go on: `InvalidParamException` and every other `std::exception` end here. -/
def decode (process : Message → Header → Result Unit) (in_ : CECFrame) : Trace :=
  match Header.ofFrame in_ 0 with
  | .error r => ⟨[], .error r⟩
  | .ok header =>
      if in_.length = 1 then
        ⟨[(.polling, header)], process .polling header⟩
      else
        match in_.subFrame 2 0 with
        | .error r => ⟨[], .error r⟩
        | .ok block =>
            let tried := dispatch process in_ block header
            ⟨tried.calls, catching (fun _ => true) tried.outcome fun _ => .ok ()⟩

end MessageDecoder

end HdmiCec
