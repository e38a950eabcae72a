import HdmiCec.Core.MessageDecoder

/-!
# Decoding undoes encoding

The bytes that a message puts on the wire are `Message.wire`: the opcode byte
(none for the polling message) and the operand bytes.  The encoder appends
exactly these to the header byte (`encode_bytes`), and a frame made of a
header byte and these bytes is dispatched as the message itself
(`dispatch_wire`).  Both facts are one case analysis over the message classes;
`decode_encode` chains them.

A message is `WellFormed` when its operand objects have the sizes their
classes are meant to have.  The values of the bytes are not restricted.
-/

namespace HdmiCec

/-! ## Headers -/

/-- A header whose two addresses are in `0..15`. -/
def Header.InRange (header : Header) : Prop :=
  ∃ initiator follower : UInt8, initiator ≤ 15 ∧ follower ≤ 15 ∧
    header = Header.ofNibbles initiator follower

/-- The byte a header is packed into. -/
def Header.pack (initiator follower : UInt8) : UInt8 := initiator <<< 4 ||| follower

theorem Header.upper_pack :
    ∀ i j : Fin 16, (Header.pack (UInt8.ofNat i) (UInt8.ofNat j) &&& 0xF0) >>> 4 =
      UInt8.ofNat i := by
  decide

theorem Header.lower_pack :
    ∀ i j : Fin 16, (Header.pack (UInt8.ofNat i) (UInt8.ofNat j) &&& 0x0F) >>> 0 =
      UInt8.ofNat j := by
  decide

theorem UInt8.eq_ofNat_fin16 {b : UInt8} (h : b ≤ 15) :
    ∃ i : Fin 16, b = UInt8.ofNat i := by
  refine ⟨⟨b.toNat, ?_⟩, ?_⟩
  · have := UInt8.le_iff_toNat_le.mp h
    simp at this
    omega
  · simp

/-- Two bytes are equal if their eight bits are. -/
theorem UInt8.eq_of_bits {x y : UInt8}
    (h : ∀ i : Fin 8, x.toBitVec.getLsbD i.val = y.toBitVec.getLsbD i.val) : x = y := by
  apply UInt8.toBitVec_inj.mp
  apply BitVec.eq_of_getLsbD_eq
  intro i hi
  exact h ⟨i, hi⟩

theorem Header.serialize_empty (initiator follower : UInt8) :
    CECFrame.Extends CECFrame.empty [Header.pack initiator follower]
      ((Header.ofNibbles initiator follower).serialize CECFrame.empty) := by
  obtain ⟨frame, hto, hbytes⟩ :=
    CECBytes.serialize_extends (CECBytes.ofByte follower : LogicalAddress) CECFrame.empty
      (by simp [CECBytes.ofByte])
  have hone : frame.bytes = [follower] := by simpa [CECBytes.ofByte] using hbytes
  have hlength : frame.length = 1 := by rw [← CECFrame.bytes_length, hone]; rfl
  have hat : frame.at' (frame.length - 1) = .ok follower := by
    rw [CECFrame.at'_eq, hone, hlength]
    rfl
  obtain ⟨packed, hset, hpacked⟩ :=
    CECFrame.setAt_bytes frame (frame.length - 1) (Header.pack initiator follower) (by omega)
  refine ⟨packed, ?_, ?_⟩
  · unfold Header.serialize
    simp only [Header.ofNibbles, hto, Result.ok_bind, hat, LogicalAddress.toInt_ofByte,
      assertThat, beq_self_eq_true, if_true]
    exact hset
  · rw [hpacked, hone, hlength]
    rfl

/-- A frame that starts with the packed byte gives the header back. -/
theorem Header.ofFrame_pack {initiator follower : UInt8} (hi : initiator ≤ 15)
    (hf : follower ≤ 15) {frame : CECFrame} {rest : List UInt8}
    (h : frame.bytes = Header.pack initiator follower :: rest) :
    Header.ofFrame frame 0 = .ok (Header.ofNibbles initiator follower) := by
  obtain ⟨i, rfl⟩ := UInt8.eq_ofNat_fin16 hi
  obtain ⟨j, rfl⟩ := UInt8.eq_ofNat_fin16 hf
  have hat : frame.at' 0 = .ok (Header.pack (UInt8.ofNat i) (UInt8.ofNat j)) := by
    rw [CECFrame.at'_eq, h]
    rfl
  unfold Header.ofFrame
  rw [hat]
  change Except.ok _ = Except.ok _
  rw [Header.upper_pack, Header.lower_pack]
  rfl

namespace Message

/-! ## What a message puts on the wire -/

/-- The messages of the dispatched classes with operands of the right sizes. -/
def WellFormed : Message → Prop
  | activeSource physicalAddress => physicalAddress.str.length = 2
  | inActiveSource physicalAddress => physicalAddress.str.length = 2
  | cecVersion version => version.str.length = 1
  | setMenuLanguage language => language.str.length = 3
  | setOSDName osdName => 1 ≤ osdName.str.length ∧ osdName.str.length ≤ 14
  | setOSDString osdString => 1 ≤ osdString.str.length ∧ osdString.str.length ≤ 13
  | reportPhysicalAddress physicalAddress deviceType =>
      physicalAddress.str.length = 2 ∧ deviceType.str.length = 1
  | deviceVendorID vendorId => vendorId.str.length = 3
  | reportPowerStatus status => status.str.length = 1
  | featureAbort feature reason => feature.opCode_ ≤ 0xFF ∧ reason.str.length = 1
  | routingChange from_ to_ => from_.str.length = 2 ∧ to_.str.length = 2
  | routingInformation toSink => toSink.str.length = 2
  | setStreamPath toSink => toSink.str.length = 2
  | requestShortAudioDescriptor formats numberofdescriptor =>
      formats.length = numberofdescriptor.toNat ∧ numberofdescriptor ≤ 4 ∧
        ∀ format ∈ formats, format.str.length = 1
  | setSystemAudioMode status => status.str.length = 1
  | reportAudioStatus status => status.str.length = 1
  | polling | imageViewOn | textViewOn | requestActiveSource | standby | getCECVersion
  | getMenuLanguage | giveOSDName | givePhysicalAddress | giveDeviceVendorID
  | giveDevicePowerStatus | abort | initiateArc | terminateArc => True
  | reportShortAudioDescriptor _ _ | systemAudioModeRequest _ | giveAudioStatus
  | userControlPressed _ | userControlReleased | requestArcInitiation
  | reportArcInitiation | requestArcTermination | reportArcTermination => False

theorem audioFormatsFrom_eq_ok {formatid audioFormatCode : List UInt8} (n : Nat) :
    ∀ (i : Nat) (formats : List RequestAudioFormat),
      audioFormatsFrom formatid audioFormatCode i n = .ok formats →
      formats.length = n ∧ ∀ format ∈ formats, format.str.length = 1 := by
  induction n with
  | zero =>
      intro i formats h
      cases h
      exact ⟨rfl, List.forall_mem_nil _⟩
  | succ n ih =>
      intro i formats h
      rw [audioFormatsFrom] at h
      split at h
      · obtain ⟨rest, hrest, hcons⟩ := Result.bind_eq_ok h
        cases hcons
        obtain ⟨hlength, hone⟩ := ih (i + 1) rest hrest
        exact ⟨congrArg Nat.succ hlength, List.forall_mem_cons.mpr ⟨rfl, hone⟩⟩
      · cases h

/-- The count is cut at 4. -/
theorem numberofdescriptor_le (number : UInt8) :
    (if number > 4 then (4 : UInt8) else number) ≤ 4 := by
  split
  · exact UInt8.le_refl 4
  · next hsmall => exact UInt8.not_lt.mp hsmall

/-- The message that an application builds from an id and a format code for each entry. -/
theorem requestShortAudioDescriptorOf_wellFormed {formatid audioFormatCode : List UInt8}
    {number_of_descriptor : UInt8} {m : Message}
    (h : requestShortAudioDescriptorOf formatid audioFormatCode number_of_descriptor = .ok m) :
    m.WellFormed := by
  obtain ⟨formats, hread, hbuild⟩ := Result.bind_eq_ok h
  cases hbuild
  obtain ⟨hlength, hone⟩ := audioFormatsFrom_eq_ok _ 0 formats hread
  exact ⟨hlength, numberofdescriptor_le number_of_descriptor, hone⟩

/-- The operand bytes of a message. -/
def operandBytes : Message → List UInt8
  | activeSource physicalAddress => physicalAddress.str
  | inActiveSource physicalAddress => physicalAddress.str
  | cecVersion version => version.str
  | setMenuLanguage language => language.str
  | setOSDName osdName => osdName.str
  | setOSDString osdString => osdString.str
  | reportPhysicalAddress physicalAddress deviceType =>
      physicalAddress.str ++ deviceType.str
  | deviceVendorID vendorId => vendorId.str
  | reportPowerStatus status => status.str
  | featureAbort feature reason => feature.opCode_.toUInt8 :: reason.str
  | routingChange from_ to_ => from_.str ++ to_.str
  | routingInformation toSink => toSink.str
  | setStreamPath toSink => toSink.str
  | requestShortAudioDescriptor formats _ => formats.flatMap CECBytes.str
  | reportShortAudioDescriptor descriptors _ => descriptors.flatMap CECBytes.str
  | systemAudioModeRequest physicaladdress => physicaladdress.str
  | setSystemAudioMode status => status.str
  | reportAudioStatus status => status.str
  | userControlPressed uiCommand => uiCommand.str
  | _ => []

/-- Opcode and operands; the polling message is nothing but its header. -/
def wire (m : Message) : List UInt8 :=
  if m = polling then [] else m.opCode.toUInt8 :: m.operandBytes

/-- The operands of a well-formed message are at most an OSD name long. -/
theorem operandBytes_length_le {m : Message} (h : m.WellFormed) :
    m.operandBytes.length ≤ 14 := by
  cases m with
  | requestShortAudioDescriptor formats numberofdescriptor =>
      obtain ⟨hlength, hfour, hone⟩ := h
      have hsum : (formats.map fun format => format.str.length) =
          List.replicate formats.length 1 := by
        rw [List.eq_replicate_iff]
        refine ⟨by simp, ?_⟩
        intro n hn
        obtain ⟨format, hmem, rfl⟩ := List.mem_map.mp hn
        exact hone format hmem
      have hbound := UInt8.le_iff_toNat_le.mp hfour
      rw [operandBytes, List.length_flatMap, hsum]
      simp at hbound ⊢
      omega
  | _ =>
      simp only [WellFormed] at h <;> simp [operandBytes] <;> omega

theorem wire_length_le {m : Message} (h : m.WellFormed) : m.wire.length ≤ 15 := by
  have hoperands := operandBytes_length_le h
  rw [wire]
  split
  · exact Nat.zero_le 15
  · rw [List.length_cons]
    omega

/-! ## Encoding -/

theorem serializeFrom_extends {C : OperandClass} (operands : List (CECBytes C)) (n : Nat) :
    ∀ (i : Nat) (frame : CECFrame), operands.length = i + n →
      frame.length + ((operands.drop i).flatMap CECBytes.str).length ≤ 128 →
      CECFrame.Extends frame ((operands.drop i).flatMap CECBytes.str)
        (serializeFrom operands i n frame) := by
  induction n with
  | zero =>
      intro i frame hlength _
      rw [List.drop_eq_nil_of_le (by omega)]
      exact CECFrame.Extends.refl frame
  | succ n ih =>
      intro i frame hlength hfits
      have hi : i < operands.length := by omega
      rw [List.drop_eq_getElem_cons hi, List.flatMap_cons] at hfits ⊢
      rw [List.length_append] at hfits
      rw [serializeFrom, List.getElem?_eq_getElem hi]
      refine CECFrame.Extends.bind (CECBytes.serialize_extends _ frame (by omega)) ?_
      intro next hnext
      exact ih (i + 1) next (by omega) (by omega)

/-- `serialize` appends the operand bytes. -/
theorem serialize_extends {m : Message} (hm : m.WellFormed) (frame : CECFrame)
    (hfits : frame.length + m.operandBytes.length ≤ 128) :
    CECFrame.Extends frame m.operandBytes (m.serialize frame) := by
  cases m with
  | activeSource physicalAddress | inActiveSource physicalAddress =>
      show CECFrame.Extends frame physicalAddress.str (serializeLogged physicalAddress frame)
      rw [serializeLogged_whole (Nat.le_of_eq hm.symm)]
      exact CECBytes.serialize_extends physicalAddress frame hfits
  | requestShortAudioDescriptor formats numberofdescriptor =>
      obtain ⟨hlength, -, -⟩ := hm
      exact serializeFrom_extends formats numberofdescriptor.toNat 0 frame
        (by omega) hfits
  | reportPhysicalAddress first second =>
      simp only [operandBytes, List.length_append] at hfits
      refine CECFrame.Extends.bind (CECBytes.serialize_extends first frame (by omega)) ?_
      intro next hnext
      exact CECBytes.serialize_extends second next (by omega)
  | routingChange first second =>
      simp only [operandBytes, List.length_append] at hfits
      refine CECFrame.Extends.bind (CECBytes.serialize_extends first frame (by omega)) ?_
      intro next hnext
      exact CECBytes.serialize_extends second next (by omega)
  | featureAbort feature reason =>
      simp only [operandBytes, List.length_cons] at hfits
      have hpolling : (feature.opCode_ != Op.polling) = true := by
        rw [bne_iff_ne]
        intro heq
        have hle := hm.1
        rw [heq] at hle
        exact absurd hle (by decide)
      have hfeature : feature.serialize frame = frame.append feature.opCode_.toUInt8 := by
        rw [OpCode.serialize, if_pos hpolling]
      change CECFrame.Extends frame ([feature.opCode_.toUInt8] ++ reason.str)
        (feature.serialize frame >>= reason.serialize)
      rw [hfeature]
      refine CECFrame.Extends.bind (CECFrame.append_extends frame _ (by omega)) ?_
      intro next hnext
      rw [List.length_singleton] at hnext
      exact CECBytes.serialize_extends reason next (by omega)
  | systemAudioModeRequest _ => exact hm.elim
  | reportShortAudioDescriptor _ _ => exact hm.elim
  | _ =>
      first
        | exact CECBytes.serialize_extends _ frame hfits
        | exact CECFrame.Extends.refl frame

/-- The opcode byte of a dispatched class is its opcode. -/
theorem opCode_toUInt8 {m : Message} (hm : m.WellFormed) (hpolling : m ≠ polling) :
    m.opCode.toUInt8.toUInt32 = m.opCode := by
  cases m <;> first | rfl | exact absurd rfl hpolling

/-! ## Decoding the operand block -/

theorem ofBlock_of_bytes {C : OperandClass} {build : CECBytes C → Message}
    {block : CECFrame} {operand : CECBytes C} (hbytes : block.bytes = operand.str)
    (hpos : 1 ≤ operand.str.length) (hmax : operand.str.length ≤ C.maxLen) :
    ofBlock build block = .ok (build operand) := by
  have hslice : (block.bytes.drop 0).take C.maxLen = operand.str := by
    rw [hbytes, List.drop_zero, List.take_of_length_le hmax]
  have hne : operand.str ≠ [] := List.ne_nil_of_length_pos hpos
  rw [ofBlock, CECBytes.ofFrame_of_slice block 0 operand.str hslice hne]
  rfl

/-- An operand that fills its class. -/
theorem ofBlock_of_full {C : OperandClass} {build : CECBytes C → Message}
    {block : CECFrame} {operand : CECBytes C} (hbytes : block.bytes = operand.str)
    (hfull : operand.str.length = C.maxLen) :
    ofBlock build block = .ok (build operand) := by
  have hpos : 1 ≤ operand.str.length := by
    rw [hfull]
    exact C.maxLen_pos
  exact ofBlock_of_bytes hbytes hpos (Nat.le_of_eq hfull)

theorem ofBlock2_of_bytes {C D : OperandClass}
    {build : CECBytes C → CECBytes D → Message} {block : CECFrame}
    {first : CECBytes C} {second : CECBytes D}
    (hbytes : block.bytes = first.str ++ second.str)
    (hpos : 1 ≤ first.str.length) (hfirst : first.str.length = C.maxLen)
    (hpos' : 1 ≤ second.str.length) (hsecond : second.str.length ≤ D.maxLen) :
    ofBlock2 build block = .ok (build first second) := by
  have hslice : (block.bytes.drop 0).take C.maxLen = first.str := by
    rw [hbytes, List.drop_zero, ← hfirst, List.take_left]
  have hslice' : (block.bytes.drop (0 + C.maxLen)).take D.maxLen = second.str := by
    rw [hbytes, Nat.zero_add, ← hfirst, List.drop_left, List.take_of_length_le hsecond]
  have hne : first.str ≠ [] := List.ne_nil_of_length_pos hpos
  have hne' : second.str ≠ [] := List.ne_nil_of_length_pos hpos'
  rw [ofBlock2, CECBytes.ofFrame_of_slice block 0 first.str hslice hne, Result.ok_bind,
    CECBytes.ofFrame_of_slice block (0 + C.maxLen) second.str hslice' hne']
  rfl

theorem featureAbortOfBlock_of_bytes {block : CECFrame} {feature : OpCode}
    {reason : AbortReason} (hbytes : block.bytes = feature.opCode_.toUInt8 :: reason.str)
    (hfeature : feature.opCode_ ≤ 0xFF) (hreason : reason.str.length = 1) :
    featureAbortOfBlock block = .ok (featureAbort feature reason) := by
  have hat : block.at' 0 = .ok feature.opCode_.toUInt8 := by
    rw [CECFrame.at'_eq, hbytes]
    rfl
  have hopcode : feature.opCode_.toUInt8.toUInt32 = feature.opCode_ := by
    have hle := UInt32.le_iff_toNat_le.mp hfeature
    apply UInt32.toNat_inj.mp
    simp at hle ⊢
    omega
  have hslice : (block.bytes.drop (0 + 1)).take (OperandClass.maxLen .abortReason) =
      reason.str := by
    rw [hbytes]
    exact List.take_of_length_le (by simp [hreason, OperandClass.maxLen])
  have hne : reason.str ≠ [] := List.ne_nil_of_length_pos (by omega)
  rw [featureAbortOfBlock, OpCode.ofFrame, hat]
  simp only [Result.ok_bind, Result.pure_eq, hopcode]
  rw [CECBytes.ofFrame_of_slice block (0 + 1) reason.str hslice hne]
  rfl

theorem length_flatMap_str {C : OperandClass} {operands : List (CECBytes C)}
    (hsize : ∀ operand ∈ operands, operand.str.length = C.maxLen) :
    (operands.flatMap CECBytes.str).length = operands.length * C.maxLen := by
  induction operands with
  | nil => simp
  | cons operand rest ih =>
      have hfirst := hsize operand (List.mem_cons_self ..)
      have hrest := ih fun other hmem => hsize other (List.mem_cons_of_mem _ hmem)
      rw [List.flatMap_cons, List.length_append, hfirst, hrest, List.length_cons, Nat.add_mul,
        Nat.one_mul, Nat.add_comm]

/-- A block of whole operands is read back as these operands. -/
theorem descriptorsFrom_of_flatMap {C : OperandClass} {block : CECFrame}
    (operands : List (CECBytes C)) :
    ∀ i, (∀ operand ∈ operands, operand.str.length = C.maxLen) →
      block.bytes.drop (i * C.maxLen) = operands.flatMap CECBytes.str →
      descriptorsFrom block C.maxLen i operands.length = .ok operands := by
  induction operands with
  | nil => intro i _ _; rfl
  | cons operand rest ih =>
      intro i hsize hbytes
      have hfirst := hsize operand (List.mem_cons_self ..)
      have hne : operand.str ≠ [] := by
        have hpos := C.maxLen_pos
        intro hnil
        rw [hnil, List.length_nil] at hfirst
        omega
      rw [List.flatMap_cons] at hbytes
      have hread : (CECBytes.ofFrame block (i * C.maxLen) : Result (CECBytes C)) =
          .ok operand := by
        refine CECBytes.ofFrame_of_slice block (i * C.maxLen) operand.str ?_ hne
        rw [hbytes, ← hfirst, List.take_left]
      have hrest : block.bytes.drop ((i + 1) * C.maxLen) = rest.flatMap CECBytes.str := by
        rw [Nat.add_mul, Nat.one_mul, ← List.drop_drop, hbytes, ← hfirst, List.drop_left]
      rw [List.length_cons, descriptorsFrom, hread, Result.ok_bind,
        ih (i + 1) (fun other hmem => hsize other (List.mem_cons_of_mem _ hmem)) hrest]
      rfl

theorem requestShortAudioDescriptorOfBlock_of_bytes {block : CECFrame}
    {formats : List RequestAudioFormat} {numberofdescriptor : UInt8}
    (hbytes : block.bytes = formats.flatMap CECBytes.str)
    (hlength : formats.length = numberofdescriptor.toNat) (hfour : numberofdescriptor ≤ 4)
    (hone : ∀ format ∈ formats, format.str.length = 1) :
    requestShortAudioDescriptorOfBlock block =
      .ok (requestShortAudioDescriptor formats numberofdescriptor) := by
  have hblock : block.length = numberofdescriptor.toNat := by
    rw [← CECFrame.bytes_length, hbytes, length_flatMap_str hone, hlength]
    exact Nat.mul_one _
  have hcast : UInt8.ofNat block.length = numberofdescriptor := by
    rw [hblock, UInt8.ofNat_toNat]
  have hcut : ¬ numberofdescriptor > 4 := UInt8.not_lt.mpr hfour
  have hread := descriptorsFrom_of_flatMap formats 0 hone
    (by rw [Nat.zero_mul, List.drop_zero, hbytes])
  rw [hlength] at hread
  rw [requestShortAudioDescriptorOfBlock, hcast, if_neg hcut]
  show (descriptorsFrom block (OperandClass.maxLen .requestAudioFormat) 0
    numberofdescriptor.toNat >>= _) = _
  rw [hread]
  rfl

/-- The switch has a case for every dispatched class, and the case builds the
message back from its operand bytes. -/
theorem switchCases_of_bytes {m : Message} (hm : m.WellFormed) (hpolling : m ≠ polling)
    {block : CECFrame} (hbytes : block.bytes = m.operandBytes) :
    ∃ build, MessageDecoder.switchCases.lookup m.opCode = some build ∧
      build block = .ok m := by
  cases m with
  | polling => exact absurd rfl hpolling
  | setOSDName osdName =>
      exact ⟨_, rfl, ofBlock_of_bytes hbytes hm.1 hm.2⟩
  | setOSDString osdString =>
      exact ⟨_, rfl, ofBlock_of_bytes hbytes hm.1 hm.2⟩
  | reportPhysicalAddress physicalAddress deviceType =>
      exact ⟨_, rfl, ofBlock2_of_bytes hbytes (by rw [hm.1]; decide) hm.1
        (Nat.le_of_eq hm.2.symm) (by rw [hm.2]; decide)⟩
  | routingChange from_ to_ =>
      exact ⟨_, rfl, ofBlock2_of_bytes hbytes (by rw [hm.1]; decide) hm.1
        (by rw [hm.2]; decide) (by rw [hm.2]; decide)⟩
  | featureAbort feature reason =>
      exact ⟨_, rfl, featureAbortOfBlock_of_bytes hbytes hm.1 hm.2⟩
  | requestShortAudioDescriptor formats numberofdescriptor =>
      exact ⟨_, rfl, requestShortAudioDescriptorOfBlock_of_bytes hbytes hm.1 hm.2.1 hm.2.2⟩
  | reportShortAudioDescriptor _ _ => exact hm.elim
  | systemAudioModeRequest _ => exact hm.elim
  | giveAudioStatus => exact hm.elim
  | userControlPressed _ => exact hm.elim
  | userControlReleased => exact hm.elim
  | requestArcInitiation => exact hm.elim
  | reportArcInitiation => exact hm.elim
  | requestArcTermination => exact hm.elim
  | reportArcTermination => exact hm.elim
  | _ =>
      first
        | exact ⟨_, rfl, rfl⟩
        | exact ⟨_, rfl, ofBlock_of_full hbytes hm⟩

end Message

/-! ## Encoding and decoding a whole frame -/

/-- A message with an opcode whose `serialize` appends `bytes` is encoded as the header byte,
the opcode and these bytes. -/
theorem MessageEncoder.encode_extends (initiator follower : UInt8) {m : Message}
    (hop : (m.opCode != Op.polling) = true) {bytes : List UInt8}
    (hserialize : ∀ frame : CECFrame, frame.length + bytes.length ≤ 128 →
      CECFrame.Extends frame bytes (m.serialize frame))
    (hfits : bytes.length ≤ 126) :
    ∃ frame, encode (Header.ofNibbles initiator follower) m = .ok frame ∧
      frame.bytes = Header.pack initiator follower :: m.opCode.toUInt8 :: bytes := by
  have hbody : CECFrame.Extends CECFrame.empty
      ([Header.pack initiator follower] ++ ([m.opCode.toUInt8] ++ bytes))
      ((Header.ofNibbles initiator follower).serialize CECFrame.empty >>=
        MessageEncoder.encodeBlock m) := by
    refine CECFrame.Extends.bind (Header.serialize_empty initiator follower) ?_
    intro headed hheaded
    rw [CECFrame.length_empty, List.length_singleton] at hheaded
    have hopcode : OpCode.serialize ⟨m.opCode⟩ headed = headed.append m.opCode.toUInt8 := by
      rw [OpCode.serialize, if_pos hop]
    rw [MessageEncoder.encodeBlock, hopcode]
    refine CECFrame.Extends.bind (CECFrame.append_extends headed _ (by omega)) ?_
    intro coded hcoded
    rw [List.length_singleton] at hcoded
    exact hserialize coded (by omega)
  obtain ⟨frame, hframe, hbytes⟩ := hbody
  exact ⟨frame, hframe, by simpa using hbytes⟩

/-- The encoded frame is the header byte followed by the wire bytes. -/
theorem MessageEncoder.encode_bytes (initiator follower : UInt8) {m : Message}
    (hm : m.WellFormed) :
    ∃ frame, encode (Header.ofNibbles initiator follower) m = .ok frame ∧
      frame.bytes = Header.pack initiator follower :: m.wire := by
  by_cases hpolling : m = .polling
  · subst hpolling
    obtain ⟨frame, hframe, hbytes⟩ := Header.serialize_empty initiator follower
    exact ⟨frame, by rw [encode, hframe]; rfl, hbytes⟩
  · have hop : (m.opCode != Op.polling) = true := by
      cases m <;> first | rfl | exact absurd rfl hpolling
    have hsize := Message.operandBytes_length_le hm
    rw [Message.wire, if_neg hpolling]
    exact encode_extends initiator follower hop
      (fun frame hfits => Message.serialize_extends hm frame hfits) (by omega)

/-- A frame made of a header byte and the wire bytes of a message is handed to
the processor as that message, once. -/
theorem MessageDecoder.decode_wire (process : Message → Header → Result Unit)
    {initiator follower : UInt8} (hi : initiator ≤ 15) (hf : follower ≤ 15) {m : Message}
    (hm : m.WellFormed) {frame : CECFrame}
    (hbytes : frame.bytes = Header.pack initiator follower :: m.wire) :
    (decode process frame).calls = [(m, Header.ofNibbles initiator follower)] := by
  have hlength : frame.length = 1 + m.wire.length := by
    rw [← CECFrame.bytes_length, hbytes, List.length_cons, Nat.add_comm]
  rw [decode, Header.ofFrame_pack hi hf hbytes]
  dsimp only
  by_cases hpolling : m = .polling
  · subst hpolling
    rw [if_pos (by rw [hlength]; rfl)]
  · rw [Message.wire, if_neg hpolling] at hbytes hlength
    rw [List.length_cons] at hlength
    rw [if_neg (by omega)]
    obtain ⟨block, hsub, hblock⟩ := CECFrame.subFrame_bytes frame 2 0
    have hoperands : block.bytes = m.operandBytes := by
      rw [hblock, hbytes, if_pos rfl]
      have hsize := Message.operandBytes_length_le hm
      exact List.take_of_length_le (by simp [CECFrame.maxLength]; omega)
    have hat : frame.at' 1 = .ok m.opCode.toUInt8 := by
      rw [CECFrame.at'_eq, hbytes]
      rfl
    obtain ⟨build, hlookup, hbuild⟩ := Message.switchCases_of_bytes hm hpolling hoperands
    rw [hsub]
    dsimp only
    rw [dispatch, OpCode.ofFrame, hat]
    simp only [Result.ok_bind, Result.pure_eq, Message.opCode_toUInt8 hm hpolling, hlookup,
      hbuild]

/-- Decoding undoes encoding, for every dispatched message class, every header
and every operand value: `process` is called exactly once, with the message
and the header that were encoded. -/
theorem MessageDecoder.decode_encode (process : Message → Header → Result Unit)
    (h : Header) (hh : h.InRange) (m : Message) (hm : m.WellFormed) :
    ∃ frame, MessageEncoder.encode h m = .ok frame ∧
      (decode process frame).calls = [(m, h)] := by
  obtain ⟨initiator, follower, hi, hf, rfl⟩ := hh
  obtain ⟨frame, hframe, hbytes⟩ := MessageEncoder.encode_bytes initiator follower hm
  exact ⟨frame, hframe, MessageDecoder.decode_wire process hi hf hm hbytes⟩

/-- A tuner reports its physical address 1.0.0.0 to everyone. -/
theorem MessageDecoder.decode_encode_reportPhysicalAddress :
    ∃ frame, MessageEncoder.encode (Header.ofNibbles 3 15)
        (.reportPhysicalAddress ⟨[0x10, 0x00]⟩ ⟨[3]⟩) = .ok frame ∧
      (decode (fun _ _ => .ok ()) frame).calls =
        [(.reportPhysicalAddress ⟨[0x10, 0x00]⟩ ⟨[3]⟩, Header.ofNibbles 3 15)] :=
  MessageDecoder.decode_encode (fun _ _ => .ok ()) (Header.ofNibbles 3 15)
    ⟨3, 15, by decide, by decide, rfl⟩ (.reportPhysicalAddress ⟨[0x10, 0x00]⟩ ⟨[3]⟩)
    ⟨rfl, rfl⟩

end HdmiCec
