import HdmiCec.Core.Completeness

/-!
# The audio messages with a variable operand

<Report Short Audio Descriptor> carries up to four descriptors of three bytes, and <System
Audio Mode Request> a physical address or nothing.  Neither is among the messages of
`Message.WellFormed`, for which decoding undoes encoding; the file shows when it does.

The constructor of `ReportShortAudioDescriptor` that an application calls masks every byte
with 0x0F, and its parameter `numberofdescriptor` hides the member of that name, which keeps
what its storage held before.  The frame constructor of `SystemAudioModeRequest` reads the
operand before it looks whether there is one.
-/

namespace HdmiCec

/-! ## Short audio descriptors -/

/-- `ShortAudioDescriptor::getAudiodescriptor`. -/
def getAudiodescriptor (descriptor : ShortAudioDescriptor) : Result UInt32 := do
  let byte0 ← descriptor.get 0
  let byte1 ← descriptor.get 1
  let byte2 ← descriptor.get 2
  return byte0.toUInt32 ||| byte1.toUInt32 <<< 8 ||| byte2.toUInt32 <<< 16

namespace Message

/-- The descriptor that the constructor makes of a value. -/
def descriptorOf (value : UInt32) : ShortAudioDescriptor :=
  ⟨[(value &&& 0xF).toUInt8, ((value >>> 8) &&& 0xF).toUInt8, ((value >>> 16) &&& 0xF).toUInt8]⟩

/-- The loop of the constructor; an index outside the vector is not checked. -/
def shortAudioDescriptorsFrom (shortaudiodescriptor : List UInt32) :
    (i n : Nat) → Result (List ShortAudioDescriptor)
  | _, 0 => .ok []
  | i, n + 1 =>
      match shortaudiodescriptor[i]? with
      | none => .error .undefined
      | some value => do
          let rest ← shortAudioDescriptorsFrom shortaudiodescriptor (i + 1) n
          return descriptorOf value :: rest

/-- `ReportShortAudioDescriptor(shortaudiodescriptor, numberofdescriptor)`, where the storage
of the member `numberofdescriptor` holds `member`.  Both assignments are to the parameter. -/
def reportShortAudioDescriptorOf (member : UInt8) (shortaudiodescriptor : List UInt32)
    (numberofdescriptor : UInt8) : Result Message := do
  let numberofdescriptor : UInt8 :=
    if numberofdescriptor > 4 then 4 else numberofdescriptor
  let descriptors ←
    shortAudioDescriptorsFrom shortaudiodescriptor 0 numberofdescriptor.toNat
  return reportShortAudioDescriptor descriptors member

/-- The count that `serialize` iterates over. -/
def serializedCount : Message → Nat
  | reportShortAudioDescriptor _ numberofdescriptor => numberofdescriptor.toNat
  | _ => 0

end Message

/-! ### The bytes of a descriptor -/

/-- Two words are equal if their bits are. -/
theorem UInt32.eq_of_bits {x y : UInt32}
    (h : ∀ i : Fin 32, x.toBitVec.getLsbD i.val = y.toBitVec.getLsbD i.val) : x = y := by
  apply UInt32.toBitVec_inj.mp
  apply BitVec.eq_of_getLsbD_eq
  intro i hi
  exact h ⟨i, hi⟩

/-- Cutting a word to a byte is masking it. -/
theorem toUInt32_toUInt8 (word : UInt32) : word.toUInt8.toUInt32 = word &&& 0xFF := by
  apply UInt32.toNat_inj.mp
  have hmask := Nat.and_two_pow_sub_one_eq_mod word.toNat 8
  rw [UInt8.toNat_toUInt32, UInt32.toNat_toUInt8, UInt32.toNat_and]
  exact hmask.symm

/-- What comes back of a value: the lower half of each of its three bytes. -/
theorem getAudiodescriptor_descriptorOf (value : UInt32) :
    getAudiodescriptor (Message.descriptorOf value) = .ok (value &&& 0x0F0F0F) := by
  have hbits : (value &&& 0xF).toUInt8.toUInt32 |||
      ((value >>> 8) &&& 0xF).toUInt8.toUInt32 <<< 8 |||
      ((value >>> 16) &&& 0xF).toUInt8.toUInt32 <<< 16 = value &&& 0x0F0F0F := by
    rw [toUInt32_toUInt8, toUInt32_toUInt8, toUInt32_toUInt8]
    apply UInt32.eq_of_bits
    simp [Fin.forall_fin_succ]
  show Except.ok _ = Except.ok _
  rw [hbits]

/-- Reading every descriptor of a list. -/
theorem mapM_getAudiodescriptor (values : List UInt32) :
    (values.map Message.descriptorOf).mapM getAudiodescriptor =
      .ok (values.map (· &&& 0x0F0F0F)) := by
  induction values with
  | nil => rfl
  | cons value rest ih =>
      rw [List.map_cons, List.mapM_cons, getAudiodescriptor_descriptorOf, ih]
      rfl

theorem map_masked_iff (values : List UInt32) :
    values.map (· &&& 0x0F0F0F) = values ↔ ∀ value ∈ values, value &&& 0x0F0F0F = value := by
  constructor
  · intro hsame value hmem
    have hmap : values.map (· &&& 0x0F0F0F) = values.map id := by rw [hsame, List.map_id]
    exact List.map_inj_left.mp hmap value hmem
  · intro hall
    have hmap := List.map_congr_left (g := id) hall
    rw [hmap, List.map_id]

/-! ### The way over the wire -/

namespace Message

theorem shortAudioDescriptorsFrom_eq (values : List UInt32) (n : Nat) :
    ∀ i, i + n = values.length →
      shortAudioDescriptorsFrom values i n = .ok ((values.drop i).map descriptorOf) := by
  induction n with
  | zero =>
      intro i hlength
      rw [List.drop_eq_nil_of_le (by omega)]
      rfl
  | succ n ih =>
      intro i hlength
      have hi : i < values.length := by omega
      rw [shortAudioDescriptorsFrom, List.getElem?_eq_getElem hi, ih (i + 1) (by omega),
        List.drop_eq_getElem_cons hi]
      rfl

/-- The constructed message has the right descriptors and whatever count `member` is. -/
theorem reportShortAudioDescriptorOf_eq (member : UInt8) {values : List UInt32}
    {numberofdescriptor : UInt8} (hfour : numberofdescriptor ≤ 4)
    (hlength : values.length = numberofdescriptor.toNat) :
    reportShortAudioDescriptorOf member values numberofdescriptor =
      .ok (reportShortAudioDescriptor (values.map descriptorOf) member) := by
  have hloop := shortAudioDescriptorsFrom_eq values numberofdescriptor.toNat 0 (by omega)
  rw [reportShortAudioDescriptorOf, if_neg (UInt8.not_lt.mpr hfour), hloop]
  rfl

theorem length_of_mem_descriptorOf {values : List UInt32} {operand : ShortAudioDescriptor}
    (h : operand ∈ values.map descriptorOf) :
    operand.str.length = OperandClass.maxLen .shortAudioDescriptor := by
  obtain ⟨value, -, rfl⟩ := List.mem_map.mp h
  rfl

theorem length_flatMap_descriptorOf (values : List UInt32) :
    ((values.map descriptorOf).flatMap CECBytes.str).length = 3 * values.length := by
  rw [length_flatMap_str fun _ => length_of_mem_descriptorOf, List.length_map, Nat.mul_comm]
  rfl

/-- The frame constructor counts the descriptors by the length of the block. -/
theorem reportShortAudioDescriptorOfBlock_of_bytes {values : List UInt32}
    {numberofdescriptor : UInt8} (hlength : values.length = numberofdescriptor.toNat)
    {block : CECFrame}
    (hbytes : block.bytes = (values.map descriptorOf).flatMap CECBytes.str) :
    reportShortAudioDescriptorOfBlock block =
      .ok (reportShortAudioDescriptor (values.map descriptorOf) numberofdescriptor) := by
  have hblock : block.length = 3 * numberofdescriptor.toNat := by
    rw [← CECFrame.bytes_length, hbytes, length_flatMap_descriptorOf, hlength]
  have hnumber : UInt8.ofNat (block.length / 3) = numberofdescriptor := by
    rw [hblock, Nat.mul_div_cancel_left _ (by decide), UInt8.ofNat_toNat]
  have hread := descriptorsFrom_of_flatMap (values.map descriptorOf) 0
    (fun _ => length_of_mem_descriptorOf) (by rw [Nat.zero_mul, List.drop_zero, hbytes])
  rw [List.length_map, hlength] at hread
  rw [reportShortAudioDescriptorOfBlock, hnumber]
  show (descriptorsFrom block (OperandClass.maxLen .shortAudioDescriptor) 0
    numberofdescriptor.toNat >>= _) = _
  rw [hread]
  rfl

end Message

section Descriptors

variable {initiator follower : UInt8}

/-- A header byte is taken apart into the addresses it was packed from. -/
theorem unpack_pack (hi : initiator ≤ 15) (hf : follower ≤ 15) :
    MessageDecoder.unpack (Header.pack initiator follower) =
      Header.ofNibbles initiator follower := by
  obtain ⟨i, rfl⟩ := UInt8.eq_ofNat_fin16 hi
  obtain ⟨j, rfl⟩ := UInt8.eq_ofNat_fin16 hf
  have hupper := Header.upper_pack i j
  have hlower := Header.lower_pack i j
  rw [MessageDecoder.unpack]
  simp_all [Header.ofNibbles]

/-- The descriptors come back: the message is constructed and encoded, `serialize` goes over
as many descriptors as there are, and `decode` hands over one message with the values of the
list. -/
def DescriptorsSurvive (process : Message → Header → Result Unit) (initiator follower : UInt8)
    (member : UInt8) (values : List UInt32) (numberofdescriptor : UInt8) : Prop :=
  ∃ m frame descriptors,
    Message.reportShortAudioDescriptorOf member values numberofdescriptor = .ok m ∧
      m.serializedCount = numberofdescriptor.toNat ∧
      MessageEncoder.encode (Header.ofNibbles initiator follower) m = .ok frame ∧
      (MessageDecoder.decode process frame).calls =
        [(.reportShortAudioDescriptor descriptors numberofdescriptor,
          Header.ofNibbles initiator follower)] ∧
      descriptors.length = numberofdescriptor.toNat ∧
      descriptors.mapM getAudiodescriptor = .ok values

/-- A message that was constructed with the right count. -/
theorem decode_encode_descriptors (process : Message → Header → Result Unit)
    (hi : initiator ≤ 15) (hf : follower ≤ 15) {values : List UInt32}
    {numberofdescriptor : UInt8} (hfour : numberofdescriptor ≤ 4)
    (hlength : values.length = numberofdescriptor.toNat) :
    ∃ frame, MessageEncoder.encode (Header.ofNibbles initiator follower)
        (.reportShortAudioDescriptor (values.map Message.descriptorOf) numberofdescriptor) =
          .ok frame ∧
      (MessageDecoder.decode process frame).calls =
        [(.reportShortAudioDescriptor (values.map Message.descriptorOf) numberofdescriptor,
          Header.ofNibbles initiator follower)] := by
  have hbound := UInt8.le_iff_toNat_le.mp hfour
  have hsize := Message.length_flatMap_descriptorOf values
  have hsmall : ((values.map Message.descriptorOf).flatMap CECBytes.str).length ≤ 126 := by
    rw [hsize, hlength]
    simp at hbound
    omega
  obtain ⟨frame, hframe, hbytes⟩ := MessageEncoder.encode_extends initiator follower
    (m := .reportShortAudioDescriptor (values.map Message.descriptorOf) numberofdescriptor)
    rfl (fun frame hfits => by
      refine Message.serializeFrom_extends _ numberofdescriptor.toNat 0 frame ?_ hfits
      rw [List.length_map, hlength, Nat.zero_add]) hsmall
  refine ⟨frame, hframe, ?_⟩
  obtain ⟨first, block, hparts, hcalls⟩ := @MessageDecoder.decode_calls_eq frame 0xA3
    (by rw [hbytes]; rfl) Message.reportShortAudioDescriptorOfBlock rfl
  rw [hbytes] at hparts
  obtain ⟨hfirst, hrest⟩ := List.cons.inj hparts
  have hblock := (List.cons.inj hrest).2
  have hbuild := Message.reportShortAudioDescriptorOfBlock_of_bytes hlength hblock.symm
  rw [(hcalls process).1 _ hbuild, ← hfirst, unpack_pack hi hf]

/-- The descriptors come back exactly if the storage of the member happens to hold their
number, and no byte of a value has anything in its upper half. -/
theorem descriptorsSurvive_iff (process : Message → Header → Result Unit)
    (hi : initiator ≤ 15) (hf : follower ≤ 15) (member : UInt8) {values : List UInt32}
    {numberofdescriptor : UInt8} (hfour : numberofdescriptor ≤ 4)
    (hlength : values.length = numberofdescriptor.toNat) :
    DescriptorsSurvive process initiator follower member values numberofdescriptor ↔
      member = numberofdescriptor ∧ ∀ value ∈ values, value &&& 0x0F0F0F = value := by
  have hconstructed := Message.reportShortAudioDescriptorOf_eq member hfour hlength
  have hvalues := mapM_getAudiodescriptor values
  obtain ⟨frame, hframe, hcalls⟩ := decode_encode_descriptors process hi hf hfour hlength
  constructor
  · rintro ⟨m, frame', descriptors, hm, hcount, hframe', hcalls', -, hread⟩
    rw [hconstructed] at hm
    cases hm
    have hmember : member = numberofdescriptor := UInt8.toNat_inj.mp hcount
    subst hmember
    rw [hframe] at hframe'
    cases hframe'
    rw [hcalls] at hcalls'
    have hdescriptors : values.map Message.descriptorOf = descriptors := by
      simpa using hcalls'
    rw [← hdescriptors, hvalues] at hread
    exact ⟨rfl, (map_masked_iff values).mp (Except.ok.inj hread)⟩
  · rintro ⟨rfl, hmasked⟩
    refine ⟨_, frame, _, hconstructed, rfl, hframe, hcalls, ?_, ?_⟩
    · rw [List.length_map, hlength]
    · rw [hvalues, (map_masked_iff values).mpr hmasked]

/-- Two descriptors with small bytes, in storage that holds a 2 already. -/
theorem descriptorsSurvive_iff_small :
    DescriptorsSurvive (fun _ _ => .ok ()) 5 0 2 [0x010709, 0x03060F] 2 :=
  (descriptorsSurvive_iff (fun _ _ => .ok ()) (by decide) (by decide) 2 (by decide) rfl).mpr
    ⟨rfl, List.forall_mem_cons.mpr ⟨by decide, List.forall_mem_singleton.mpr (by decide)⟩⟩

/-- The storage of the member holds the right count, and a format byte 0x57 does not come
back; with small bytes, storage that holds a 0 loses the descriptor. -/
theorem not_descriptorsSurvive :
    ¬ DescriptorsSurvive (fun _ _ => .ok ()) 5 0 1 [0x030657] 1 ∧
      ¬ DescriptorsSurvive (fun _ _ => .ok ()) 5 0 0 [0x010709] 1 := by
  constructor
  · rintro ⟨m, frame, descriptors, hm, -, hframe, hcalls, -, hread⟩
    rw [Message.reportShortAudioDescriptorOf_eq 1 (by decide) rfl] at hm
    cases hm
    obtain ⟨frame', hframe', hcalls'⟩ := @decode_encode_descriptors 5 0 (fun _ _ => .ok ())
      (by decide) (by decide) [0x030657] 1 (by decide) rfl
    rw [hframe] at hframe'
    cases hframe'
    rw [hcalls] at hcalls'
    have hdescriptors : descriptors = [0x030657].map Message.descriptorOf := by
      simpa using hcalls'
    rw [hdescriptors, mapM_getAudiodescriptor] at hread
    revert hread
    decide
  · rintro ⟨m, frame, descriptors, hm, hcount, -⟩
    rw [Message.reportShortAudioDescriptorOf_eq 0 (by decide) rfl] at hm
    cases hm
    cases hcount

end Descriptors

/-! ## <System Audio Mode Request> -/

namespace Message

/-- A block of one address. -/
theorem systemAudioModeRequestOfBlock_of_bytes {block : CECFrame} {first second : UInt8}
    (hbytes : block.bytes = [first, second]) :
    systemAudioModeRequestOfBlock block = .ok (systemAudioModeRequest ⟨[first, second]⟩) := by
  have hread : (CECBytes.ofFrame block 0 : Result PhysicalAddress) = .ok ⟨[first, second]⟩ := by
    refine CECBytes.ofFrame_of_slice block 0 [first, second] ?_ (List.cons_ne_nil _ _)
    rw [hbytes]
    rfl
  have hlength : block.length = 2 := by
    rw [← CECFrame.bytes_length, hbytes]
    rfl
  rw [systemAudioModeRequestOfBlock, hread, Result.ok_bind, if_neg (by omega)]
  rfl

/-- An empty block: the operand is refused before the constructor comes to its own test. -/
theorem systemAudioModeRequestOfBlock_of_nil {block : CECFrame} (hbytes : block.bytes = []) :
    systemAudioModeRequestOfBlock block = throwing .invalidParamException := by
  have hlength : block.length = 0 := by
    rw [← CECFrame.bytes_length, hbytes]
    rfl
  have hread : (CECBytes.ofFrame block 0 : Result PhysicalAddress) =
      throwing .invalidParamException := by
    rw [CECBytes.ofFrame, CECBytes.ofFrameRange_eq block 0 _ (by omega) (OperandClass.maxLen_le _),
      if_neg (by omega), hbytes]
    rfl
  rw [systemAudioModeRequestOfBlock, hread]
  rfl

/-- What `serialize` puts on the wire for an address. -/
def systemAudioModeRequestBytes (first second : UInt8) : List UInt8 :=
  if [first, second] = [0xFF, 0xFF] then [] else [first, second]

theorem serializeSystemAudioModeRequest_extends (first second : UInt8) (frame : CECFrame)
    (hfits : frame.length + (systemAudioModeRequestBytes first second).length ≤ 128) :
    CECFrame.Extends frame (systemAudioModeRequestBytes first second)
      (serializeSystemAudioModeRequest ⟨[first, second]⟩ frame) := by
  rw [serializeSystemAudioModeRequest, isAllF_pair, Result.ok_bind]
  unfold systemAudioModeRequestBytes at hfits ⊢
  by_cases hnone : [first, second] = [0xFF, 0xFF]
  · rw [if_pos hnone, decide_eq_true hnone]
    exact CECFrame.Extends.refl frame
  · rw [if_neg hnone] at hfits ⊢
    rw [decide_eq_false hnone]
    exact CECBytes.serialize_extends _ frame hfits

end Message

section Request

variable {initiator follower : UInt8}

/-- No frame with this opcode and nothing behind it is handed over. -/
theorem decode_emptyRequest (process : Message → Header → Result Unit) {frame : CECFrame}
    {header : UInt8} (hbytes : frame.bytes = [header, 0x70]) :
    (MessageDecoder.decode process frame).calls = [] := by
  obtain ⟨first, block, hparts, hcalls⟩ := @MessageDecoder.decode_calls_eq frame 0x70
    (by rw [hbytes]; rfl) Message.systemAudioModeRequestOfBlock rfl
  rw [hbytes] at hparts
  have hblock := (List.cons.inj (List.cons.inj hparts).2).2
  exact (hcalls process).2 _ (Message.systemAudioModeRequestOfBlock_of_nil hblock.symm)

/-- An address comes back over the wire exactly if it is not F.F.F.F, and a request without
an operand is never handed over. -/
theorem requests_survive_iff (process : Message → Header → Result Unit)
    (hi : initiator ≤ 15) (hf : follower ≤ 15) (first second : UInt8) :
    (∃ frame, MessageEncoder.encode (Header.ofNibbles initiator follower)
        (.systemAudioModeRequest ⟨[first, second]⟩) = .ok frame ∧
      ((MessageDecoder.decode process frame).calls =
          [(.systemAudioModeRequest ⟨[first, second]⟩, Header.ofNibbles initiator follower)] ↔
        [first, second] ≠ [0xFF, 0xFF])) ∧
      ∀ (frame : CECFrame) (header : UInt8), frame.bytes = [header, 0x70] →
        (MessageDecoder.decode process frame).calls = [] := by
  refine ⟨?_, fun frame header hbytes => decode_emptyRequest process hbytes⟩
  obtain ⟨frame, hframe, hbytes⟩ := MessageEncoder.encode_extends initiator follower
    (m := .systemAudioModeRequest ⟨[first, second]⟩) rfl
    (Message.serializeSystemAudioModeRequest_extends first second)
    (by unfold Message.systemAudioModeRequestBytes; split <;> simp)
  refine ⟨frame, hframe, ?_⟩
  unfold Message.systemAudioModeRequestBytes at hbytes
  by_cases hnone : [first, second] = [0xFF, 0xFF]
  · rw [if_pos hnone] at hbytes
    rw [decode_emptyRequest process hbytes]
    exact iff_of_false (List.cons_ne_nil _ _).symm fun hother => hother hnone
  · rw [if_neg hnone] at hbytes
    refine iff_of_true ?_ hnone
    obtain ⟨header, block, hparts, hcalls⟩ := @MessageDecoder.decode_calls_eq frame 0x70
      (by rw [hbytes]; rfl) Message.systemAudioModeRequestOfBlock rfl
    rw [hbytes] at hparts
    obtain ⟨hheader, hrest⟩ := List.cons.inj hparts
    have hblock := (List.cons.inj hrest).2
    rw [(hcalls process).1 _ (Message.systemAudioModeRequestOfBlock_of_bytes hblock.symm),
      ← hheader, unpack_pack hi hf]

/-- The address 1.0.0.0 comes back. -/
theorem requests_survive_iff_playback :
    ∃ frame, MessageEncoder.encode (Header.ofNibbles 4 5)
        (.systemAudioModeRequest ⟨[0x10, 0x00]⟩) = .ok frame ∧
      (MessageDecoder.decode (fun _ _ => .ok ()) frame).calls =
        [(.systemAudioModeRequest ⟨[0x10, 0x00]⟩, Header.ofNibbles 4 5)] := by
  obtain ⟨⟨frame, hframe, hcalls⟩, -⟩ := @requests_survive_iff 4 5 (fun _ _ => .ok ())
    (by decide) (by decide) 0x10 0x00
  exact ⟨frame, hframe, hcalls.mpr (by decide)⟩

/-- The request with the address F.F.F.F is sent without an operand and dropped by the
decoder. -/
theorem not_requests_survive :
    ∃ frame, MessageEncoder.encode (Header.ofNibbles 4 5)
        (.systemAudioModeRequest ⟨[0xFF, 0xFF]⟩) = .ok frame ∧
      frame.bytes = [0x45, 0x70] ∧
      (MessageDecoder.decode (fun _ _ => .ok ()) frame).calls = [] := by
  obtain ⟨frame, hframe, hbytes⟩ := MessageEncoder.encode_extends 4 5
    (m := .systemAudioModeRequest ⟨[0xFF, 0xFF]⟩) rfl
    (Message.serializeSystemAudioModeRequest_extends 0xFF 0xFF) (by decide)
  exact ⟨frame, hframe, hbytes, decode_emptyRequest _ hbytes⟩

end Request

end HdmiCec
