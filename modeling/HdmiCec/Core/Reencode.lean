import HdmiCec.Core.RoundTrip
import Mathlib.Data.List.Basic

/-!
# Encoding what was decoded

The other direction of `RoundTrip`: from a frame that the decoder hands to the processor
to the frame that the encoder makes of the message.  The frame constructors clip their
operands, so a message keeps a leading part of the operand bytes (`kept`), and
`serialize` puts exactly this part back, with one exception.  The `PhysicalAddress` of a
truncated frame has one byte, and three classes read two in their `serialize`: <System Audio
Mode Request> to compare it with F.F.F.F, <Active Source> and <Inactive Source> to log it.

The header byte and the opcode byte are put back for every frame.
-/

namespace HdmiCec

/-- A header read from a byte is packed into this byte again. -/
theorem Header.pack_unpack (byte : UInt8) :
    Header.pack ((byte &&& 0xF0) >>> 4) ((byte &&& 0x0F) >>> 0) = byte := by
  unfold Header.pack
  apply UInt8.eq_of_bits
  simp [Fin.forall_fin_succ]

/-! ## Operands that were read -/

/-- An operand that was read is a slice of its block, and not behind it. -/
theorem CECBytes.ofFrame_eq_ok {C : OperandClass} {block : CECFrame} {startPos : Nat}
    {operand : CECBytes C} (hstart : startPos ≤ 128)
    (h : (CECBytes.ofFrame block startPos : Result (CECBytes C)) = .ok operand) :
    operand.str = (block.bytes.drop startPos).take C.maxLen ∧ startPos < block.length := by
  rw [ofFrame, ofFrameRange_eq block startPos C.maxLen hstart C.maxLen_le] at h
  split at h
  · cases h
  · split at h
    · cases h
    · next hbehind hslice =>
      cases h
      refine ⟨rfl, Nat.lt_of_not_le fun hend => hslice ?_⟩
      rw [List.drop_eq_nil_of_le (by rw [CECFrame.bytes_length]; omega), List.take_nil]

namespace Message

/-- How many of `n` operand bytes the message keeps that was decoded from them. -/
def kept (n : Nat) : Message → Nat
  | activeSource _ | inActiveSource _ | routingInformation _ | setStreamPath _ => min 2 n
  | cecVersion _ | reportPowerStatus _ | setSystemAudioMode _ | reportAudioStatus _ => min 1 n
  | setMenuLanguage _ | deviceVendorID _ => min 3 n
  | setOSDName _ => min 14 n
  | setOSDString _ => min 13 n
  | reportPhysicalAddress _ _ => min 3 n
  | routingChange _ _ => min 4 n
  | featureAbort _ _ => min 2 n
  | requestShortAudioDescriptor _ _ => min 4 n
  | reportShortAudioDescriptor _ _ => 3 * (n / 3)
  -- F.F.F.F stands for no operand
  | systemAudioModeRequest physicaladdress =>
      if physicaladdress.str = [0xFF, 0xFF] then 0 else min 2 n
  | userControlPressed _ => min 1 n
  | _ => 0

/-- `serialize` puts back the operand bytes that the message has kept of its block. -/
def PutsBack (block : CECFrame) (m : Message) : Prop :=
  ∀ out : CECFrame, out.length + block.length ≤ 128 →
    CECFrame.Extends out (block.bytes.take (m.kept block.length)) (m.serialize out)

theorem take_min_length (block : CECFrame) (k : Nat) :
    block.bytes.take (min k block.length) = block.bytes.take k := by
  rw [← List.take_take, List.take_of_length_le (Nat.le_of_eq block.bytes_length)]

/-! ## Messages with one operand, or two in a row -/

theorem ofBlock_eq_ok {C : OperandClass} {build : CECBytes C → Message} {block : CECFrame}
    {m : Message} (h : ofBlock build block = .ok m) :
    ∃ operand, m = build operand ∧ operand.str = block.bytes.take C.maxLen ∧
      0 < block.length := by
  obtain ⟨operand, hread, hbuild⟩ := Result.bind_eq_ok h
  cases hbuild
  obtain ⟨hstr, hpos⟩ := CECBytes.ofFrame_eq_ok (Nat.zero_le _) hread
  rw [List.drop_zero] at hstr
  exact ⟨operand, rfl, hstr, hpos⟩

/-- An operand that is serialized as it is puts its bytes back. -/
theorem operand_putsBack {C : OperandClass} {m : Message} {operand : CECBytes C}
    {block : CECFrame} (hstr : operand.str = block.bytes.take C.maxLen)
    (hkept : m.kept block.length = min C.maxLen block.length)
    (hserialize : ∀ out, m.serialize out = operand.serialize out) : PutsBack block m := by
  intro out hfits
  rw [hkept, hserialize, take_min_length, ← hstr]
  apply CECBytes.serialize_extends
  rw [hstr, List.length_take, CECFrame.bytes_length]
  omega

/-- An address that is logged first is put back if it is whole. -/
theorem ofBlock_logged {build : PhysicalAddress → Message}
    (hkept : ∀ operand n, (build operand).kept n = min 2 n)
    (hserialize : ∀ operand out, (build operand).serialize out = serializeLogged operand out)
    {block : CECFrame} {m : Message} (h : ofBlock build block = .ok m) :
    if block.length = 1 then ∀ out, m.serialize out = .error .undefined
    else PutsBack block m := by
  obtain ⟨physicalAddress, rfl, hstr, hpos⟩ := ofBlock_eq_ok h
  have hlength : physicalAddress.str.length = min 2 block.length := by
    rw [hstr, List.length_take, CECFrame.bytes_length]
    rfl
  split
  · next hone =>
    intro out
    rw [hserialize, serializeLogged_cut (by omega)]
  · next hwhole =>
    refine operand_putsBack hstr (hkept physicalAddress _) fun out => ?_
    rw [hserialize, serializeLogged_whole (by omega)]

theorem ofBlock2_putsBack {C D : OperandClass} {build : CECBytes C → CECBytes D → Message}
    (hkept : ∀ first second n, (build first second).kept n = min (C.maxLen + D.maxLen) n)
    (hserialize : ∀ first second out, (build first second).serialize out =
      first.serialize out >>= second.serialize)
    {block : CECFrame} {m : Message} (h : ofBlock2 build block = .ok m) :
    ∃ first second, m = build first second ∧ PutsBack block m := by
  obtain ⟨first, hfirst, hrest⟩ := Result.bind_eq_ok h
  obtain ⟨second, hsecond, hbuild⟩ := Result.bind_eq_ok hrest
  cases hbuild
  refine ⟨first, second, rfl, fun out hfits => ?_⟩
  have hstr := (CECBytes.ofFrame_eq_ok (Nat.zero_le _) hfirst).1
  have hstr' := (CECBytes.ofFrame_eq_ok (by have := C.maxLen_le; omega) hsecond).1
  rw [List.drop_zero] at hstr
  rw [Nat.zero_add] at hstr'
  have hboth : block.bytes.take (C.maxLen + D.maxLen) = first.str ++ second.str := by
    rw [hstr, hstr', List.take_add]
  have hlength : (first.str ++ second.str).length ≤ block.length := by
    rw [← hboth, List.length_take, CECFrame.bytes_length]
    omega
  rw [List.length_append] at hlength
  rw [hkept, hserialize, take_min_length, hboth]
  refine CECFrame.Extends.bind (CECBytes.serialize_extends first out (by omega)) ?_
  intro next hnext
  exact CECBytes.serialize_extends second next (by omega)

/-- An opcode that was read is one byte, and is put on the wire as this byte. -/
theorem serialize_opCode (byte : UInt8) (out : CECFrame) :
    OpCode.serialize ⟨byte.toUInt32⟩ out = out.append byte := by
  have hpolling : (byte.toUInt32 != Op.polling) = true := by
    rw [bne_iff_ne]
    intro heq
    have hlt := byte.toNat_lt
    have hnat := congrArg UInt32.toNat heq
    simp [Op.polling] at hnat
    omega
  rw [OpCode.serialize, if_pos hpolling]
  congr 1
  apply UInt8.toNat_inj.mp
  simp

theorem featureAbortOfBlock_putsBack {block : CECFrame} {m : Message}
    (h : featureAbortOfBlock block = .ok m) :
    ∃ feature reason, m = featureAbort feature reason ∧ PutsBack block m := by
  obtain ⟨feature, hfeature, hrest⟩ := Result.bind_eq_ok h
  obtain ⟨reason, hreason, hbuild⟩ := Result.bind_eq_ok hrest
  obtain ⟨byte, hat, hopcode⟩ := Result.bind_eq_ok hfeature
  cases hbuild
  cases hopcode
  refine ⟨_, reason, rfl, fun out hfits => ?_⟩
  have hstr := (CECBytes.ofFrame_eq_ok (by omega) hreason).1
  have hfirst : block.bytes.take 1 = [byte] := by
    rw [CECFrame.at'_eq] at hat
    cases hbytes : block.bytes with
    | nil => rw [hbytes] at hat; cases hat
    | cons first rest => rw [hbytes] at hat; cases hat; rfl
  have hboth : block.bytes.take 2 = [byte] ++ reason.str := by
    rw [hstr, ← hfirst]
    show block.bytes.take (1 + 1) = _
    exact List.take_add
  have hlength : ([byte] ++ reason.str).length ≤ block.length := by
    rw [← hboth, List.length_take, CECFrame.bytes_length]
    omega
  rw [List.length_append, List.length_singleton] at hlength
  show CECFrame.Extends out (block.bytes.take (min 2 block.length))
    (OpCode.serialize ⟨byte.toUInt32⟩ out >>= reason.serialize)
  rw [take_min_length, hboth, serialize_opCode]
  refine CECFrame.Extends.bind (CECFrame.append_extends out byte (by omega)) ?_
  intro next hnext
  rw [List.length_singleton] at hnext
  exact CECBytes.serialize_extends reason next (by omega)

/-! ## Counted descriptors -/

/-- A count that fits a frame fits a byte. -/
theorem count_toNat {n : Nat} (hn : n ≤ 128) : (UInt8.ofNat n).toNat = n := by
  rw [UInt8.toNat_ofNat']
  exact Nat.mod_eq_of_lt (by omega)

/-- `numberofdescriptor`, which is cut at 4. -/
theorem numberofdescriptor_eq {n : Nat} (hn : n ≤ 128) :
    (if UInt8.ofNat n > 4 then (4 : UInt8) else UInt8.ofNat n) = UInt8.ofNat (min 4 n) := by
  have hcast := count_toNat hn
  split
  · next hlarge =>
    have hlt : 4 < n := by
      have hbyte := UInt8.lt_iff_toNat_lt.mp hlarge
      rwa [hcast] at hbyte
    rw [Nat.min_eq_left (Nat.le_of_lt hlt)]
    rfl
  · next hsmall =>
    have hle : n ≤ 4 := by
      have hbyte := UInt8.le_iff_toNat_le.mp (UInt8.not_lt.mp hsmall)
      rwa [hcast] at hbyte
    rw [Nat.min_eq_right hle]

/-- Operands read one behind the other are the bytes of the block, cut into pieces. -/
theorem descriptorsFrom_flatMap {C : OperandClass} {block : CECFrame} (n : Nat) :
    ∀ (i : Nat) (operands : List (CECBytes C)), (i + n) * C.maxLen ≤ 128 →
      descriptorsFrom block C.maxLen i n = .ok operands →
      operands.length = n ∧
        operands.flatMap CECBytes.str = (block.bytes.drop (i * C.maxLen)).take (n * C.maxLen) := by
  induction n with
  | zero =>
      intro i operands _ h
      cases h
      simp
  | succ n ih =>
      intro i operands hbound h
      obtain ⟨operand, hread, htail⟩ := Result.bind_eq_ok h
      obtain ⟨rest, hrest, hcons⟩ := Result.bind_eq_ok htail
      cases hcons
      have hstart : i * C.maxLen ≤ 128 := by
        refine Nat.le_trans (Nat.mul_le_mul_right _ ?_) hbound
        omega
      have hstr := (CECBytes.ofFrame_eq_ok hstart hread).1
      obtain ⟨hlength, hflat⟩ := ih (i + 1) rest (by rw [Nat.add_right_comm]; exact hbound) hrest
      refine ⟨by rw [List.length_cons, hlength], ?_⟩
      rw [List.flatMap_cons, hstr, hflat, Nat.succ_mul, Nat.succ_mul, Nat.add_comm (n * C.maxLen),
        List.take_add, List.drop_drop]

theorem descriptors_putBack {C : OperandClass} {block : CECFrame} {n : Nat}
    {operands : List (CECBytes C)} (hbound : n * C.maxLen ≤ 128)
    (h : descriptorsFrom block C.maxLen 0 n = .ok operands) {out : CECFrame}
    (hfits : out.length + block.length ≤ 128) :
    CECFrame.Extends out (block.bytes.take (n * C.maxLen)) (serializeFrom operands 0 n out) := by
  obtain ⟨hlength, hflat⟩ := descriptorsFrom_flatMap n 0 operands (by rwa [Nat.zero_add]) h
  rw [Nat.zero_mul, List.drop_zero] at hflat
  rw [← hflat]
  refine serializeFrom_extends operands n 0 out (by omega) ?_
  rw [List.drop_zero, hflat, List.length_take, CECFrame.bytes_length]
  omega

theorem requestShortAudioDescriptorOfBlock_putsBack {block : CECFrame} {m : Message}
    (h : requestShortAudioDescriptorOfBlock block = .ok m) :
    ∃ formats number, m = requestShortAudioDescriptor formats number ∧ PutsBack block m := by
  obtain ⟨formats, hread, hbuild⟩ := Result.bind_eq_ok h
  cases hbuild
  refine ⟨formats, _, rfl, fun out hfits => ?_⟩
  have hle := block.length_le
  have hnumber := count_toNat (show min 4 block.length ≤ 128 by omega)
  show CECFrame.Extends out (block.bytes.take (min 4 block.length))
    (serializeFrom formats 0 _ out)
  rw [numberofdescriptor_eq hle, hnumber] at hread ⊢
  have hback := descriptors_putBack (C := .requestAudioFormat) (n := min 4 block.length)
    (by simp only [OperandClass.maxLen]; omega) hread hfits
  rwa [OperandClass.maxLen, Nat.mul_one] at hback

theorem reportShortAudioDescriptorOfBlock_putsBack {block : CECFrame} {m : Message}
    (h : reportShortAudioDescriptorOfBlock block = .ok m) :
    ∃ descriptors number, m = reportShortAudioDescriptor descriptors number ∧
      PutsBack block m := by
  obtain ⟨descriptors, hread, hbuild⟩ := Result.bind_eq_ok h
  cases hbuild
  refine ⟨descriptors, _, rfl, fun out hfits => ?_⟩
  have hle := block.length_le
  have hnumber := count_toNat (show block.length / 3 ≤ 128 by omega)
  show CECFrame.Extends out (block.bytes.take (3 * (block.length / 3)))
    (serializeFrom descriptors 0 _ out)
  rw [hnumber] at hread ⊢
  rw [Nat.mul_comm]
  exact descriptors_putBack (C := .shortAudioDescriptor)
    (by simp only [OperandClass.maxLen]; omega) hread hfits

/-! ## The request with an address or none -/

/-- Both nibbles of a byte are 0xF exactly if the byte is 0xFF. -/
theorem eq_allF_iff (byte : UInt8) :
    byte = 0xFF ↔ (byte &&& 0xF0) >>> 4 = 0xF ∧ byte &&& 0x0F = 0xF := by
  constructor
  · rintro rfl
    decide
  · rintro ⟨hupper, hlower⟩
    have hpack := Header.pack_unpack byte
    rw [hupper, hlower] at hpack
    rw [← hpack]
    decide

/-- With two bytes the test of `serialize` is the one for F.F.F.F. -/
theorem isAllF_pair (first second : UInt8) :
    isAllF ⟨[first, second]⟩ = .ok (decide ([first, second] = [0xFF, 0xFF])) := by
  have hfirst := eq_allF_iff first
  have hsecond := eq_allF_iff second
  simp only [isAllF, getByteValue, CECBytes.get, assertThat]
  by_cases h3 : second &&& 0x0F = 0xF <;> by_cases h2 : (second &&& 0xF0) >>> 4 = 0xF <;>
    by_cases h1 : first &&& 0x0F = 0xF <;> by_cases h0 : (first &&& 0xF0) >>> 4 = 0xF <;>
    simp_all

theorem systemAudioModeRequestOfBlock_eq_ok {block : CECFrame} {m : Message}
    (h : systemAudioModeRequestOfBlock block = .ok m) :
    ∃ physicaladdress, m = systemAudioModeRequest physicaladdress ∧
      physicaladdress.str = block.bytes.take 2 ∧ 0 < block.length := by
  obtain ⟨physicaladdress, hread, hbuild⟩ := Result.bind_eq_ok h
  obtain ⟨hstr, hpos⟩ := CECBytes.ofFrame_eq_ok (Nat.zero_le _) hread
  rw [if_neg (by omega)] at hbuild
  cases hbuild
  exact ⟨physicaladdress, rfl, hstr, hpos⟩

theorem systemAudioModeRequestOfBlock_putsBack {block : CECFrame} {m : Message}
    (h : systemAudioModeRequestOfBlock block = .ok m) (hwhole : block.length ≠ 1) :
    PutsBack block m := by
  obtain ⟨⟨str⟩, rfl, hstr, hpos⟩ := systemAudioModeRequestOfBlock_eq_ok h
  change str = _ at hstr
  intro out hfits
  have hlength : str.length = 2 := by
    rw [hstr, List.length_take, CECFrame.bytes_length]
    omega
  obtain ⟨first, second, rfl⟩ := List.length_eq_two.mp hlength
  show CECFrame.Extends out
    (block.bytes.take (if [first, second] = [0xFF, 0xFF] then 0 else min 2 block.length))
    (serializeSystemAudioModeRequest ⟨[first, second]⟩ out)
  rw [serializeSystemAudioModeRequest, isAllF_pair, Result.ok_bind]
  by_cases hnone : [first, second] = [0xFF, 0xFF]
  · rw [if_pos hnone, decide_eq_true hnone, if_pos rfl, List.take_zero]
    exact CECFrame.Extends.refl out
  · rw [if_neg hnone, decide_eq_false hnone, take_min_length, ← hstr]
    exact CECBytes.serialize_extends _ out (by simp only [List.length_cons] at hlength ⊢; omega)

theorem systemAudioModeRequestOfBlock_truncated {block : CECFrame} {m : Message}
    (h : systemAudioModeRequestOfBlock block = .ok m) (hone : block.length = 1)
    (out : CECFrame) : m.serialize out = .error .undefined := by
  obtain ⟨⟨str⟩, rfl, hstr, -⟩ := systemAudioModeRequestOfBlock_eq_ok h
  change str = _ at hstr
  have hlength : str.length = 1 := by
    rw [hstr, List.length_take, CECFrame.bytes_length]
    omega
  obtain ⟨first, rfl⟩ := List.length_eq_one_iff.mp hlength
  rfl

end Message

/-! ## The frame as a whole -/

namespace MessageDecoder

section Kinds

variable {op : Op_t}

theorem BareCase.opCode_eq {m : Message} (h : BareCase op m) : m.opCode = op := by
  cases h <;> rfl

theorem BareCase.kept_eq {m : Message} (h : BareCase op m) (n : Nat) : m.kept n = 0 := by
  cases h <;> rfl

theorem BareCase.serialize_eq {m : Message} (h : BareCase op m) (out : CECFrame) :
    m.serialize out = .ok out := by
  cases h <;> rfl

theorem OneOperand.opCode_eq {C : OperandClass} {build : CECBytes C → Message}
    (h : OneOperand op build) (operand : CECBytes C) : (build operand).opCode = op := by
  cases h <;> rfl

theorem OneOperand.kept_eq {C : OperandClass} {build : CECBytes C → Message}
    (h : OneOperand op build) (operand : CECBytes C) (n : Nat) :
    (build operand).kept n = min C.maxLen n := by
  cases h <;> rfl

variable {C D : OperandClass} {build : CECBytes C → CECBytes D → Message}

theorem TwoOperands.opCode_eq (h : TwoOperands op build) (first : CECBytes C)
    (second : CECBytes D) : (build first second).opCode = op := by
  cases h <;> rfl

theorem TwoOperands.kept_eq (h : TwoOperands op build) (first : CECBytes C)
    (second : CECBytes D) (n : Nat) :
    (build first second).kept n = min (C.maxLen + D.maxLen) n := by
  cases h <;> rfl

theorem TwoOperands.serialize_eq (h : TwoOperands op build) (first : CECBytes C)
    (second : CECBytes D) (out : CECFrame) :
    (build first second).serialize out = first.serialize out >>= second.serialize := by
  cases h <;> rfl

end Kinds

/-- The classes whose `serialize` reads both bytes of a physical address: two log it, and one
compares it with F.F.F.F. -/
def ReadsAddress (op : Op_t) : Prop :=
  op = Op.activeSource ∨ op = Op.inactiveSource ∨ op = Op.systemAudioModeRequest

instance (op : Op_t) : Decidable (ReadsAddress op) := inferInstanceAs (Decidable (_ ∨ _))

/-- Every case of the switch builds a message of its opcode that puts its operand bytes
back, unless `serialize` reads an address of which the block has one byte. -/
theorem switchCases_putsBack :
    ∀ entry ∈ switchCases, ∀ block m, entry.2 block = .ok m →
      m.opCode = entry.1 ∧
        if ReadsAddress entry.1 ∧ block.length = 1 then
          ∀ out, m.serialize out = .error .undefined
        else
          m.PutsBack block := by
  rintro ⟨op, build⟩ hmem block m h
  -- the classes that read no address
  have hother : ¬ ReadsAddress op → m.PutsBack block →
      if ReadsAddress op ∧ block.length = 1 then ∀ out, m.serialize out = .error .undefined
      else m.PutsBack block := by
    intro hnot hback
    rw [if_neg fun hcut => hnot hcut.1]
    exact hback
  cases switchCases_case hmem with
  | bare hbare =>
      cases h
      refine ⟨hbare.opCode_eq, hother (by cases hbare <;> decide) fun out _ => ?_⟩
      rw [hbare.kept_eq, hbare.serialize_eq]
      exact CECFrame.Extends.refl out
  | one hone =>
      obtain ⟨operand, rfl, hstr, -⟩ := Message.ofBlock_eq_ok h
      refine ⟨hone.opCode_eq operand, ?_⟩
      have hkept := hone.kept_eq
      cases hone with
      | activeSource | inActiveSource =>
          have hlogged := Message.ofBlock_logged hkept (fun _ _ => rfl) h
          simpa [ReadsAddress] using hlogged
      | _ =>
          exact hother (by decide)
            (Message.operand_putsBack hstr (hkept operand _) fun out => rfl)
  | two htwo =>
      obtain ⟨first, second, rfl, hback⟩ :=
        Message.ofBlock2_putsBack htwo.kept_eq htwo.serialize_eq h
      exact ⟨htwo.opCode_eq first second, hother (by cases htwo <;> decide) hback⟩
  | featureAbort =>
      obtain ⟨feature, reason, rfl, hback⟩ := Message.featureAbortOfBlock_putsBack h
      exact ⟨rfl, hother (by decide) hback⟩
  | requestShortAudioDescriptor =>
      obtain ⟨formats, number, rfl, hback⟩ :=
        Message.requestShortAudioDescriptorOfBlock_putsBack h
      exact ⟨rfl, hother (by decide) hback⟩
  | reportShortAudioDescriptor =>
      obtain ⟨descriptors, number, rfl, hback⟩ :=
        Message.reportShortAudioDescriptorOfBlock_putsBack h
      exact ⟨rfl, hother (by decide) hback⟩
  | systemAudioModeRequest =>
      obtain ⟨physicaladdress, rfl, -, -⟩ := Message.systemAudioModeRequestOfBlock_eq_ok h
      refine ⟨rfl, ?_⟩
      split
      · next hcut => exact Message.systemAudioModeRequestOfBlock_truncated h hcut.2
      · next hwhole =>
        exact Message.systemAudioModeRequestOfBlock_putsBack h
          fun hone => hwhole ⟨.inr (.inr rfl), hone⟩

/-- The header that is read from a byte. -/
def unpack (byte : UInt8) : Header :=
  Header.ofNibbles ((byte &&& 0xF0) >>> 4) ((byte &&& 0x0F) >>> 0)

theorem ofFrame_eq_unpack {frame : CECFrame} {header : Header}
    (h : Header.ofFrame frame 0 = .ok header) :
    ∃ first rest, frame.bytes = first :: rest ∧ header = unpack first := by
  rw [Header.ofFrame, CECFrame.at'_eq] at h
  cases hbytes : frame.bytes with
  | nil => rw [hbytes] at h; cases h
  | cons first rest =>
      rw [hbytes] at h
      cases h
      exact ⟨first, rest, rfl, rfl⟩

/-- A message that the switch hands over was built by the case of its opcode. -/
theorem dispatch_calls {process : Message → Header → Result Unit} {frame block : CECFrame}
    {header header' : Header} {m : Message}
    (hcall : (m, header) ∈ (dispatch process frame block header').calls) :
    header = header' ∧ ∃ opcode build, frame.at' 1 = .ok opcode ∧
      (opcode.toUInt32, build) ∈ switchCases ∧ build block = .ok m := by
  rw [dispatch] at hcall
  cases hopcode : OpCode.ofFrame frame 1 with
  | error r => simp [hopcode] at hcall
  | ok op =>
      obtain ⟨opcode, hat, hop⟩ := Result.bind_eq_ok hopcode
      cases hop
      simp only [hopcode] at hcall
      cases hlookup : switchCases.lookup opcode.toUInt32 with
      | none => simp [hlookup] at hcall
      | some build =>
          simp only [hlookup] at hcall
          cases hbuild : build block with
          | error r => simp [hbuild] at hcall
          | ok m' =>
              simp only [hbuild, List.mem_singleton] at hcall
              cases hcall
              exact ⟨rfl, opcode, build, hat, mem_of_lookup hlookup, hbuild⟩

/-- A message that reaches the processor is the polling message of a one-byte frame, or
was built by a case of the switch from what lies behind the opcode byte. -/
theorem calls_cases {process : Message → Header → Result Unit} {frame : CECFrame}
    {m : Message} {header : Header} (hcall : (m, header) ∈ (decode process frame).calls) :
    (∃ first, frame.bytes = [first] ∧ m = .polling ∧ header = unpack first) ∨
      ∃ first opcode block build, frame.bytes = first :: opcode :: block.bytes ∧
        header = unpack first ∧ (opcode.toUInt32, build) ∈ switchCases ∧
        build block = .ok m := by
  rw [decode] at hcall
  cases hheader : Header.ofFrame frame 0 with
  | error r => simp [hheader] at hcall
  | ok header' =>
      obtain ⟨first, rest, hbytes, rfl⟩ := ofFrame_eq_unpack hheader
      have hlength := frame.bytes_length
      rw [hbytes, List.length_cons] at hlength
      simp only [hheader] at hcall
      by_cases hone : frame.length = 1
      · rw [if_pos hone, List.mem_singleton] at hcall
        cases hcall
        obtain rfl : rest = [] := List.eq_nil_of_length_eq_zero (by omega)
        exact .inl ⟨first, hbytes, rfl, rfl⟩
      · obtain ⟨block, hblock, hrest⟩ := CECFrame.subFrame_bytes frame 2 0
        rw [if_neg hone, hblock] at hcall
        obtain ⟨rfl, opcode, build, hat, hcase, hbuild⟩ := dispatch_calls hcall
        refine .inr ⟨first, opcode, block, build, ?_, rfl, hcase, hbuild⟩
        rw [CECFrame.at'_eq, hbytes] at hat
        cases rest with
        | nil => cases hat
        | cons second rest =>
            cases hat
            have hle := frame.length_le
            rw [List.length_cons] at hlength
            have htail : block.bytes = rest := by
              rw [hrest, hbytes]
              refine List.take_of_length_le ?_
              simp only [CECFrame.maxLength, if_pos, List.drop_succ_cons, List.drop_zero]
              omega
            rw [hbytes, htail]

/-- A frame of three bytes, of a class whose `serialize` reads an address: it has half of
one. -/
def TruncatedAddress (frame : CECFrame) : Prop :=
  frame.length = 3 ∧ ∃ opcode ∈ frame.bytes[1]?, ReadsAddress opcode.toUInt32

instance (frame : CECFrame) : Decidable (TruncatedAddress frame) :=
  inferInstanceAs (Decidable (_ ∧ _))

theorem length_of_bytes {frame block : CECFrame} {first opcode : UInt8}
    (hbytes : frame.bytes = first :: opcode :: block.bytes) :
    frame.length = 2 + block.length := by
  rw [← CECFrame.bytes_length, hbytes, List.length_cons, List.length_cons,
    CECFrame.bytes_length]
  omega

/-- The same condition on the opcode and the operand bytes. -/
theorem truncatedAddress_iff {frame block : CECFrame} {first opcode : UInt8}
    (hbytes : frame.bytes = first :: opcode :: block.bytes) :
    TruncatedAddress frame ↔ ReadsAddress opcode.toUInt32 ∧ block.length = 1 := by
  rw [TruncatedAddress, hbytes, length_of_bytes hbytes]
  simp only [List.getElem?_cons_succ, List.getElem?_cons_zero, Option.mem_some_iff,
    exists_eq_left']
  constructor
  · rintro ⟨hthree, hreads⟩
    exact ⟨hreads, by omega⟩
  · rintro ⟨hreads, hone⟩
    exact ⟨by omega, hreads⟩

/-- Encoding the message gives the header byte, the opcode byte and the operand bytes that
the message has kept: a prefix of the frame. -/
def Reencodes (frame : CECFrame) (m : Message) (header : Header) : Prop :=
  ∃ out, MessageEncoder.encode header m = .ok out ∧
    out.bytes = frame.bytes.take (2 + m.kept (frame.length - 2))

/-- A message that was built by the switch, with its header in front. -/
theorem encode_extends {m : Message} (first : UInt8) {opcode : UInt8} {block : CECFrame}
    (hopcode : m.opCode = opcode.toUInt32) (hback : m.PutsBack block)
    (hfits : 2 + block.length ≤ 128) :
    CECFrame.Extends CECFrame.empty
      ([first] ++ ([opcode] ++ block.bytes.take (m.kept block.length)))
      (MessageEncoder.encode (unpack first) m) := by
  have hheader := Header.serialize_empty ((first &&& 0xF0) >>> 4) ((first &&& 0x0F) >>> 0)
  rw [Header.pack_unpack] at hheader
  refine CECFrame.Extends.bind hheader ?_
  intro headed hheaded
  rw [CECFrame.length_empty, List.length_singleton] at hheaded
  rw [MessageEncoder.encodeBlock, hopcode, Message.serialize_opCode]
  refine CECFrame.Extends.bind (CECFrame.append_extends headed opcode (by omega)) ?_
  intro coded hcoded
  rw [List.length_singleton] at hcoded
  exact hback coded (by omega)

theorem encode_undefined {m : Message} {first opcode : UInt8}
    (hopcode : m.opCode = opcode.toUInt32)
    (hserialize : ∀ out, m.serialize out = .error .undefined) :
    MessageEncoder.encode (unpack first) m = .error .undefined := by
  obtain ⟨headed, hheaded, hbytes⟩ :=
    Header.serialize_empty ((first &&& 0xF0) >>> 4) ((first &&& 0x0F) >>> 0)
  have hone : headed.length = 1 := by
    rw [← CECFrame.bytes_length, hbytes]
    rfl
  obtain ⟨coded, hcoded, -⟩ := CECFrame.append_extends headed opcode (by omega)
  rw [MessageEncoder.encode, unpack, hheaded, Result.ok_bind, MessageEncoder.encodeBlock,
    hopcode, Message.serialize_opCode, hcoded, Result.ok_bind]
  exact hserialize coded

/-- Encoding a message that the decoder has handed over gives a prefix of its frame, with
the operand bytes that the message keeps, except for the frames of three bytes whose
`serialize` reads behind the address. -/
theorem reencodes_iff {process : Message → Header → Result Unit} {frame : CECFrame}
    {m : Message} {header : Header} (hcall : (m, header) ∈ (decode process frame).calls) :
    Reencodes frame m header ↔ ¬ TruncatedAddress frame := by
  rcases calls_cases hcall with
    ⟨first, hbytes, rfl, rfl⟩ | ⟨first, opcode, block, build, hbytes, rfl, hcase, hbuild⟩
  · -- the polling message is its header
    have hone : frame.length = 1 := by rw [← CECFrame.bytes_length, hbytes]; rfl
    obtain ⟨out, hout, hpolling⟩ :=
      Header.serialize_empty ((first &&& 0xF0) >>> 4) ((first &&& 0x0F) >>> 0)
    rw [Header.pack_unpack] at hpolling
    refine ⟨fun _ htruncated => ?_, fun _ => ⟨out, ?_, ?_⟩⟩
    · have hthree := htruncated.1
      omega
    · rw [MessageEncoder.encode, unpack, hout]
      rfl
    · rw [hpolling, hbytes]
      rfl
  · have hlength := length_of_bytes hbytes
    have hle := frame.length_le
    obtain ⟨hopcode, hserialize⟩ := switchCases_putsBack _ hcase block m hbuild
    rw [truncatedAddress_iff hbytes]
    split at hserialize
    · next hrequest =>
      refine ⟨?_, fun hnot => absurd hrequest hnot⟩
      rintro ⟨out, hout, -⟩
      rw [encode_undefined hopcode hserialize] at hout
      cases hout
    · next hwhole =>
      refine ⟨fun _ => hwhole, fun _ => ?_⟩
      obtain ⟨out, hout, hextends⟩ := encode_extends first hopcode hserialize (by omega)
      refine ⟨out, hout, ?_⟩
      rw [hextends, hbytes, hlength, Nat.add_sub_cancel_left, Nat.add_comm 2]
      simp

/-- What `Reencodes` says is a prefix. -/
theorem Reencodes.isPrefix {frame : CECFrame} {m : Message} {header : Header}
    (h : Reencodes frame m header) :
    ∃ out, MessageEncoder.encode header m = .ok out ∧ out.bytes <+: frame.bytes := by
  obtain ⟨out, hout, hbytes⟩ := h
  exact ⟨out, hout, by rw [hbytes]; exact List.take_prefix _ _⟩

/-- A report with one short audio descriptor and a part of another one: the part is
dropped. -/
theorem reencodes_iff_partialDescriptor :
    Reencodes (CECFrame.ofBytes [0x50, 0xA3, 0x09, 0x07, 0x01, 0x15] (by decide))
      (.reportShortAudioDescriptor [⟨[0x09, 0x07, 0x01]⟩] 1) (Header.ofNibbles 5 0) := by
  refine (@reencodes_iff (fun _ _ => .ok ()) _ _ _ ?_).mpr (by decide)
  exact List.mem_singleton.mpr rfl

/-- A <System Audio Mode Request> with the first byte of an address only: it is decoded,
and encoding it reads the second byte of the address. -/
theorem not_reencodes :
    ¬ ∀ (frame : CECFrame) (m : Message) (header : Header),
      (m, header) ∈ (decode (fun _ _ => .ok ()) frame).calls →
        ∃ out, MessageEncoder.encode header m = .ok out ∧ out.bytes <+: frame.bytes := by
  intro hall
  obtain ⟨out, hout, -⟩ := hall (CECFrame.ofBytes [0x50, 0x70, 0x10] (by decide))
    (.systemAudioModeRequest ⟨[0x10]⟩) (unpack 0x50) (by decide +kernel)
  have hundefined : MessageEncoder.encode (unpack 0x50)
      (.systemAudioModeRequest ⟨[0x10]⟩) = .error .undefined :=
    @encode_undefined _ 0x50 0x70 rfl fun _ => rfl
  rw [hundefined] at hout
  cases hout

end MessageDecoder

end HdmiCec
