import HdmiCec.Core.Trailing

/-!
# Where the constructors slice the operand block

Every operand of a decoded message comes from `CECBytes(frame, startPos, len)`.  The
constructors of the messages are run here with a record of these calls.  Forgetting the
record gives the constructors of the decoder back (`result_eq`), and a frame's record is
that of the one constructor that `decode` calls for it.
-/

namespace HdmiCec

namespace Slicing

/-- A call of `CECBytes(frame, startPos, len)` on the operand block, by the class that it
is made for; `len` is the `MAX_LEN` of the class. -/
structure Slice where
  startPos : Nat
  operandClass : OperandClass
  deriving DecidableEq, Repr

/-- A computation with the calls it has made, also when it ends abruptly. -/
structure Sliced (α : Type) where
  slices : List Slice
  result : Result α

namespace Sliced

variable {α β : Type}

/-- A computation that makes no such call. -/
def lift (result : Result α) : Sliced α := ⟨[], result⟩

def bind (first : Sliced α) (next : α → Sliced β) : Sliced β :=
  match first.result with
  | .ok a => ⟨first.slices ++ (next a).slices, (next a).result⟩
  | .error r => ⟨first.slices, .error r⟩

instance : Monad Sliced where
  pure a := lift (.ok a)
  bind := bind

theorem bind_ok {first : Sliced α} {a : α} (h : first.result = .ok a)
    (next : α → Sliced β) :
    first >>= next = ⟨first.slices ++ (next a).slices, (next a).result⟩ := by
  show Sliced.bind first next = _
  rw [Sliced.bind, h]

theorem bind_error {first : Sliced α} {r : Abrupt} (h : first.result = .error r)
    (next : α → Sliced β) : first >>= next = ⟨first.slices, .error r⟩ := by
  show Sliced.bind first next = _
  rw [Sliced.bind, h]

theorem bind_result (first : Sliced α) (next : α → Sliced β) :
    (first >>= next).result = first.result >>= fun a => (next a).result := by
  cases h : first.result with
  | ok a => rw [bind_ok h]; rfl
  | error r => rw [bind_error h]; rfl

end Sliced

/-! ## The constructors with their record -/

/-- The constructor of an operand class from a frame. -/
def ofFrame (C : OperandClass) (block : CECFrame) (startPos : Nat) : Sliced (CECBytes C) :=
  ⟨[⟨startPos, C⟩], CECBytes.ofFrame block startPos⟩

/-- A class whose block is one operand. -/
def ofBlock {C : OperandClass} (build : CECBytes C → Message) (block : CECFrame) :
    Sliced Message := do
  return build (← ofFrame C block 0)

/-- A class whose block is two operands. -/
def ofBlock2 {C D : OperandClass} (build : CECBytes C → CECBytes D → Message)
    (block : CECFrame) : Sliced Message := do
  let first ← ofFrame C block 0
  let second ← ofFrame D block (0 + C.maxLen)
  return build first second

/-- `FeatureAbort(const CECFrame &frame, int startPos = 0)`. -/
def featureAbortOfBlock (block : CECFrame) : Sliced Message := do
  let feature ← Sliced.lift (OpCode.ofFrame block 0)
  let reason ← ofFrame .abortReason block (0 + 1)
  return .featureAbort feature reason

/-- The loop that fills a descriptor vector. -/
def descriptorsFrom (C : OperandClass) (block : CECFrame) (stride : Nat) :
    (i n : Nat) → Sliced (List (CECBytes C))
  | _, 0 => pure []
  | i, n + 1 => do
      let operand ← ofFrame C block (i * stride)
      let rest ← descriptorsFrom C block stride (i + 1) n
      return operand :: rest

/-- `RequestShortAudioDescriptor(const CECFrame &frame, int startPos = 0)`. -/
def requestShortAudioDescriptorOfBlock (block : CECFrame) : Sliced Message := do
  let len : UInt8 := UInt8.ofNat block.length
  let numberofdescriptor : UInt8 := if len > 4 then 4 else len
  let formats ← descriptorsFrom .requestAudioFormat block 1 0 numberofdescriptor.toNat
  return .requestShortAudioDescriptor formats numberofdescriptor

/-- `ReportShortAudioDescriptor(const CECFrame &frame, int startPos = 0)`. -/
def reportShortAudioDescriptorOfBlock (block : CECFrame) : Sliced Message := do
  let numberofdescriptor : UInt8 := UInt8.ofNat (block.length / 3)
  let descriptors ← descriptorsFrom .shortAudioDescriptor block 3 0 numberofdescriptor.toNat
  return .reportShortAudioDescriptor descriptors numberofdescriptor

/-- `SystemAudioModeRequest(const CECFrame &frame, int startPos = 0)`. -/
def systemAudioModeRequestOfBlock (block : CECFrame) : Sliced Message := do
  let physicaladdress ← ofFrame .physicalAddress block 0
  if block.length = 0 then
    return .systemAudioModeRequest ⟨[0xFF, 0xFF]⟩
  return .systemAudioModeRequest physicaladdress

/-- The constructors that the cases of the switch call. -/
abbrev slicedCalls : MessageDecoder.CaseCalls (CECFrame → Sliced Message) where
  bare m := fun _ => pure m
  ofBlock := ofBlock
  ofBlock2 := ofBlock2
  featureAbortOfBlock := featureAbortOfBlock
  requestShortAudioDescriptorOfBlock := requestShortAudioDescriptorOfBlock
  reportShortAudioDescriptorOfBlock := reportShortAudioDescriptorOfBlock
  systemAudioModeRequestOfBlock := systemAudioModeRequestOfBlock

/-- The cases of the switch. -/
def switchCases : List (Op_t × (CECFrame → Sliced Message)) :=
  MessageDecoder.switchOf slicedCalls

/-- The operand block of a frame and the calls on it that `decode` leads to. -/
def decodeSlices (in_ : CECFrame) : List (CECFrame × Slice) :=
  match Header.ofFrame in_ 0 with
  | .error _ => []
  | .ok _ =>
      if in_.length = 1 then
        []
      else
        match in_.subFrame 2 0, OpCode.ofFrame in_ 1 with
        | .ok block, .ok op =>
            match switchCases.lookup op.opCode_ with
            | none => []
            | some build => (build block).slices.map fun slice => (block, slice)
        | _, _ => []

/-! ## Forgetting the record -/

theorem ofBlock_result {C : OperandClass} (build : CECBytes C → Message) (block : CECFrame) :
    (ofBlock build block).result = Message.ofBlock build block := by
  rw [ofBlock, Sliced.bind_result]
  rfl

theorem ofBlock2_result {C D : OperandClass} (build : CECBytes C → CECBytes D → Message)
    (block : CECFrame) : (ofBlock2 build block).result = Message.ofBlock2 build block := by
  simp only [ofBlock2, Sliced.bind_result]
  rfl

theorem featureAbortOfBlock_result (block : CECFrame) :
    (featureAbortOfBlock block).result = Message.featureAbortOfBlock block := by
  simp only [featureAbortOfBlock, Sliced.bind_result]
  rfl

theorem descriptorsFrom_result (C : OperandClass) (block : CECFrame) (stride n : Nat) :
    ∀ i, (descriptorsFrom C block stride i n).result =
      Message.descriptorsFrom block stride i n := by
  induction n with
  | zero => exact fun _ => rfl
  | succ n ih =>
      intro i
      simp only [descriptorsFrom, Sliced.bind_result, ih]
      rfl

theorem requestShortAudioDescriptorOfBlock_result (block : CECFrame) :
    (requestShortAudioDescriptorOfBlock block).result =
      Message.requestShortAudioDescriptorOfBlock block := by
  simp only [requestShortAudioDescriptorOfBlock, Sliced.bind_result, descriptorsFrom_result]
  rfl

theorem reportShortAudioDescriptorOfBlock_result (block : CECFrame) :
    (reportShortAudioDescriptorOfBlock block).result =
      Message.reportShortAudioDescriptorOfBlock block := by
  simp only [reportShortAudioDescriptorOfBlock, Sliced.bind_result, descriptorsFrom_result]
  rfl

theorem systemAudioModeRequestOfBlock_result (block : CECFrame) :
    (systemAudioModeRequestOfBlock block).result =
      Message.systemAudioModeRequestOfBlock block := by
  simp only [systemAudioModeRequestOfBlock, Sliced.bind_result,
    Message.systemAudioModeRequestOfBlock]
  by_cases hempty : block.length = 0
  · simp only [if_pos hempty]
    rfl
  · simp only [if_neg hempty]
    rfl

/-- Without their record the cases are those of the decoder. -/
theorem result_eq :
    switchCases.map (fun entry => (entry.1, fun block => (entry.2 block).result)) =
      MessageDecoder.switchCases := by
  simp only [switchCases, MessageDecoder.switchOf, List.map_cons, List.map_nil, ofBlock_result,
    ofBlock2_result,
    featureAbortOfBlock_result, requestShortAudioDescriptorOfBlock_result,
    reportShortAudioDescriptorOfBlock_result, systemAudioModeRequestOfBlock_result]
  rfl

/-! ## One call -/

/-- The length that the constructor computes for the call. -/
def Slice.clipped (slice : Slice) (block : CECFrame) : Nat :=
  CECBytes.clipLen block.length slice.startPos slice.operandClass.maxLen

/-- The bytes that the call is to take: `MAX_LEN` of them, or what is left of the block. -/
def Slice.wanted (slice : Slice) (block : CECFrame) : List UInt8 :=
  (block.bytes.drop slice.startPos).take
    (min slice.operandClass.maxLen (block.length - slice.startPos))

/-- The range of the call lies in the block, the operand is what the range holds, and an
empty one is refused with `InvalidParamException`. -/
structure StaysInside (block : CECFrame) (slice : Slice) : Prop where
  no_wrap : slice.startPos + slice.clipped block < sizeMod
  ends : slice.startPos + slice.clipped block ≤ block.length
  bytes : ∀ operand : CECBytes slice.operandClass,
    CECBytes.ofFrame block slice.startPos = .ok operand → operand.str = slice.wanted block
  empty : slice.wanted block = [] →
    (CECBytes.ofFrame block slice.startPos : Result (CECBytes slice.operandClass)) =
      throwing .invalidParamException

theorem StaysInside.start_le {block : CECFrame} {slice : Slice} (h : StaysInside block slice) :
    slice.startPos ≤ block.length :=
  Nat.le_trans (Nat.le_add_right _ _) h.ends

/-- A call that starts in the block, or right behind it, stays inside. -/
theorem staysInside_of_le {block : CECFrame} {slice : Slice}
    (hle : slice.startPos ≤ block.length) : StaysInside block slice := by
  have hblock := block.length_le
  have hmax := slice.operandClass.maxLen_le
  have hsize := sizeMod_large
  have hclipped : slice.clipped block =
      min slice.operandClass.maxLen (block.length - slice.startPos) :=
    CECBytes.clipLen_inside hle hblock hmax
  have hwanted : slice.wanted block =
      (block.bytes.drop slice.startPos).take slice.operandClass.maxLen := by
    unfold Slice.wanted
    rw [← CECFrame.bytes_length, ← List.length_drop, ← List.take_take, List.take_length]
  refine ⟨by omega, by omega, ?_, ?_⟩
  · intro operand hread
    rw [(CECBytes.ofFrame_eq_ok (by omega) hread).1, hwanted]
  · intro hempty
    rw [hwanted] at hempty
    rw [CECBytes.ofFrame, CECBytes.ofFrameRange_eq _ _ _ (by omega) hmax,
      if_neg (Nat.not_lt.mpr hle), if_pos hempty]

/-! ## The calls of one constructor -/

/-- Every call of the constructor starts in the block or right behind it. -/
def Within (build : CECFrame → Sliced Message) (block : CECFrame) : Prop :=
  ∀ slice ∈ (build block).slices, slice.startPos ≤ block.length

theorem pure_within (m : Message) (block : CECFrame) : Within (fun _ => pure m) block :=
  fun _ hmem => (List.not_mem_nil hmem).elim

/-- Whatever follows it, the first call starts at the beginning. -/
theorem ofFrame_bind_slices {C : OperandClass} {α : Type} (block : CECFrame) (startPos : Nat)
    (next : CECBytes C → Sliced α) :
    ((ofFrame C block startPos) >>= next).slices =
      ⟨startPos, C⟩ :: match (CECBytes.ofFrame block startPos : Result (CECBytes C)) with
        | .ok operand => (next operand).slices
        | .error _ => [] := by
  cases hread : (CECBytes.ofFrame block startPos : Result (CECBytes C)) with
  | ok operand =>
      have hresult : (ofFrame C block startPos).result = .ok operand := hread
      rw [Sliced.bind_ok hresult]
      rfl
  | error r =>
      have hresult : (ofFrame C block startPos).result = .error r := hread
      rw [Sliced.bind_error hresult]
      rfl

theorem ofBlock_within {C : OperandClass} (build : CECBytes C → Message) (block : CECFrame) :
    Within (ofBlock build) block := by
  intro slice hmem
  rw [ofBlock, ofFrame_bind_slices] at hmem
  rcases List.mem_cons.mp hmem with rfl | hrest
  · exact Nat.zero_le _
  · split at hrest <;> exact (List.not_mem_nil hrest).elim

/-- The second operand is sliced behind the `MAX_LEN` bytes of the first, whatever the first
has found. -/
theorem ofBlock2_slices {C D : OperandClass} (build : CECBytes C → CECBytes D → Message)
    (block : CECFrame) :
    (ofBlock2 build block).slices =
      if 0 < block.length then [⟨0, C⟩, ⟨C.maxLen, D⟩] else [⟨0, C⟩] := by
  rw [ofBlock2, ofFrame_bind_slices]
  have hreturns := CECBytes.ofFrame_returns_iff (C := C) block (Nat.zero_le _)
  cases hread : (CECBytes.ofFrame block 0 : Result (CECBytes C)) with
  | ok first =>
      rw [if_pos (hreturns.mp ⟨first, hread⟩)]
      dsimp only
      rw [ofFrame_bind_slices, Nat.zero_add]
      split <;> rfl
  | error r =>
      rw [if_neg]
      intro hpos
      obtain ⟨first, hfirst⟩ := hreturns.mpr hpos
      rw [hread] at hfirst
      cases hfirst

theorem ofBlock2_within_iff {C D : OperandClass} (build : CECBytes C → CECBytes D → Message)
    (block : CECFrame) :
    Within (ofBlock2 build) block ↔ (0 < block.length → C.maxLen ≤ block.length) := by
  unfold Within
  rw [ofBlock2_slices]
  constructor
  · intro hwithin hpos
    rw [if_pos hpos] at hwithin
    exact hwithin ⟨C.maxLen, D⟩ (List.mem_cons_of_mem _ (List.mem_singleton.mpr rfl))
  · intro hroom slice hmem
    split at hmem
    · next hpos =>
      rcases List.mem_cons.mp hmem with rfl | hsecond
      · exact Nat.zero_le _
      · rw [List.mem_singleton.mp hsecond]
        exact hroom hpos
    · rw [List.mem_singleton.mp hmem]
      exact Nat.zero_le _

/-- A byte is read inside of its frame. -/
theorem lt_of_at' {frame : CECFrame} {i : Nat} {byte : UInt8} (hat : frame.at' i = .ok byte) :
    i < frame.length := by
  apply Nat.lt_of_not_le
  intro hbehind
  have houtside : i ≥ frame.len_ := hbehind
  rw [CECFrame.at', if_pos houtside] at hat
  cases hat

/-- The reason is sliced only when the feature has been read. -/
theorem featureAbortOfBlock_within (block : CECFrame) :
    Within featureAbortOfBlock block := by
  intro slice hmem
  rw [featureAbortOfBlock] at hmem
  cases hread : OpCode.ofFrame block 0 with
  | error r =>
      rw [hread, Sliced.bind_error rfl] at hmem
      exact (List.not_mem_nil hmem).elim
  | ok feature =>
      obtain ⟨byte, hat, -⟩ := Result.bind_eq_ok hread
      have hpos : 0 < block.length := lt_of_at' hat
      rw [hread, Sliced.bind_ok rfl, ofFrame_bind_slices] at hmem
      rcases List.mem_cons.mp hmem with rfl | hrest
      · exact hpos
      · split at hrest <;> exact (List.not_mem_nil hrest).elim

/-- Descriptor `k` is sliced at its own place. -/
theorem mem_descriptorsFrom {C : OperandClass} {block : CECFrame} {stride : Nat} (n : Nat) :
    ∀ (i : Nat) (slice : Slice), slice ∈ (descriptorsFrom C block stride i n).slices →
      ∃ k, k < i + n ∧ slice.startPos = k * stride := by
  induction n with
  | zero => exact fun i slice hmem => (List.not_mem_nil hmem).elim
  | succ n ih =>
      intro i slice hmem
      rw [descriptorsFrom, ofFrame_bind_slices] at hmem
      rcases List.mem_cons.mp hmem with rfl | hrest
      · exact ⟨i, by omega, rfl⟩
      · split at hrest
        · have htail : slice ∈ (descriptorsFrom C block stride (i + 1) n).slices := by
            cases hresult : (descriptorsFrom C block stride (i + 1) n).result with
            | ok operands =>
                rw [Sliced.bind_ok hresult] at hrest
                rcases List.mem_append.mp hrest with htail | hreturn
                · exact htail
                · exact (List.not_mem_nil hreturn).elim
            | error r =>
                rw [Sliced.bind_error hresult] at hrest
                exact hrest
          obtain ⟨k, hlt, hstart⟩ := ih (i + 1) slice htail
          exact ⟨k, by omega, hstart⟩
        · exact (List.not_mem_nil hrest).elim

/-- The constructor slices what its loop slices. -/
theorem mem_of_return {α β : Type} {first : Sliced α} {f : α → β} {slice : Slice}
    (hmem : slice ∈ (first >>= fun a => pure (f a)).slices) : slice ∈ first.slices := by
  cases hresult : first.result with
  | ok a =>
      rw [Sliced.bind_ok hresult] at hmem
      rcases List.mem_append.mp hmem with hfirst | hreturn
      · exact hfirst
      · exact (List.not_mem_nil hreturn).elim
  | error r =>
      rw [Sliced.bind_error hresult] at hmem
      exact hmem

/-- The descriptors are counted by the length of the block, so each begins in it. -/
theorem requestShortAudioDescriptorOfBlock_within (block : CECFrame) :
    Within requestShortAudioDescriptorOfBlock block := by
  intro slice hmem
  obtain ⟨k, hlt, hstart⟩ := mem_descriptorsFrom _ 0 slice (mem_of_return hmem)
  have hle := block.length_le
  have hlen : (UInt8.ofNat block.length).toNat = block.length :=
    Nat.mod_eq_of_lt (by omega)
  have hnumber : (if UInt8.ofNat block.length > 4 then 4 else UInt8.ofNat block.length).toNat ≤
      block.length := by
    split
    · next hmore =>
      have hfour := UInt8.lt_iff_toNat_lt.mp hmore
      rw [hlen] at hfour
      exact Nat.le_of_lt hfour
    · exact Nat.le_of_eq hlen
  omega

theorem reportShortAudioDescriptorOfBlock_within (block : CECFrame) :
    Within reportShortAudioDescriptorOfBlock block := by
  intro slice hmem
  obtain ⟨k, hlt, hstart⟩ := mem_descriptorsFrom _ 0 slice (mem_of_return hmem)
  have hle := block.length_le
  have hnumber : (UInt8.ofNat (block.length / 3)).toNat = block.length / 3 :=
    Nat.mod_eq_of_lt (by omega)
  omega

theorem systemAudioModeRequestOfBlock_within (block : CECFrame) :
    Within systemAudioModeRequestOfBlock block := by
  intro slice hmem
  rw [systemAudioModeRequestOfBlock, ofFrame_bind_slices] at hmem
  rcases List.mem_cons.mp hmem with rfl | hrest
  · exact Nat.zero_le _
  · split at hrest
    · split at hrest <;> exact (List.not_mem_nil hrest).elim
    · exact (List.not_mem_nil hrest).elim

/-! ## The calls of `decode` -/

/-- The messages with an operand behind a two-byte operand. -/
def BehindAddress (opCode_ : Op_t) : Prop :=
  opCode_ = Op.routingChange ∨ opCode_ = Op.reportPhysicalAddress

instance (opCode_ : Op_t) : Decidable (BehindAddress opCode_) :=
  inferInstanceAs (Decidable (_ ∨ _))

/-- Only an operand behind a physical address can be sliced from outside of the block: the
address is accepted with one byte, and its successor begins two bytes on. -/
theorem switchCases_within :
    ∀ entry ∈ switchCases, ∀ block,
      Within entry.2 block ↔ ¬ (block.length = 1 ∧ BehindAddress entry.1) := by
  rintro ⟨op, build⟩ hmem block
  -- the classes without such an operand
  have hother : ¬ BehindAddress op → Within build block →
      (Within build block ↔ ¬ (block.length = 1 ∧ BehindAddress op)) :=
    fun hnot hwithin => iff_of_true hwithin fun h => hnot h.2
  cases MessageDecoder.switchOf_case hmem with
  | bare hbare => exact hother (by cases hbare <;> decide) (pure_within _ block)
  | one hone => exact hother (by cases hone <;> decide) (ofBlock_within _ block)
  | two htwo =>
      refine (ofBlock2_within_iff _ block).trans ?_
      cases htwo with
      | reportPhysicalAddress | routingChange =>
          simp only [OperandClass.maxLen, BehindAddress, true_or, or_true, and_true]
          omega
  | featureAbort => exact hother (by decide) (featureAbortOfBlock_within block)
  | requestShortAudioDescriptor =>
      exact hother (by decide) (requestShortAudioDescriptorOfBlock_within block)
  | reportShortAudioDescriptor =>
      exact hother (by decide) (reportShortAudioDescriptorOfBlock_within block)
  | systemAudioModeRequest =>
      exact hother (by decide) (systemAudioModeRequestOfBlock_within block)

/-- The calls for a frame with an opcode are those of the case of the opcode. -/
theorem decodeSlices_eq {frame : CECFrame} {opcode : UInt8}
    (hopcode : frame.bytes[1]? = some opcode) :
    ∃ block : CECFrame, frame.length = 2 + block.length ∧
      decodeSlices frame =
        match switchCases.lookup opcode.toUInt32 with
        | none => []
        | some build => (build block).slices.map fun slice => (block, slice) := by
  obtain ⟨first, block, hbytes, hheader, hblock, hop⟩ := MessageDecoder.decode_parts hopcode
  have hlength := MessageDecoder.length_of_bytes hbytes
  refine ⟨block, hlength, ?_⟩
  rw [decodeSlices, hheader]
  dsimp only
  rw [if_neg (by omega), hblock, hop]

theorem decodeSlices_short {frame : CECFrame} (hopcode : frame.bytes[1]? = none) :
    decodeSlices frame = [] := by
  have hshort := List.getElem?_eq_none_iff.mp hopcode
  rw [CECFrame.bytes_length] at hshort
  rw [decodeSlices]
  cases hheader : Header.ofFrame frame 0 with
  | error r => rfl
  | ok header =>
      obtain ⟨byte, hat, -⟩ := Result.bind_eq_ok hheader
      have hpos := lt_of_at' hat
      dsimp only
      rw [if_pos (by omega)]

/-- Every call for the frame stays inside its operand block. -/
def SlicesInside (frame : CECFrame) : Prop :=
  ∀ call ∈ decodeSlices frame, StaysInside call.1 call.2

/-- The calls of a case stay inside the block if and only if none starts behind its end. -/
theorem staysInside_iff_within (build : CECFrame → Sliced Message) (block : CECFrame) :
    (∀ call ∈ (build block).slices.map fun slice => (block, slice), StaysInside call.1 call.2) ↔
      Within build block := by
  rw [List.forall_mem_map]
  constructor
  · intro hinside slice hmem
    exact (hinside slice hmem).start_le
  · intro hwithin slice hmem
    exact staysInside_of_le (hwithin slice hmem)

/-- The slices of a frame leave its operand block exactly when a message with an operand
behind an address has one operand byte. -/
theorem slicesInside_iff (frame : CECFrame) :
    SlicesInside frame ↔
      ¬ (frame.length = 3 ∧ ∃ opcode, frame.bytes[1]? = some opcode ∧
        BehindAddress opcode.toUInt32) := by
  cases hopcode : frame.bytes[1]? with
  | none =>
      apply iff_of_true
      · intro call hcall
        rw [decodeSlices_short hopcode] at hcall
        exact (List.not_mem_nil hcall).elim
      · rintro ⟨-, opcode, hsome, -⟩
        cases hsome
  | some opcode =>
      obtain ⟨block, hlength, hslices⟩ := decodeSlices_eq hopcode
      have hcondition : (frame.length = 3 ∧ ∃ op, some opcode = some op ∧
            BehindAddress op.toUInt32) ↔
          (block.length = 1 ∧ BehindAddress opcode.toUInt32) := by
        constructor
        · rintro ⟨hthree, op, hop, hbehind⟩
          cases hop
          exact ⟨by omega, hbehind⟩
        · rintro ⟨hone, hbehind⟩
          exact ⟨by omega, opcode, rfl, hbehind⟩
      rw [hcondition, SlicesInside, hslices]
      cases hlookup : switchCases.lookup opcode.toUInt32 with
      | none =>
          apply iff_of_true
          · exact fun call hcall => (List.not_mem_nil hcall).elim
          · -- both opcodes have a case
            rintro ⟨-, hbehind | hbehind⟩ <;> rw [hbehind] at hlookup <;> cases hlookup
      | some build =>
          dsimp only
          rw [staysInside_iff_within]
          exact switchCases_within _ (MessageDecoder.mem_of_lookup hlookup) block

/-- <Report Physical Address> with one operand byte: the device type is sliced from position
2 of a block of one byte. -/
theorem not_slicesInside :
    ¬ ∀ frame : CECFrame, ∀ call ∈ decodeSlices frame, StaysInside call.1 call.2 := by
  intro hall
  have hinside := hall (CECFrame.ofBytes [0x4F, 0x84, 0x10] (by decide))
    (CECFrame.ofBytes [0x10] (by decide), ⟨2, .deviceType⟩) (by decide +kernel)
  have hstart : 2 ≤ 1 := hinside.start_le
  omega

end Slicing

end HdmiCec
