import HdmiCec.Core.RoundTrip

/-!
# Serialising does not look at the frame

`serialize` of an operand, an opcode or a message appends bytes that do not depend on the
frame it is given, or fails on every frame.  So a message encoded behind a header is the
header followed by the message encoded on its own, for every message, also one whose
operands have other sizes than their classes are meant to have.
-/

namespace HdmiCec

namespace CECFrame

/-- Filling in two goes is filling in one. -/
theorem appendBuf_append (first second : List UInt8) :
    ∀ frame : CECFrame, frame.appendBuf (first ++ second) =
      match frame.appendBuf first with
      | (frame', .ok ()) => frame'.appendBuf second
      | (frame', .error r) => (frame', .error r) := by
  induction first with
  | nil => intro frame; rfl
  | cons byte rest ih =>
      intro frame
      rw [List.cons_append, appendBuf, appendBuf]
      cases frame.append byte with
      | ok frame' => exact ih frame'
      | error r => rfl

theorem appendAll_append (frame : CECFrame) (first second : List UInt8) :
    frame.appendAll (first ++ second) =
      frame.appendAll first >>= fun frame' => frame'.appendAll second := by
  rw [appendAll, appendBuf_append, appendAll]
  rcases frame.appendBuf first with ⟨frame', outcome⟩
  cases outcome with
  | ok _ => rfl
  | error r => rfl

theorem appendAll_singleton (frame : CECFrame) (byte : UInt8) :
    frame.appendAll [byte] = frame.append byte := by
  rw [appendAll, appendBuf]
  cases frame.append byte with
  | ok frame' => rfl
  | error r => rfl

/-- What fits on a frame fits on an empty one. -/
theorem appendAll_empty_of_ok {frame frame' : CECFrame} {bytes : List UInt8}
    (h : frame.appendAll bytes = .ok frame') :
    frame'.bytes = frame.bytes ++ bytes ∧
      ∃ block : CECFrame, empty.appendAll bytes = .ok block ∧ block.bytes = bytes := by
  by_cases hfits : frame.length + bytes.length ≤ 128
  · obtain ⟨filled, happend, hbytes⟩ := appendAll_extends frame bytes hfits
    have hroom : empty.length + bytes.length ≤ 128 := by
      rw [length_empty]
      omega
    obtain ⟨block, hblock, hblockBytes⟩ := appendAll_extends empty bytes hroom
    rw [h] at happend
    cases happend
    exact ⟨hbytes, block, hblock, hblockBytes⟩
  · rw [appendAll_overflows frame bytes (by omega)] at h
    cases h

end CECFrame

/-! ## Serializers -/

/-- The function appends the same bytes to every frame, or fails on every frame. -/
def Serializes (serialize : CECFrame → Result CECFrame) : Prop :=
  (∃ bytes, ∀ frame : CECFrame, serialize frame = frame.appendAll bytes) ∨
    ∀ frame, ∃ r, serialize frame = .error r

namespace Serializes

variable {first second : CECFrame → Result CECFrame}

theorem nothing : Serializes .ok := .inl ⟨[], fun _ => rfl⟩

theorem fails (r : Abrupt) : Serializes fun _ => .error r := .inr fun _ => ⟨r, rfl⟩

/-- Two serializers in a row are one. -/
theorem andThen (hfirst : Serializes first) (hsecond : Serializes second) :
    Serializes fun frame => first frame >>= second := by
  rcases hfirst with ⟨bytes, happends⟩ | hfails
  · rcases hsecond with ⟨bytes', happends'⟩ | hfails'
    · refine .inl ⟨bytes ++ bytes', ?_⟩
      intro frame
      have hsame : second = fun frame' => frame'.appendAll bytes' := funext happends'
      show first frame >>= second = frame.appendAll (bytes ++ bytes')
      rw [happends, hsame, CECFrame.appendAll_append]
    · refine .inr ?_
      intro frame
      show ∃ r, first frame >>= second = .error r
      cases hmiddle : first frame with
      | ok middle => exact hfails' middle
      | error r => exact ⟨r, rfl⟩
  · refine .inr ?_
    intro frame
    obtain ⟨r, hr⟩ := hfails frame
    refine ⟨r, ?_⟩
    show first frame >>= second = .error r
    rw [hr]
    rfl

theorem operand {C : OperandClass} (operand : CECBytes C) : Serializes operand.serialize :=
  .inl ⟨operand.str, fun _ => rfl⟩

theorem opCode (op : OpCode) : Serializes op.serialize := by
  unfold OpCode.serialize
  split
  · exact .inl ⟨[op.opCode_.toUInt8], fun frame => (frame.appendAll_singleton _).symm⟩
  · exact nothing

/-- The loop over a vector of operands; an index behind its end fails on every frame. -/
theorem serializeFrom {C : OperandClass} (operands : List (CECBytes C)) (n : Nat) :
    ∀ i, Serializes (Message.serializeFrom operands i n) := by
  induction n with
  | zero => intro i; exact nothing
  | succ n ih =>
      intro i
      cases hoperand : operands[i]? with
      | none =>
          refine .inr fun frame => ⟨.undefined, ?_⟩
          rw [Message.serializeFrom, hoperand]
      | some front =>
          have hloop : Message.serializeFrom operands i (n + 1) =
              fun frame => front.serialize frame >>= Message.serializeFrom operands (i + 1) n := by
            funext frame
            rw [Message.serializeFrom, hoperand]
          rw [hloop]
          exact (operand front).andThen (ih (i + 1))

theorem systemAudioModeRequest (physicaladdress : PhysicalAddress) :
    Serializes (Message.serializeSystemAudioModeRequest physicaladdress) := by
  cases hall : Message.isAllF physicaladdress with
  | error r =>
      refine .inr fun frame => ⟨r, ?_⟩
      rw [Message.serializeSystemAudioModeRequest, hall]
      rfl
  | ok allF =>
      cases allF with
      | true =>
          refine .inl ⟨[], fun frame => ?_⟩
          rw [Message.serializeSystemAudioModeRequest, hall]
          rfl
      | false =>
          refine .inl ⟨physicaladdress.str, fun frame => ?_⟩
          rw [Message.serializeSystemAudioModeRequest, hall]
          rfl

/-- The two bytes of the log line are there on every frame, or on none. -/
theorem serializeLogged (physicalAddress : PhysicalAddress) :
    Serializes (Message.serializeLogged physicalAddress) := by
  cases hfirst : physicalAddress.get 0 with
  | error r =>
      refine .inr fun frame => ⟨r, ?_⟩
      rw [Message.serializeLogged, hfirst]
      rfl
  | ok first =>
      cases hsecond : physicalAddress.get 1 with
      | error r =>
          refine .inr fun frame => ⟨r, ?_⟩
          rw [Message.serializeLogged, hfirst, Result.ok_bind, hsecond]
          rfl
      | ok second =>
          refine .inl ⟨physicalAddress.str, fun frame => ?_⟩
          rw [Message.serializeLogged, hfirst, Result.ok_bind, hsecond]
          rfl

theorem message (m : Message) : Serializes m.serialize := by
  cases m with
  | activeSource physicalAddress => exact serializeLogged physicalAddress
  | inActiveSource physicalAddress => exact serializeLogged physicalAddress
  | reportPhysicalAddress physicalAddress deviceType =>
      exact (operand physicalAddress).andThen (operand deviceType)
  | featureAbort feature reason => exact (opCode feature).andThen (operand reason)
  | routingChange from_ to_ => exact (operand from_).andThen (operand to_)
  | requestShortAudioDescriptor formats numberofdescriptor =>
      exact serializeFrom formats numberofdescriptor.toNat 0
  | reportShortAudioDescriptor descriptors numberofdescriptor =>
      exact serializeFrom descriptors numberofdescriptor.toNat 0
  | systemAudioModeRequest physicaladdress => exact systemAudioModeRequest physicaladdress
  | _ =>
      first
        | exact operand _
        | exact nothing

theorem encodeBlock (m : Message) : Serializes (MessageEncoder.encodeBlock m) :=
  (opCode ⟨m.opCode⟩).andThen (message m)

end Serializes

/-- A message that was encoded behind a header is encoded alike without it. -/
theorem MessageEncoder.encode_block {initiator follower : UInt8} {m : Message}
    {full : CECFrame}
    (hencode : MessageEncoder.encode (Header.ofNibbles initiator follower) m = .ok full) :
    ∃ block : CECFrame, MessageEncoder.encodeBlock m CECFrame.empty = .ok block ∧
      full.bytes = Header.pack initiator follower :: block.bytes := by
  obtain ⟨headed, hheader, hheaded⟩ := Header.serialize_empty initiator follower
  rw [encode, hheader, Result.ok_bind] at hencode
  rcases Serializes.encodeBlock m with ⟨bytes, happends⟩ | hfails
  · rw [happends] at hencode
    obtain ⟨hfull, block, hblock, hbytes⟩ := CECFrame.appendAll_empty_of_ok hencode
    refine ⟨block, by rw [happends, hblock], ?_⟩
    rw [hfull, hheaded, hbytes, CECFrame.bytes_empty]
    rfl
  · obtain ⟨r, hr⟩ := hfails headed
    rw [hr] at hencode
    cases hencode

/-- With room for the header, every header can be put in front. -/
theorem MessageEncoder.encode_of_block {m : Message} {block : CECFrame}
    (hblock : MessageEncoder.encodeBlock m CECFrame.empty = .ok block)
    (hroom : block.length < 128) (initiator follower : UInt8) :
    ∃ full : CECFrame, MessageEncoder.encode (Header.ofNibbles initiator follower) m = .ok full ∧
      full.bytes = Header.pack initiator follower :: block.bytes := by
  obtain ⟨headed, hheader, hheaded⟩ := Header.serialize_empty initiator follower
  rcases Serializes.encodeBlock m with ⟨bytes, happends⟩ | hfails
  · rw [happends] at hblock
    obtain ⟨hbytes, -⟩ := CECFrame.appendAll_empty_of_ok hblock
    rw [CECFrame.bytes_empty, List.nil_append] at hbytes
    have hlength : headed.length = 1 := by
      rw [← CECFrame.bytes_length, hheaded]
      rfl
    have hbytesLength : bytes.length = block.length := by
      rw [← CECFrame.bytes_length, hbytes]
    obtain ⟨full, hfull, hfullBytes⟩ :=
      CECFrame.appendAll_extends headed bytes (by omega)
    refine ⟨full, ?_, ?_⟩
    · rw [encode, hheader, Result.ok_bind, happends, hfull]
    · rw [hfullBytes, hheaded, hbytes, CECFrame.bytes_empty]
      rfl
  · obtain ⟨r, hr⟩ := hfails CECFrame.empty
    rw [hr] at hblock
    cases hblock

end HdmiCec
