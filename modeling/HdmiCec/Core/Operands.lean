import HdmiCec.Core.CECFrame

/-!
# Operands

All operand classes derive from `CECBytes`, which keeps a vector `str` of
bytes.  `CECBytes C` is the object of operand class `C`; what the classes
differ in is the limit `MAX_LEN` that their frame constructors pass to
`CECBytes(frame, startPos, len)` and, later, their own `validate`.

The constructor from a frame clips its range with unsigned arithmetic:
`frameLen - startPos` wraps when `startPos` lies behind the end.  The inverted
range that results is refused by `std::vector::insert` with
`std::length_error`.  `CECBytes.ofFrame_eq` puts this into three cases.
-/

namespace HdmiCec

/-- Arithmetic of `size_t`, 64 bits wide. -/
def sizeMod : Nat := 0x10000000000000000

theorem sizeMod_large : 256 < sizeMod := by decide

/-- The operand classes of `Operands.hpp`. -/
inductive OperandClass where
  | osdString
  | osdName
  | abortReason
  | deviceType
  | language
  | vendorID
  | physicalAddress
  | logicalAddress
  | version
  | powerStatus
  | requestAudioFormat
  | shortAudioDescriptor
  | systemAudioStatus
  | audioStatus
  | uiCommand
  deriving DecidableEq, Repr

/-- `MAX_LEN` of the class. -/
def OperandClass.maxLen : OperandClass → Nat
  | .osdString => 13
  | .osdName => 14
  | .language => 3
  | .vendorID => 3
  | .physicalAddress => 2
  | .shortAudioDescriptor => 3
  | .abortReason | .deviceType | .logicalAddress | .version | .powerStatus
  | .requestAudioFormat | .systemAudioStatus | .audioStatus | .uiCommand => 1

/-- Every operand fits a frame. -/
theorem OperandClass.maxLen_le (C : OperandClass) : C.maxLen ≤ 128 := by
  cases C <;> decide

theorem OperandClass.maxLen_pos (C : OperandClass) : 1 ≤ C.maxLen := by
  cases C <;> decide

/-- An operand object: the vector `str` of its base class `CECBytes`. -/
structure CECBytes (C : OperandClass) where
  str : List UInt8
  deriving DecidableEq, Repr

abbrev OSDString := CECBytes .osdString
abbrev OSDName := CECBytes .osdName
abbrev AbortReason := CECBytes .abortReason
abbrev DeviceType := CECBytes .deviceType
abbrev Language := CECBytes .language
abbrev VendorID := CECBytes .vendorID
abbrev PhysicalAddress := CECBytes .physicalAddress
abbrev LogicalAddress := CECBytes .logicalAddress
abbrev Version := CECBytes .version
abbrev PowerStatus := CECBytes .powerStatus
abbrev RequestAudioFormat := CECBytes .requestAudioFormat
abbrev ShortAudioDescriptor := CECBytes .shortAudioDescriptor
abbrev SystemAudioStatus := CECBytes .systemAudioStatus
abbrev AudioStatus := CECBytes .audioStatus
abbrev UICommand := CECBytes .uiCommand

namespace CECBytes

variable {C : OperandClass}

/-- `CECBytes(const uint8_t val)`. -/
def ofByte (val : UInt8) : CECBytes C := ⟨[val]⟩

/-- `str[i]`; `std::vector::operator[]` does not check its index. -/
def get (operand : CECBytes C) (i : Nat) : Result UInt8 :=
  match operand.str[i]? with
  | some byte => .ok byte
  | none => .error .undefined

theorem get_inside {operand : CECBytes C} {i : Nat} (h : i < operand.str.length) :
    ∃ byte, operand.get i = .ok byte := by
  rw [get, List.getElem?_eq_getElem h]
  exact ⟨_, rfl⟩

theorem get_outside {operand : CECBytes C} {i : Nat} (h : operand.str.length ≤ i) :
    operand.get i = .error .undefined := by
  rw [get, List.getElem?_eq_none h]

/-- `CECBytes::validate` with `CECBytes::getMaxLen`.  These are the versions
that run inside the constructor of the base class, whatever the class of the
object under construction is. -/
def validate (operand : CECBytes C) : Bool :=
  operand.str.length != 0 && operand.str.length ≤ CECFrame.maxLength

/-- The clipped length `((startPos + len) > frameLen) ? frameLen - startPos : len`. -/
def clipLen (frameLen startPos len : Nat) : Nat :=
  if (startPos + len) % sizeMod > frameLen then
    (frameLen + sizeMod - startPos) % sizeMod
  else
    len

/-- `CECBytes(const CECFrame &frame, size_t startPos, size_t len)`. -/
def ofFrameRange (frame : CECFrame) (startPos len : Nat) : Result (CECBytes C) :=
  let len' := clipLen frame.length startPos len
  -- `str.insert(str.begin(), buf + startPos, buf + startPos + len)`
  let last := (startPos + len') % sizeMod
  if last < startPos then
    throwing .lengthError
  else
    let operand : CECBytes C := ⟨(frame.buf_.drop startPos).take (last - startPos)⟩
    if operand.validate then .ok operand else throwing .invalidParamException

/-- The constructor every operand class has from a frame: it passes its own
`MAX_LEN` to the base class. -/
def ofFrame (frame : CECFrame) (startPos : Nat) : Result (CECBytes C) :=
  ofFrameRange frame startPos C.maxLen

/-- `serialize(CECFrame &frame)`. -/
def serialize (operand : CECBytes C) (frame : CECFrame) : Result CECFrame :=
  frame.appendAll operand.str

/-! ## The frame constructor in terms of the bytes of the frame -/

/-- Behind the end of the frame the clipped length wraps, and the range ends
at `frameLen`, before its own start. -/
theorem clipLen_behind {frameLen startPos len : Nat} (hlt : frameLen < startPos)
    (hstart : startPos ≤ 128) (hlen : len ≤ 128) :
    (startPos + clipLen frameLen startPos len) % sizeMod = frameLen := by
  have hsize := sizeMod_large
  unfold clipLen
  have hsum : (startPos + len) % sizeMod = startPos + len :=
    Nat.mod_eq_of_lt (by omega)
  have hwrap : (frameLen + sizeMod - startPos) % sizeMod = frameLen + sizeMod - startPos :=
    Nat.mod_eq_of_lt (by omega)
  rw [hsum, if_pos (by omega), hwrap]
  have hend : startPos + (frameLen + sizeMod - startPos) = frameLen + sizeMod := by omega
  rw [hend, Nat.add_mod_right, Nat.mod_eq_of_lt (by omega)]

/-- Inside the frame the clipped length is what is left of it, at most `len`. -/
theorem clipLen_inside {frameLen startPos len : Nat} (hle : startPos ≤ frameLen)
    (hframe : frameLen ≤ 128) (hlen : len ≤ 128) :
    clipLen frameLen startPos len = min len (frameLen - startPos) := by
  have hsize := sizeMod_large
  unfold clipLen
  have hsum : (startPos + len) % sizeMod = startPos + len :=
    Nat.mod_eq_of_lt (by omega)
  have hwrap : (frameLen + sizeMod - startPos) % sizeMod = frameLen - startPos := by
    have : frameLen + sizeMod - startPos = frameLen - startPos + sizeMod := by omega
    rw [this, Nat.add_mod_right, Nat.mod_eq_of_lt (by omega)]
  rw [hsum, hwrap]
  split <;> omega

/-- A slice of the array that stays inside the frame is one of its bytes. -/
theorem take_drop_buf (frame : CECFrame) (startPos len : Nat) :
    (frame.buf_.drop startPos).take (min len (frame.length - startPos)) =
      (frame.bytes.drop startPos).take len := by
  rw [CECFrame.bytes, List.drop_take, List.take_take]
  rfl

/-- The frame constructor refuses a range behind the frame with
`std::length_error` and an empty slice with `InvalidParamException`; any
other slice becomes the operand. -/
theorem ofFrameRange_eq (frame : CECFrame) (startPos len : Nat)
    (hstart : startPos ≤ 128) (hlen : len ≤ 128) :
    (ofFrameRange frame startPos len : Result (CECBytes C)) =
      if frame.length < startPos then
        throwing .lengthError
      else if (frame.bytes.drop startPos).take len = [] then
        throwing .invalidParamException
      else
        .ok ⟨(frame.bytes.drop startPos).take len⟩ := by
  have hframe := frame.length_le
  unfold ofFrameRange
  dsimp only
  by_cases hbehind : frame.length < startPos
  · rw [clipLen_behind hbehind hstart hlen, if_pos hbehind, if_pos hbehind]
  · have hclip := clipLen_inside (Nat.not_lt.mp hbehind) hframe hlen
    have hlast : (startPos + min len (frame.length - startPos)) % sizeMod =
        startPos + min len (frame.length - startPos) :=
      Nat.mod_eq_of_lt (by have := sizeMod_large; omega)
    rw [hclip, hlast, if_neg (by omega), if_neg hbehind, Nat.add_sub_cancel_left,
      take_drop_buf]
    have hbound : ((frame.bytes.drop startPos).take len).length ≤ CECFrame.maxLength := by
      rw [List.length_take]
      unfold CECFrame.maxLength
      omega
    by_cases hnil : (frame.bytes.drop startPos).take len = []
    · rw [if_pos hnil, hnil]
      rfl
    · rw [if_neg hnil, if_pos]
      rw [validate, Bool.and_eq_true, decide_eq_true_eq, bne_iff_ne]
      exact ⟨fun h => hnil (List.length_eq_zero_iff.mp h), hbound⟩

/-- A frame that holds a whole operand at `startPos` gives that operand. -/
theorem ofFrame_of_slice (frame : CECFrame) (startPos : Nat) (str : List UInt8)
    (hslice : (frame.bytes.drop startPos).take C.maxLen = str) (hne : str ≠ []) :
    (ofFrame frame startPos : Result (CECBytes C)) = .ok ⟨str⟩ := by
  have hin : ¬ frame.length < startPos := by
    intro hlt
    apply hne
    rw [← hslice, List.drop_eq_nil_of_le (by rw [CECFrame.bytes_length]; omega)]
    simp
  have hle := frame.length_le
  rw [ofFrame, ofFrameRange_eq frame startPos C.maxLen (by omega) C.maxLen_le]
  rw [if_neg hin, hslice, if_neg hne]

theorem serialize_extends (operand : CECBytes C) (frame : CECFrame)
    (h : frame.length + operand.str.length ≤ 128) :
    CECFrame.Extends frame operand.str (operand.serialize frame) :=
  CECFrame.appendAll_extends frame operand.str h

end CECBytes

/-- `LogicalAddress::UNREGISTERED`, which is also `BROADCAST`. -/
def LogicalAddress.unregistered : LogicalAddress := CECBytes.ofByte 15

/-- `LogicalAddress(int addr)`: the address is cut to one byte. -/
def LogicalAddress.ofInt (addr : Int) : LogicalAddress :=
  CECBytes.ofByte (UInt8.ofNat (addr % 256).toNat)

/-- `LogicalAddress::toInt`. -/
def LogicalAddress.toInt (address : LogicalAddress) : Result UInt8 := address.get 0

@[simp] theorem LogicalAddress.toInt_ofByte (byte : UInt8) :
    LogicalAddress.toInt (CECBytes.ofByte byte) = .ok byte := rfl

end HdmiCec
