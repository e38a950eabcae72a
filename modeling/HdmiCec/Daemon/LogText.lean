import HdmiCec.Daemon.EventTransit
import HdmiCec.Library.CharArray

/-!
# The bytes of a frame in the log of the daemon

`_Send` and the frame listener print the bytes of a frame into `strBuffer`, an array of 50
characters, each byte behind what is there already.  A frame has up to 128 bytes and the
array room for 16: the loop goes on when the array is full, with one character left for the
terminator.
-/

namespace HdmiCec

/-! ## The loop -/

/-- A digit of `%X`. -/
def hexDigit (nibble : UInt8) : UInt8 := if nibble < 10 then 0x30 + nibble else 0x37 + nibble

/-- `"%02X "` for a byte. -/
def hexByte (byte : UInt8) : List UInt8 :=
  [hexDigit (byte >>> (4 : UInt8)), hexDigit (byte &&& 0x0F), 0x20]

/-- The text of all bytes. -/
def hexDump (bytes : List UInt8) : List UInt8 := bytes.flatMap hexByte

/-- `char strBuffer[50] = {0}` after the loop over these bytes. -/
def strBuffer (bytes : List UInt8) : Option (List UInt8) :=
  CharArray.appendTexts (bytes.map hexByte) (List.replicate 50 0)

/-- `strBuffer` in `_Send`, which reads the rebuilt frame. -/
def Daemon.sendStrBuffer (frameIn : CECFrame) : Option (List UInt8) := strBuffer frameIn.bytes

/-- `strBuffer` in `notify`, which reads the event block. -/
def CecIARMMgrFrameListener.notifyStrBuffer (in_ : CECFrame) : Option (List UInt8) :=
  strBuffer ((dataRcvd in_).data.toList.take in_.length)

/-! ## The text -/

/-- No two nibbles look alike, and none has a zero. -/
theorem hexDigit_facts : ∀ n < 16, hexDigit (UInt8.ofNat n) ≠ 0 ∧
    ∀ m < 16, hexDigit (UInt8.ofNat n) = hexDigit (UInt8.ofNat m) → n = m := by
  decide +kernel

theorem hexDigit_ne_zero {nibble : UInt8} (h : nibble.toNat < 16) : hexDigit nibble ≠ 0 := by
  have hdigit := (hexDigit_facts nibble.toNat h).1
  rwa [UInt8.ofNat_toNat] at hdigit

theorem hexDigit_injective {nibble nibble' : UInt8} (h : nibble.toNat < 16)
    (h' : nibble'.toNat < 16) (hsame : hexDigit nibble = hexDigit nibble') :
    nibble.toNat = nibble'.toNat := by
  apply (hexDigit_facts nibble.toNat h).2 nibble'.toNat h'
  rw [UInt8.ofNat_toNat, UInt8.ofNat_toNat]
  exact hsame

/-- The two nibbles of a byte. -/
theorem toNat_nibbles (byte : UInt8) :
    (byte >>> (4 : UInt8)).toNat = byte.toNat / 16 ∧ (byte &&& 0x0F).toNat = byte.toNat % 16 := by
  refine ⟨?_, ?_⟩
  · rw [UInt8.toNat_shiftRight]
    exact Nat.shiftRight_eq_div_pow byte.toNat 4
  · rw [UInt8.toNat_and]
    exact Nat.and_two_pow_sub_one_eq_mod byte.toNat 4

theorem nibbles_lt (byte : UInt8) :
    (byte >>> (4 : UInt8)).toNat < 16 ∧ (byte &&& 0x0F).toNat < 16 := by
  have hlt := byte.toNat_lt
  rw [(toNat_nibbles byte).1, (toNat_nibbles byte).2]
  omega

theorem hexByte_ne_zero (byte : UInt8) : ∀ c ∈ hexByte byte, c ≠ 0 := by
  obtain ⟨hhigh, hlow⟩ := nibbles_lt byte
  simp only [hexByte, List.mem_cons, List.not_mem_nil, or_false]
  rintro c (rfl | rfl | rfl)
  · exact hexDigit_ne_zero hhigh
  · exact hexDigit_ne_zero hlow
  · decide

theorem hexByte_injective {byte byte' : UInt8} (h : hexByte byte = hexByte byte') :
    byte = byte' := by
  simp only [hexByte, List.cons.injEq, and_true] at h
  have hhigh := hexDigit_injective (nibbles_lt byte).1 (nibbles_lt byte').1 h.1
  have hlow := hexDigit_injective (nibbles_lt byte).2 (nibbles_lt byte').2 h.2
  rw [(toNat_nibbles byte).1, (toNat_nibbles byte').1] at hhigh
  rw [(toNat_nibbles byte).2, (toNat_nibbles byte').2] at hlow
  apply UInt8.toNat_inj.mp
  omega

theorem hexDump_length (bytes : List UInt8) : (hexDump bytes).length = 3 * bytes.length := by
  induction bytes with
  | nil => rfl
  | cons byte rest ih =>
      rw [hexDump, List.flatMap_cons, List.length_append, ← hexDump, ih, List.length_cons]
      simp only [hexByte, List.length_cons, List.length_nil]
      omega

theorem hexDump_injective {bytes bytes' : List UInt8} (h : hexDump bytes = hexDump bytes') :
    bytes = bytes' := by
  induction bytes generalizing bytes' with
  | nil =>
      have hlength := congrArg List.length h
      rw [hexDump_length, hexDump_length] at hlength
      simp only [List.length_nil] at hlength
      exact (List.eq_nil_of_length_eq_zero (by omega)).symm
  | cons byte rest ih =>
      cases bytes' with
      | nil =>
          have hlength := congrArg List.length h
          rw [hexDump_length, hexDump_length] at hlength
          simp at hlength
      | cons byte' rest' =>
          have happend : hexByte byte ++ hexDump rest = hexByte byte' ++ hexDump rest' := h
          obtain ⟨hbyte, hrest⟩ := List.append_inj happend rfl
          rw [hexByte_injective hbyte, ih hrest]

/-- The loop stays inside the array. -/
theorem strBuffer_eq (bytes : List UInt8) :
    ∃ buf, strBuffer bytes = some buf ∧ CharArray.Holds 50 buf ((hexDump bytes).take 49) := by
  have hempty : CharArray.Holds 50 (List.replicate 50 0) [] := ⟨rfl, by decide, rfl⟩
  obtain ⟨buf, hloop, hholds⟩ := CharArray.appendTexts_holds (bytes.map hexByte) hempty (by
    intro out hout
    obtain ⟨byte, -, rfl⟩ := List.mem_map.mp hout
    exact hexByte_ne_zero byte)
  refine ⟨buf, hloop, ?_⟩
  rw [List.nil_append, ← List.flatMap_def] at hholds
  exact hholds

/-- The event block has the bytes of the frame that it was filled from. -/
theorem CecIARMMgrFrameListener.notifyStrBuffer_eq {in_ : CECFrame} (hfits : in_.length ≤ 62) :
    notifyStrBuffer in_ = strBuffer in_.bytes := by
  obtain ⟨hlength, hbytes⟩ := PseudoDriver.eventBytes_dataRcvd hfits
  rw [notifyStrBuffer, ← hbytes, PseudoDriver.eventBytes, hlength]

/-- For every frame, `_Send` prints inside `strBuffer` only and leaves a terminated string
there, the first 49 characters of the dump.  The string is the whole dump if and only if the
frame has at most 16 bytes; of two such frames with the same string, the bytes are the same.
The frame listener prints the same for every frame that it broadcasts. -/
theorem strBuffer_holds (frame : CECFrame) :
    ∃ buf, Daemon.sendStrBuffer frame = some buf ∧
      CharArray.Holds 50 buf ((hexDump frame.bytes).take 49) ∧
      (CharArray.text buf = hexDump frame.bytes ↔ frame.length ≤ 16) ∧
      (frame.length ≤ 62 → CecIARMMgrFrameListener.notifyStrBuffer frame = some buf) ∧
      ∀ frame' buf', Daemon.sendStrBuffer frame' = some buf' → frame.length ≤ 16 →
        frame'.length ≤ 16 → CharArray.text buf' = CharArray.text buf →
          frame'.bytes = frame.bytes := by
  have hwhole : ∀ frame : CECFrame, (hexDump frame.bytes).take 49 = hexDump frame.bytes ↔
      frame.length ≤ 16 := by
    intro frame
    constructor
    · intro h
      have hlength := congrArg List.length h
      rw [List.length_take, hexDump_length, CECFrame.bytes_length] at hlength
      omega
    · intro h
      apply List.take_of_length_le
      rw [hexDump_length, CECFrame.bytes_length]
      omega
  obtain ⟨buf, hbuf, hholds⟩ := strBuffer_eq frame.bytes
  refine ⟨buf, hbuf, hholds, ?_, ?_, ?_⟩
  · rw [hholds.text]
    exact hwhole frame
  · intro hfits
    rw [CecIARMMgrFrameListener.notifyStrBuffer_eq hfits]
    exact hbuf
  · intro frame' buf' hbuf' hshort hshort' hsame
    obtain ⟨buf₁, hbuf₁, hholds'⟩ := strBuffer_eq frame'.bytes
    cases hbuf'.symm.trans hbuf₁
    rw [hholds.text, hholds'.text, (hwhole frame).mpr hshort, (hwhole frame').mpr hshort'] at hsame
    exact hexDump_injective hsame

/-- A television that is asked for its power status. -/
example : (strBuffer [0x30, 0x8F]).map CharArray.text =
    some [0x33, 0x30, 0x20, 0x38, 0x46, 0x20] := by decide +kernel

end HdmiCec
