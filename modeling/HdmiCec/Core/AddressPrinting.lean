import HdmiCec.Core.AddressText
import HdmiCec.Core.MessageProcessor
import HdmiCec.Core.Reencode

/-!
# Physical addresses as text

`PhysicalAddress::toString` prints the four nibbles of an address as decimal numbers with
dots between them, and the constructor from a text reads hexadecimal digits.  A text has
seven characters if all nibbles are single digits, and only then does the constructor take
it; the text tells the address apart in every case.
-/

namespace HdmiCec

namespace AddressText

open HexText

/-- An `int` as `operator<<` prints it. -/
def decimal (n : Nat) : List UInt8 := (Nat.toDigits 10 n).map fun c => UInt8.ofNat c.toNat

/-- The nibbles of an address of these two bytes. -/
def nibble (first second : UInt8) : Fin 4 → Nat
  | 0 => ((first &&& 0xF0) >>> 4).toNat
  | 1 => (first &&& 0x0F).toNat
  | 2 => ((second &&& 0xF0) >>> 4).toNat
  | 3 => (second &&& 0x0F).toNat

/-- Four numbers with dots between them. -/
def decimals (first second third fourth : Nat) : List UInt8 :=
  decimal first ++ 0x2E :: (decimal second ++ 0x2E :: (decimal third ++ 0x2E :: decimal fourth))

/-- `PhysicalAddress::toString`. -/
def toString (address : PhysicalAddress) : Result (List UInt8) := do
  let first ← address.get 0
  let second ← address.get 1
  return decimals ((first &&& 0xF0) >>> 4).toNat (first &&& 0x0F).toNat
    ((second &&& 0xF0) >>> 4).toNat (second &&& 0x0F).toNat

/-- Printing a message makes the reads of the text. -/
theorem toString_printed (address : PhysicalAddress) :
    CECBytes.toString (.error .undefined) address = (toString address).map fun _ => () := by
  have hpeek : ∀ i, address.peek (.error .undefined) i = address.get i := fun _ => rfl
  rw [CECBytes.toString, toString]
  simp only [hpeek]
  cases address.get 0 with
  | error r => rfl
  | ok first => cases address.get 1 <;> rfl

/-- So does the log line of a message that is encoded. -/
theorem serializeLogged_printed (address : PhysicalAddress) (frame : CECFrame) :
    Message.serializeLogged address frame =
      toString address >>= fun _ => address.serialize frame := by
  rw [Message.serializeLogged, toString]
  cases address.get 0 with
  | error r => rfl
  | ok first => cases address.get 1 <;> rfl

/-! ## One number -/

/-- The numbers below 16: one character up to 9, which is a digit for `stoi`, and two
behind that; no dot. -/
theorem decimal_facts : ∀ n : Fin 16, 0x2E ∉ decimal n ∧
    (n.val ≤ 9 → decimal n = [0x30 + UInt8.ofNat n] ∧
      isxdigit (0x30 + UInt8.ofNat n) = true ∧ digitValue (0x30 + UInt8.ofNat n) = n) ∧
    (9 < n.val → (decimal n).length = 2) := by
  decide +kernel

theorem decimal_injective : ∀ n m : Fin 16, decimal n = decimal m → n = m := by
  decide +kernel

theorem dot_notMem {n : Nat} (hn : n < 16) : 0x2E ∉ decimal n := (decimal_facts ⟨n, hn⟩).1

theorem decimal_inj {n m : Nat} (hn : n < 16) (hm : m < 16) (h : decimal n = decimal m) :
    n = m :=
  congrArg Fin.val (decimal_injective ⟨n, hn⟩ ⟨m, hm⟩ h)

theorem decimal_length {n : Nat} (hn : n < 16) :
    (decimal n).length = if n ≤ 9 then 1 else 2 := by
  obtain ⟨-, hshort, hlong⟩ := decimal_facts ⟨n, hn⟩
  split
  · next h =>
    rw [(hshort h).1]
    rfl
  · next h => exact hlong (Nat.lt_of_not_le h)

/-! ## Two bytes and their nibbles -/

theorem upper_lt (byte : UInt8) : ((byte &&& 0xF0) >>> 4).toNat < 16 := by
  have hall : ∀ n : Fin 256, ((UInt8.ofNat n &&& 0xF0) >>> 4).toNat < 16 := by decide +kernel
  have h := hall ⟨byte.toNat, byte.toNat_lt⟩
  rwa [UInt8.ofNat_toNat] at h

theorem lower_lt (byte : UInt8) : (byte &&& 0x0F).toNat < 16 := by
  rw [UInt8.toNat_and]
  exact Nat.lt_of_le_of_lt Nat.and_le_right (by decide)

theorem forall_four {P : Fin 4 → Prop} (h0 : P 0) (h1 : P 1) (h2 : P 2) (h3 : P 3) :
    ∀ i, P i
  | 0 => h0
  | 1 => h1
  | 2 => h2
  | 3 => h3

theorem nibble_lt (first second : UInt8) : ∀ i, nibble first second i < 16 :=
  forall_four (upper_lt first) (lower_lt first) (upper_lt second) (lower_lt second)

/-- Nibbles make up their byte. -/
theorem byte_eq {byte byte' : UInt8}
    (hupper : ((byte &&& 0xF0) >>> 4).toNat = ((byte' &&& 0xF0) >>> 4).toNat)
    (hlower : (byte &&& 0x0F).toNat = (byte' &&& 0x0F).toNat) : byte = byte' := by
  rw [← Header.pack_unpack byte, ← Header.pack_unpack byte', UInt8.toNat_inj.mp hupper,
    UInt8.toNat_inj.mp hlower]

theorem nibble_injective {first second first' second' : UInt8}
    (h : ∀ i, nibble first second i = nibble first' second' i) :
    first = first' ∧ second = second' :=
  ⟨byte_eq (h 0) (h 1), byte_eq (h 2) (h 3)⟩

/-! ## The text -/

section Decimals

variable {n m : Fin 4 → Nat}

/-- The first dot of a text. -/
theorem split_dot {x x' rest rest' : List UInt8} (hx : 0x2E ∉ x) (hx' : 0x2E ∉ x')
    (h : x ++ 0x2E :: rest = x' ++ 0x2E :: rest') : x = x' ∧ rest = rest' := by
  have hfirst : ∀ (x rest : List UInt8), 0x2E ∉ x →
      (x ++ 0x2E :: rest).takeWhile (· != 0x2E) = x := by
    intro x rest hx
    have hkeep : ∀ c ∈ x, (c != 0x2E) = true := by
      intro c hc
      simpa using ne_of_mem_of_not_mem hc hx
    rw [List.takeWhile_append_of_pos hkeep]
    simp
  have hsame : x = x' := by rw [← hfirst x rest hx, h, hfirst x' rest' hx']
  subst hsame
  exact ⟨rfl, (List.cons.inj (List.append_cancel_left h)).2⟩

/-- The text tells the numbers apart. -/
theorem decimals_injective (hn : ∀ i, n i < 16) (hm : ∀ i, m i < 16)
    (h : decimals (n 0) (n 1) (n 2) (n 3) = decimals (m 0) (m 1) (m 2) (m 3)) : ∀ i, n i = m i := by
  have hdot (i : Fin 4) : 0x2E ∉ decimal (n i) := dot_notMem (hn i)
  have hdot' (i : Fin 4) : 0x2E ∉ decimal (m i) := dot_notMem (hm i)
  obtain ⟨h0, h⟩ := split_dot (hdot 0) (hdot' 0) h
  obtain ⟨h1, h⟩ := split_dot (hdot 1) (hdot' 1) h
  obtain ⟨h2, h3⟩ := split_dot (hdot 2) (hdot' 2) h
  exact forall_four (decimal_inj (hn 0) (hm 0) h0) (decimal_inj (hn 1) (hm 1) h1)
    (decimal_inj (hn 2) (hm 2) h2) (decimal_inj (hn 3) (hm 3) h3)

/-- The text has seven characters if and only if all numbers are single digits. -/
theorem decimals_length (hn : ∀ i, n i < 16) :
    (decimals (n 0) (n 1) (n 2) (n 3)).length = 7 ↔ ∀ i, n i ≤ 9 := by
  have hall : (∀ i, n i ≤ 9) ↔ n 0 ≤ 9 ∧ n 1 ≤ 9 ∧ n 2 ≤ 9 ∧ n 3 ≤ 9 := by
    simp [Fin.forall_fin_succ]
  rw [hall]
  simp only [decimals, List.length_append, List.length_cons, decimal_length (hn _)]
  split <;> split <;> split <;> split <;> omega

/-- Then it is the text of their digits. -/
theorem decimals_dotted (hn : ∀ i, n i ≤ 9) :
    decimals (n 0) (n 1) (n 2) (n 3) = dotted fun i => 0x30 + UInt8.ofNat (n i) := by
  have hdigit (i : Fin 4) : decimal (n i) = [0x30 + UInt8.ofNat (n i)] := by
    have hlt : n i < 16 := by
      have hi := hn i
      omega
    exact ((decimal_facts ⟨n i, hlt⟩).2.1 (hn i)).1
  rw [decimals, hdigit 0, hdigit 1, hdigit 2, hdigit 3]
  rfl

/-- The loop of the constructor reads the numbers. -/
theorem readBytes_decimals (hn : ∀ i, n i ≤ 9) :
    readBytes 4 [] (decimals (n 0) (n 1) (n 2) (n 3)) =
      .ok (List.ofFn fun i => UInt8.ofNat (n i), [0x30 + UInt8.ofNat (n 3)]) := by
  have hdigit (i : Fin 4) : isxdigit (0x30 + UInt8.ofNat (n i)) = true ∧
      digitValue (0x30 + UInt8.ofNat (n i)) = n i := by
    have hlt : n i < 16 := by
      have hi := hn i
      omega
    exact ((decimal_facts ⟨n i, hlt⟩).2.1 (hn i)).2
  rw [decimals_dotted hn, readBytes_dotted fun i => (hdigit i).1]
  simp only [(hdigit _).2]

end Decimals

/-- The constructor makes two bytes of the numbers it has read. -/
theorem ofString_decimals {n : Fin 4 → Nat} (hn : ∀ i, n i ≤ 9) :
    ∃ first second left,
      ofString (decimals (n 0) (n 1) (n 2) (n 3)) = .ok (⟨[first, second]⟩, left) ∧
      ∀ i, nibble first second i = n i := by
  have hlt (i : Fin 4) : n i < 16 := by
    have hi := hn i
    omega
  have hseven := (decimals_length hlt).mpr hn
  have hvalue (i : Fin 4) : (UInt8.ofNat (n i)).toNat = n i := by
    rw [UInt8.toNat_ofNat', Nat.mod_eq_of_lt]
    have hi := hlt i
    omega
  obtain ⟨h0, h1⟩ := nibbles (hlt 0) (hlt 1)
  obtain ⟨h2, h3⟩ := nibbles (hlt 2) (hlt 3)
  refine ⟨(UInt8.ofNat (n 0) &&& 0x0F) <<< 4 ||| (UInt8.ofNat (n 1) &&& 0x0F),
    (UInt8.ofNat (n 2) &&& 0x0F) <<< 4 ||| (UInt8.ofNat (n 3) &&& 0x0F),
    [0x30 + UInt8.ofNat (n 3)], ?_, ?_⟩
  · rw [ofString, if_pos ⟨by omega, hseven⟩, readBytes_decimals hn]
    rfl
  · exact forall_four ((congrArg UInt8.toNat h0).trans (hvalue 0))
      ((congrArg UInt8.toNat h1).trans (hvalue 1)) ((congrArg UInt8.toNat h2).trans (hvalue 2))
      ((congrArg UInt8.toNat h3).trans (hvalue 3))

/-- A physical address of two bytes is printed, and the text tells it apart from every
other.  The constructor from a text takes the text for the address if and only if no nibble
is greater than 9; for every other address it fails its assertion. -/
theorem toString_ofString (first second : UInt8) :
    ∃ addr, toString ⟨[first, second]⟩ = .ok addr ∧
      (∀ first' second', toString ⟨[first', second']⟩ = .ok addr →
        first' = first ∧ second' = second) ∧
      ((∃ left, ofString addr = .ok (⟨[first, second]⟩, left)) ↔
        ∀ i, nibble first second i ≤ 9) ∧
      ((∃ i, 9 < nibble first second i) → ofString addr = .error .assertFails) := by
  have hlt := nibble_lt first second
  let n := nibble first second
  have hrejects : (∃ i, 9 < n i) →
      ofString (decimals (n 0) (n 1) (n 2) (n 3)) = .error .assertFails := by
    rintro ⟨i, hi⟩
    have hnot : (decimals (n 0) (n 1) (n 2) (n 3)).length ≠ 7 := by
      intro hseven
      have hall : n i ≤ 9 := (decimals_length hlt).mp hseven i
      omega
    rw [ofString, if_neg fun h => hnot h.2]
  refine ⟨decimals (n 0) (n 1) (n 2) (n 3), rfl, ?_, ⟨?_, ?_⟩, hrejects⟩
  · intro first' second' h
    let n' := nibble first' second'
    have hsame : decimals (n' 0) (n' 1) (n' 2) (n' 3) = decimals (n 0) (n 1) (n 2) (n 3) :=
      Except.ok.inj h
    exact nibble_injective (decimals_injective (nibble_lt _ _) hlt hsame)
  · rintro ⟨left, htaken⟩ i
    by_contra hnot
    rw [hrejects ⟨i, Nat.lt_of_not_le hnot⟩] at htaken
    cases htaken
  · intro hdigits
    obtain ⟨first', second', left, htaken, hnibbles⟩ := ofString_decimals hdigits
    obtain ⟨rfl, rfl⟩ := nibble_injective hnibbles
    exact ⟨left, htaken⟩

/-- The address 1.0.0.0, and the address 1.10.0.0 that no text gives back. -/
example : toString ⟨[0x10, 0x00]⟩ = .ok [0x31, 0x2E, 0x30, 0x2E, 0x30, 0x2E, 0x30] ∧
    toString ⟨[0x1A, 0x00]⟩ = .ok [0x31, 0x2E, 0x31, 0x30, 0x2E, 0x30, 0x2E, 0x30] := by
  decide +kernel

end AddressText

end HdmiCec
