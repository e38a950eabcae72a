import HdmiCec.Core.RoundTrip
import HdmiCec.Library.HexText

/-!
# Physical addresses from text

`PhysicalAddress(std::string &addr)` reads up to four numbers with `stoi`, and each time
goes on behind the character that follows the number, whatever it is.  It does not look
whether it has found four of them: the elements of `byte` that it did not come to are used
as they are.
-/

namespace HdmiCec

namespace AddressText

open HexText

/-- How the constructor ends when it does not return. -/
inductive Failure where
  | assertFails
  /-- `std::invalid_argument`, thrown by `stoi`. -/
  | invalidArgument
  /-- `std::out_of_range`, thrown by `stoi` and `substr`. -/
  | outOfRange
  /-- An element of `byte` is used that has not been set. -/
  | unset
  deriving DecidableEq

/-- It ends by an exception. -/
def Failure.thrown : Failure → Bool
  | .invalidArgument | .outOfRange => true
  | .assertFails | .unset => false

/-- `stoi(text, &dotposition, 16)`: the value, and the new `dotposition`. -/
def stoi (text : List UInt8) : Except Failure (Int × Nat) :=
  match strtol text with
  | none => .error .invalidArgument
  | some number =>
      if -2 ^ 31 ≤ number.value ∧ number.value < 2 ^ 31 then
        .ok (number.value, number.text.length)
      else
        .error .outOfRange

/-- `addr.substr(pos)`. -/
def substr (addr : List UInt8) (pos : Nat) : Except Failure (List UInt8) :=
  if pos ≤ addr.length then .ok (addr.drop pos) else .error .outOfRange

/-- The loop, with `4 - i` turns left: the elements of `byte` that it sets, and what is left
of `addr`. -/
def readBytes : Nat → List UInt8 → List UInt8 → Except Failure (List UInt8 × List UInt8)
  | 0, byte, addr => .ok (byte, addr)
  | left + 1, byte, addr =>
      if addr.length = 0 then
        .ok (byte, addr)
      else
        match stoi addr with
        | .error e => .error e
        | .ok (value, dotposition) =>
            -- `byte[i++] = stoi(addr, &dotposition, 16)`, cut to a byte
            let byte := byte ++ [UInt8.ofNat (value % 256).toNat]
            if 1 < addr.length then
              -- behind the separator, which is not looked at
              match substr addr (dotposition + 1) with
              | .error e => .error e
              | .ok addr => readBytes left byte addr
            else
              .ok (byte, addr)

/-- `byte[i]`. -/
def useByte (byte : List UInt8) (i : Nat) : Except Failure UInt8 :=
  match byte[i]? with
  | some value => .ok value
  | none => .error .unset

/-- `PhysicalAddress(std::string &addr)`: the address, and what it leaves in `addr`. -/
def ofString (addr : List UInt8) : Except Failure (PhysicalAddress × List UInt8) :=
  if addr.length ≠ 0 ∧ addr.length = 7 then do
    -- `CECBytes(NULL, 0)` has left `str` empty
    let (byte, addr) ← readBytes 4 [] addr
    let bytes0 := ((← useByte byte 0) &&& 0x0F) <<< 4 ||| ((← useByte byte 1) &&& 0x0F)
    let bytes1 := ((← useByte byte 2) &&& 0x0F) <<< 4 ||| ((← useByte byte 3) &&& 0x0F)
    return (⟨[bytes0, bytes1]⟩, addr)
  else
    .error .assertFails

/-! ## What the text is to look like -/

/-- Four characters with dots between them. -/
def dotted (h : Fin 4 → UInt8) : List UInt8 := [h 0, 0x2E, h 1, 0x2E, h 2, 0x2E, h 3]

/-- The text has the form `h.h.h.h`, with these hexadecimal digits. -/
def Dotted (h : Fin 4 → UInt8) (addr : List UInt8) : Prop :=
  (∀ i, isxdigit (h i) = true) ∧ addr = dotted h

/-- The constructor takes the texts of that form and no others. -/
structure Exact (addr : List UInt8) : Prop where
  accepted : ∀ address left, ofString addr = .ok (address, left) → ∃ h, Dotted h addr ∧
    ∀ i : Fin 4, Message.getByteValue address i = .ok (UInt8.ofNat (digitValue (h i)))
  accepts : ∀ h, Dotted h addr → ∃ r, ofString addr = .ok r
  rejects : (∀ h, ¬ Dotted h addr) → ∃ e, ofString addr = .error e ∧ e.thrown = true
  set : ofString addr ≠ .error .unset

/-- Numbers with one more character behind each, any one that does not continue the number.
The last number can be a single digit with nothing behind it. -/
inductive Numbers : List UInt8 → Prop where
  | nil : Numbers []
  | digit (c : UInt8) (hc : isxdigit c = true) : Numbers [c]
  | cons (number : HexNumber) (separator : UInt8) (rest : List UInt8)
      (longest : ∀ m : HexNumber, m.text <+: number.text ++ separator :: rest →
        m.text.length ≤ number.text.length)
      (hrest : Numbers rest) : Numbers (number.text ++ separator :: rest)

/-! ## One number -/

/-- A number that is a single character is a digit. -/
theorem digit_of_text {number : HexNumber} {c : UInt8} (h : number.text = [c]) :
    isxdigit c = true := by
  have hmem : ∀ d ∈ number.digits, d = c := by
    intro d hd
    have htext : d ∈ number.text := by simp [HexNumber.text, hd]
    rw [h] at htext
    exact List.mem_singleton.mp htext
  obtain ⟨d, hd⟩ := List.exists_mem_of_ne_nil _ number.digits_ne
  rw [← hmem d hd]
  exact number.digits_hex d hd

theorem text_ne_nil (number : HexNumber) : 1 ≤ number.text.length := by
  have hdigits := List.length_pos_iff.mpr number.digits_ne
  simp only [HexNumber.text, List.length_append]
  omega

/-- In a text of this length no number is out of range: `stoi` reads the longest one that
the text begins with, and throws if there is none. -/
theorem stoi_cases {addr : List UInt8} (h : addr.length ≤ 7) :
    (stoi addr = .error .invalidArgument ∧ ∀ m : HexNumber, ¬ m.text <+: addr) ∨
      ∃ number : HexNumber, stoi addr = .ok (number.value, number.text.length) ∧
        number.text <+: addr ∧
        ∀ m : HexNumber, m.text <+: addr → m.text.length ≤ number.text.length := by
  cases hread : strtol addr with
  | none => exact .inl ⟨by rw [stoi, hread], strtol_none hread⟩
  | some number =>
      have hbegins := strtol_begins hread
      have hlength := hbegins.length_le
      have hdigits : number.digits.length ≤ 7 := by
        simp only [HexNumber.text, List.length_append] at hlength
        omega
      have hpow : (16 : Int) ^ number.digits.length ≤ 16 ^ 7 := by
        exact_mod_cast Nat.pow_le_pow_right (by decide : 0 < 16) hdigits
      obtain ⟨hlow, hhigh⟩ := number.value_lt
      refine .inr ⟨number, ?_, hbegins, strtol_longest hread⟩
      simp only [stoi, hread]
      rw [if_pos]
      constructor
      · omega
      · omega

/-- A text of numbers has its longest number first, and one more character behind it. -/
theorem numbers_iff {addr : List UInt8} {number : HexNumber} (hbegins : number.text <+: addr)
    (hlongest : ∀ m : HexNumber, m.text <+: addr → m.text.length ≤ number.text.length)
    (hlength : 1 < addr.length) :
    Numbers addr ↔ number.text.length + 1 ≤ addr.length ∧
      Numbers (addr.drop (number.text.length + 1)) := by
  constructor
  · intro hnumbers
    cases hnumbers with
    | nil => simp at hlength
    | digit c hc => simp at hlength
    | cons other separator rest hother hrest =>
        have hle := hlongest other ⟨separator :: rest, rfl⟩
        have hge := hother number hbegins
        have hdrop : (other.text ++ separator :: rest).drop (other.text.length + 1) = rest := by
          simp
        have heq : number.text.length = other.text.length := by omega
        rw [heq, hdrop]
        exact ⟨by simp, hrest⟩
  · rintro ⟨hbehind, hrest⟩
    obtain ⟨tail, rfl⟩ := hbegins
    cases tail with
    | nil => simp at hbehind
    | cons separator rest =>
        have hdrop : (number.text ++ separator :: rest).drop (number.text.length + 1) = rest := by
          simp
        rw [hdrop] at hrest
        exact .cons number separator rest hlongest hrest

/-! ## The loop -/

/-- The number that a digit is. -/
def ofDigit (c : UInt8) (hc : isxdigit c = true) : HexNumber where
  blanks := []
  sign := []
  pre := []
  digits := [c]
  blanks_space _ h := nomatch h
  sign_mem := List.mem_cons_self ..
  pre_mem := List.mem_cons_self ..
  digits_hex _ h := by rw [List.mem_singleton.mp h]; exact hc
  digits_ne := List.cons_ne_nil _ _

theorem not_numbers {addr : List UInt8} (hne : addr ≠ [])
    (h : ∀ m : HexNumber, ¬ m.text <+: addr) : ¬ Numbers addr := by
  intro hnumbers
  cases hnumbers with
  | nil => exact hne rfl
  | digit c hc => exact h (ofDigit c hc) ⟨[], rfl⟩
  | cons number separator rest _ _ => exact h number ⟨separator :: rest, rfl⟩

/-- While there are turns enough for the text, the loop comes to its end if the text is one
of numbers, and throws if not. -/
theorem readBytes_cases (left : Nat) : ∀ byte addr, addr.length ≤ 7 →
    addr.length + 1 ≤ 2 * left →
    (Numbers addr ∧ ∃ r, readBytes left byte addr = .ok r) ∨
      (¬ Numbers addr ∧ ∃ e, readBytes left byte addr = .error e ∧ e.thrown = true) := by
  induction left with
  | zero =>
      intro byte addr _ hturns
      omega
  | succ left ih =>
      intro byte addr h7 hturns
      -- the three ways out of the loop: no text left, no number, or a number at its end
      by_cases hnil : addr = []
      · subst hnil
        exact .inl ⟨.nil, _, by rw [readBytes, if_pos (by rfl)]⟩
      have hpos : addr.length ≠ 0 := fun h => hnil (List.length_eq_zero_iff.mp h)
      rcases stoi_cases h7 with ⟨hstoi, hnone⟩ | ⟨number, hstoi, hbegins, hlongest⟩
      · refine .inr ⟨not_numbers hnil hnone, .invalidArgument, ?_, rfl⟩
        simp only [readBytes, if_neg hpos, hstoi]
      · have hnumber := text_ne_nil number
        by_cases hmore : 1 < addr.length
        · have hiff := numbers_iff hbegins hlongest hmore
          by_cases hbehind : number.text.length + 1 ≤ addr.length
          · have hdrop : (addr.drop (number.text.length + 1)).length + 2 ≤ addr.length := by
              rw [List.length_drop]
              omega
            have hread : readBytes (left + 1) byte addr =
                readBytes left (byte ++ [UInt8.ofNat (number.value % 256).toNat])
                  (addr.drop (number.text.length + 1)) := by
              simp only [readBytes, if_neg hpos, hstoi, if_pos hmore, substr, if_pos hbehind]
            rw [hread, hiff, and_iff_right hbehind]
            exact ih _ _ (by omega) (by omega)
          · -- the number runs to the end of the text
            refine .inr ⟨fun h => hbehind (hiff.mp h).1, .outOfRange, ?_, rfl⟩
            simp only [readBytes, if_neg hpos, hstoi, if_pos hmore, substr, if_neg hbehind]
        · obtain ⟨c, rfl⟩ := List.length_eq_one_iff.mp
            (by omega : addr.length = 1)
          have htext : number.text = [c] := hbegins.eq_of_length (by
            have := hbegins.length_le
            simp only [List.length_singleton] at this ⊢
            omega)
          refine .inl ⟨.digit c (digit_of_text htext),
            (byte ++ [UInt8.ofNat (number.value % 256).toNat], [c]), ?_⟩
          simp only [readBytes, if_neg hpos, hstoi, if_neg hmore]

/-- Nothing is thrown. -/
def Quiet {α : Type} (x : Except Failure α) : Prop := ∀ e, x = .error e → e.thrown = false

theorem Quiet.bind {α β : Type} {x : Except Failure α} {next : α → Except Failure β}
    (h : Quiet x) (hnext : ∀ a, Quiet (next a)) : Quiet (x >>= next) := by
  intro e he
  cases x with
  | error e' =>
      cases he
      exact h _ rfl
  | ok a => exact hnext a e he

theorem useByte_quiet (byte : List UInt8) (i : Nat) : Quiet (useByte byte i) := by
  intro e h
  unfold useByte at h
  split at h
  · cases h
  · cases h
    rfl

/-- Nothing is thrown behind the loop. -/
theorem ofString_quiet {addr : List UInt8} (h7 : addr.length = 7) {r : List UInt8 × List UInt8}
    (hread : readBytes 4 [] addr = .ok r) : Quiet (ofString addr) := by
  rw [ofString, if_pos ⟨by omega, h7⟩, hread]
  refine (useByte_quiet _ 0).bind fun _ => (useByte_quiet _ 1).bind fun _ =>
    (useByte_quiet _ 2).bind fun _ => (useByte_quiet _ 3).bind fun _ => ?_
  intro e h
  cases h

theorem ofString_thrown {addr : List UInt8} (h7 : addr.length = 7) {e : Failure}
    (h : readBytes 4 [] addr = .error e) : ofString addr = .error e := by
  rw [ofString, if_pos ⟨by omega, h7⟩, h]
  rfl

/-! ## Dotted texts -/

/-- A digit as `stoi` reads it, at the end of the text or before a dot. -/
theorem stoi_digit {c : UInt8} (hc : isxdigit c = true) {rest : List UInt8}
    (hrest : ∀ s ∈ rest.head?, s = 0x2E) : stoi (c :: rest) = .ok (digitValue c, 1) := by
  obtain ⟨number, hread, htext, hvalue⟩ := @strtol_digit c hc rest (by
    intro s hs
    rw [hrest s hs]
    decide)
  have hlt := digitValue_lt hc
  simp only [stoi, hread, htext, hvalue]
  rw [if_pos]
  · rfl
  · constructor
    · omega
    · omega

theorem byte_of_digit {c : UInt8} (hc : isxdigit c = true) :
    UInt8.ofNat ((digitValue c : Int) % 256).toNat = UInt8.ofNat (digitValue c) := by
  have hlt := digitValue_lt hc
  congr 1
  omega

theorem readBytes_dot {c : UInt8} (hc : isxdigit c = true) (left : Nat)
    (byte rest : List UInt8) :
    readBytes (left + 1) byte (c :: 0x2E :: rest) =
      readBytes left (byte ++ [UInt8.ofNat (digitValue c)]) rest := by
  have hstoi : stoi (c :: 0x2E :: rest) = .ok (digitValue c, 1) :=
    stoi_digit hc fun s hs => by cases hs; rfl
  simp [readBytes, hstoi, substr, byte_of_digit hc]

theorem readBytes_last {c : UInt8} (hc : isxdigit c = true) (left : Nat) (byte : List UInt8) :
    readBytes (left + 1) byte [c] = .ok (byte ++ [UInt8.ofNat (digitValue c)], [c]) := by
  have hstoi : stoi [c] = .ok (digitValue c, 1) := stoi_digit hc fun s hs => nomatch hs
  simp [readBytes, hstoi, byte_of_digit hc]

theorem readBytes_dotted {h : Fin 4 → UInt8} (hh : ∀ i, isxdigit (h i) = true) :
    readBytes 4 [] (dotted h) =
      .ok (List.ofFn fun i => UInt8.ofNat (digitValue (h i)), [h 3]) := by
  rw [dotted, readBytes_dot (hh 0), readBytes_dot (hh 1), readBytes_dot (hh 2),
    readBytes_last (hh 3)]
  simp

/-- Nibbles go into a byte and come out of it. -/
theorem nibbles {a b : Nat} (ha : a < 16) (hb : b < 16) :
    ((((UInt8.ofNat a &&& 0x0F) <<< 4 ||| (UInt8.ofNat b &&& 0x0F)) &&& 0xF0) >>> 4 =
        UInt8.ofNat a) ∧
      ((UInt8.ofNat a &&& 0x0F) <<< 4 ||| (UInt8.ofNat b &&& 0x0F)) &&& 0x0F =
        UInt8.ofNat b := by
  have hmask : ∀ i : Fin 16, UInt8.ofNat i &&& 0x0F = UInt8.ofNat i := by decide
  have hupper := Header.upper_pack ⟨a, ha⟩ ⟨b, hb⟩
  have hlower := Header.lower_pack ⟨a, ha⟩ ⟨b, hb⟩
  simp only [Header.pack] at hupper hlower
  rw [hmask ⟨a, ha⟩, hmask ⟨b, hb⟩]
  exact ⟨hupper, by simpa using hlower⟩

/-- A dotted text is taken, and `getByteValue` gives its digits. -/
theorem ofString_dotted {h : Fin 4 → UInt8} (hh : ∀ i, isxdigit (h i) = true) :
    ∃ address, ofString (dotted h) = .ok (address, [h 3]) ∧
      ∀ i : Fin 4, Message.getByteValue address i = .ok (UInt8.ofNat (digitValue (h i))) := by
  have hlt : ∀ i, digitValue (h i) < 16 := fun i => digitValue_lt (hh i)
  obtain ⟨h0, h1⟩ := nibbles (hlt 0) (hlt 1)
  obtain ⟨h2, h3⟩ := nibbles (hlt 2) (hlt 3)
  have hread := readBytes_dotted hh
  refine ⟨_, by rw [ofString, if_pos (by simp [dotted]), hread]; rfl, ?_⟩
  intro i
  match i with
  | 0 => exact congrArg Except.ok h0
  | 1 => exact congrArg Except.ok h1
  | 2 => exact congrArg Except.ok h2
  | 3 => exact congrArg Except.ok h3

/-! ## Which texts are taken -/

/-- Among the texts of seven characters the constructor is right about those of the form
`h.h.h.h`, and about those that are no text of numbers. -/
theorem exact_iff {addr : List UInt8} (h7 : addr.length = 7) :
    Exact addr ↔ (∃ h, Dotted h addr) ∨ ¬ Numbers addr := by
  constructor
  · intro hexact
    by_contra hneither
    -- a text of numbers gets through the loop, and behind it nothing is thrown
    obtain ⟨hdotted, hnumbers⟩ := not_or.mp hneither
    obtain ⟨e, hthrows, hthrown⟩ := hexact.rejects (not_exists.mp hdotted)
    rcases readBytes_cases 4 [] addr (by omega) (by omega) with
      ⟨-, r, hreturns⟩ | ⟨hnot, -⟩
    · have hquiet := ofString_quiet h7 hreturns e hthrows
      rw [hthrown] at hquiet
      cases hquiet
    · exact hnumbers hnot
  · rintro (⟨h, hh, rfl⟩ | hnumbers)
    · obtain ⟨address, htaken, hvalues⟩ := ofString_dotted hh
      refine ⟨?_, fun _ _ => ⟨_, htaken⟩, fun hnot => absurd ⟨hh, rfl⟩ (hnot h), ?_⟩
      · intro other left hother
        rw [htaken] at hother
        cases hother
        exact ⟨h, ⟨hh, rfl⟩, hvalues⟩
      · rw [htaken]
        exact fun h => nomatch h
    · obtain ⟨hin, -⟩ | ⟨-, e, hread, hthrown⟩ :=
        readBytes_cases 4 [] addr (by omega) (by omega)
      · exact absurd hin hnumbers
      have hthrows := ofString_thrown h7 hread
      refine ⟨?_, ?_, fun _ => ⟨e, hthrows, hthrown⟩, ?_⟩
      · intro address left htaken
        rw [hthrows] at htaken
        cases htaken
      · rintro h ⟨hh, rfl⟩
        obtain ⟨address, htaken, -⟩ := ofString_dotted hh
        exact ⟨_, htaken⟩
      · rw [hthrows]
        intro hunset
        cases hunset
        cases hthrown

/-- `1.a.0.F`. -/
theorem exact_iff_dotted :
    Exact [0x31, 0x2E, 0x61, 0x2E, 0x30, 0x2E, 0x46] := by
  refine (exact_iff rfl).mpr (.inl ⟨[0x31, 0x61, 0x30, 0x46].get, ?_, rfl⟩)
  decide

/-- `1,2,3,4` is taken, and for `12345.6` two bytes are used that have not been set. -/
theorem not_exact :
    ¬ Exact [0x31, 0x2C, 0x32, 0x2C, 0x33, 0x2C, 0x34] ∧
      ¬ Exact [0x31, 0x32, 0x33, 0x34, 0x35, 0x2E, 0x36] := by
  constructor
  · intro hexact
    obtain ⟨h, ⟨-, hdots⟩, -⟩ := hexact.accepted ⟨[0x12, 0x34]⟩ [0x34] rfl
    simp [dotted] at hdots
  · exact fun hexact => hexact.set rfl

end AddressText

end HdmiCec
