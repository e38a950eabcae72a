import Mathlib.Data.Nat.Digits.Defs
import Mathlib.Data.List.TakeWhile

/-!
# Hexadecimal numbers at the begin of a text

`strtol` in base 16, for texts of bytes: blanks, a sign, `0x` and digits, of which only
the digits must be there.  A number is a structure with its parts, so that it cannot hold
anything else.

* `strtol_longest`: what is read is the longest beginning of the text that is a number;
* `strtol_none`: nothing is read if no beginning of the text is a number;
* `strtol_digit`: a digit with something behind it that does not continue it.
-/

namespace HexText

/-- `isspace` of the `"C"` locale. -/
def isspace (c : UInt8) : Bool := c == 0x20 || (0x09 ≤ c && c ≤ 0x0D)

/-- `isxdigit` of the `"C"` locale. -/
def isxdigit (c : UInt8) : Bool :=
  (0x30 ≤ c && c ≤ 0x39) || (0x41 ≤ c && c ≤ 0x46) || (0x61 ≤ c && c ≤ 0x66)

/-- The value of a digit. -/
def digitValue (c : UInt8) : Nat :=
  if c ≤ 0x39 then c.toNat - 0x30
  else if c ≤ 0x46 then c.toNat - 0x37
  else c.toNat - 0x57

/-- No sign, `+` or `-`. -/
def signs : List (List UInt8) := [[], [0x2B], [0x2D]]

/-- Nothing, `0x` or `0X`. -/
def prefixes : List (List UInt8) := [[], [0x30, 0x78], [0x30, 0x58]]

theorem mem_signs {sign : List UInt8} :
    sign ∈ signs ↔ sign = [] ∨ sign = [0x2B] ∨ sign = [0x2D] := by
  simp [signs]

theorem mem_prefixes {pre : List UInt8} :
    pre ∈ prefixes ↔ pre = [] ∨ pre = [0x30, 0x78] ∨ pre = [0x30, 0x58] := by
  simp [prefixes]

/-- A number, in the parts that it is written in. -/
structure HexNumber where
  blanks : List UInt8
  sign : List UInt8
  pre : List UInt8
  digits : List UInt8
  blanks_space : ∀ c ∈ blanks, isspace c = true
  sign_mem : sign ∈ signs
  pre_mem : pre ∈ prefixes
  digits_hex : ∀ c ∈ digits, isxdigit c = true
  digits_ne : digits ≠ []

namespace HexNumber

def text (n : HexNumber) : List UInt8 := n.blanks ++ (n.sign ++ (n.pre ++ n.digits))

def magnitude (n : HexNumber) : Nat := Nat.ofDigits 16 (n.digits.reverse.map digitValue)

def value (n : HexNumber) : Int :=
  if n.sign = [0x2D] then -(n.magnitude : Int) else n.magnitude

end HexNumber

/-- The sign that a text begins with. -/
def signOf : List UInt8 → List UInt8
  | c :: _ => if [c] ∈ signs then [c] else []
  | [] => []

/-- The `0x` that a text begins with, if a digit is behind it. -/
def prefixOf : List UInt8 → List UInt8
  | zero :: x :: c :: _ => if [zero, x] ∈ prefixes ∧ isxdigit c = true then [zero, x] else []
  | _ => []

theorem signOf_mem (text : List UInt8) : signOf text ∈ signs := by
  cases text with
  | nil => exact List.mem_cons_self ..
  | cons c rest =>
      rw [signOf]
      split
      · assumption
      · exact List.mem_cons_self ..

theorem prefixOf_mem (text : List UInt8) : prefixOf text ∈ prefixes := by
  unfold prefixOf
  split
  · split
    · next h => exact h.1
    · exact List.mem_cons_self ..
  · exact List.mem_cons_self ..

/-- What is behind the blanks and the sign. -/
def behindSign (text : List UInt8) : List UInt8 :=
  (text.dropWhile isspace).drop (signOf (text.dropWhile isspace)).length

/-- The digits, behind the `0x` if there is one. -/
def digitsOf (text : List UInt8) : List UInt8 :=
  (text.drop (prefixOf text).length).takeWhile isxdigit

/-- `strtol(text, .., 16)`, without the bounds of its result. -/
def strtol (text : List UInt8) : Option HexNumber :=
  if h : digitsOf (behindSign text) = [] then
    none
  else
    some {
      blanks := text.takeWhile isspace
      sign := signOf (text.dropWhile isspace)
      pre := prefixOf (behindSign text)
      digits := digitsOf (behindSign text)
      blanks_space := fun _ hmem => List.mem_takeWhile_imp hmem
      sign_mem := signOf_mem _
      pre_mem := prefixOf_mem _
      digits_hex := fun _ hmem => List.mem_takeWhile_imp hmem
      digits_ne := h }

theorem strtol_eq_none {text : List UInt8} :
    strtol text = none ↔ digitsOf (behindSign text) = [] := by
  unfold strtol
  split
  · next h => exact iff_of_true rfl h
  · next h => exact iff_of_false (fun hnone => nomatch hnone) h

theorem strtol_parts {text : List UInt8} {n : HexNumber} (h : strtol text = some n) :
    n.blanks = text.takeWhile isspace ∧ n.sign = signOf (text.dropWhile isspace) ∧
      n.pre = prefixOf (behindSign text) ∧ n.digits = digitsOf (behindSign text) := by
  unfold strtol at h
  split at h
  · cases h
  · cases h
    exact ⟨rfl, rfl, rfl, rfl⟩

/-! ## What is read is there -/

theorem signOf_begins (text : List UInt8) : signOf text <+: text := by
  cases text with
  | nil => exact List.prefix_rfl
  | cons c rest =>
      rw [signOf]
      split
      · exact ⟨rest, rfl⟩
      · exact List.nil_prefix

theorem prefixOf_begins (text : List UInt8) : prefixOf text <+: text := by
  unfold prefixOf
  split
  · next c rest =>
    split
    · exact ⟨c :: rest, rfl⟩
    · exact List.nil_prefix
  · exact List.nil_prefix

theorem digitsOf_begins (text : List UInt8) : prefixOf text ++ digitsOf text <+: text := by
  have hpre := List.prefix_iff_eq_append.mp (prefixOf_begins text)
  have hdigits := List.takeWhile_prefix isxdigit (l := text.drop (prefixOf text).length)
  have hboth := List.prefix_append_right_inj (prefixOf text) |>.mpr hdigits
  rw [hpre] at hboth
  exact hboth

theorem strtol_begins {text : List UInt8} {n : HexNumber} (h : strtol text = some n) :
    n.text <+: text := by
  have hsign := List.prefix_iff_eq_append.mp (signOf_begins (text.dropWhile isspace))
  have hbehind := (List.prefix_append_right_inj (signOf (text.dropWhile isspace))).mpr
    (digitsOf_begins (behindSign text))
  rw [behindSign, hsign, ← behindSign] at hbehind
  have hall := (List.prefix_append_right_inj (text.takeWhile isspace)).mpr hbehind
  rw [List.takeWhile_append_dropWhile] at hall
  obtain ⟨hblanks, hsignOf, hpre, hdigits⟩ := strtol_parts h
  rw [HexNumber.text, hblanks, hsignOf, hpre, hdigits]
  exact hall

/-! ## No more could be read -/

theorem scan_head {p : UInt8 → Bool} {text : List UInt8} (h : ∀ c ∈ text.head?, p c = false) :
    text.takeWhile p = [] ∧ text.dropWhile p = text := by
  cases text with
  | nil => exact ⟨rfl, rfl⟩
  | cons c rest =>
      have hc : p c = false := h c rfl
      exact ⟨by rw [List.takeWhile_cons, hc]; rfl, by rw [List.dropWhile_cons, hc]; rfl⟩

/-- The head of a text is neither a blank nor a sign. -/
def Starts (text : List UInt8) : Prop := ∀ c ∈ text.head?, isspace c = false ∧ [c] ∉ signs

theorem signOf_append {sign rest : List UInt8} (hsign : sign ∈ signs) (hrest : Starts rest) :
    signOf (sign ++ rest) = sign ∧ ∀ c ∈ (sign ++ rest).head?, isspace c = false := by
  rcases mem_signs.mp hsign with rfl | rfl | rfl
  · refine ⟨?_, fun c hc => (hrest c hc).1⟩
    cases rest with
    | nil => rfl
    | cons c rest =>
        show signOf (c :: rest) = []
        rw [signOf, if_neg (hrest c rfl).2]
  · exact ⟨rfl, fun c hc => by cases hc; rfl⟩
  · exact ⟨rfl, fun c hc => by cases hc; rfl⟩

theorem behindSign_append {blanks sign rest : List UInt8}
    (hblanks : ∀ c ∈ blanks, isspace c = true) (hsign : sign ∈ signs) (hrest : Starts rest) :
    (blanks ++ (sign ++ rest)).takeWhile isspace = blanks ∧
      signOf ((blanks ++ (sign ++ rest)).dropWhile isspace) = sign ∧
      behindSign (blanks ++ (sign ++ rest)) = rest := by
  obtain ⟨hsignOf, hhead⟩ := signOf_append hsign hrest
  obtain ⟨htake, hdrop⟩ := scan_head hhead
  have hbehind : (blanks ++ (sign ++ rest)).dropWhile isspace = sign ++ rest := by
    rw [List.dropWhile_append_of_pos hblanks, hdrop]
  refine ⟨?_, ?_, ?_⟩
  · rw [List.takeWhile_append_of_pos hblanks, htake, List.append_nil]
  · rw [hbehind, hsignOf]
  · rw [behindSign, hbehind, hsignOf, List.drop_left]

/-- A digit is no blank, no sign, and not the `x` of a prefix. -/
theorem isxdigit_starts {c : UInt8} (h : isxdigit c = true) :
    isspace c = false ∧ [c] ∉ signs ∧ c ≠ 0x78 ∧ c ≠ 0x58 := by
  simp only [isxdigit, Bool.or_eq_true, Bool.and_eq_true, decide_eq_true_eq,
    UInt8.le_iff_toNat_le] at h
  simp only [isspace, signs, List.mem_cons, List.cons.injEq, and_true, List.not_mem_nil,
    Bool.or_eq_false_iff, Bool.and_eq_false_iff, beq_eq_false_iff_ne, decide_eq_false_iff_not,
    UInt8.le_iff_toNat_le, ne_eq, ← UInt8.toNat_inj]
  simp at h ⊢
  omega

theorem prefix_starts {pre digits : List UInt8} (rest : List UInt8) (hpre : pre ∈ prefixes)
    (hdigits : ∀ c ∈ digits, isxdigit c = true) (hne : digits ≠ []) :
    Starts (pre ++ (digits ++ rest)) := by
  obtain ⟨first, others, rfl⟩ := List.exists_cons_of_ne_nil hne
  have hfirst := isxdigit_starts (hdigits first (List.mem_cons_self ..))
  rcases mem_prefixes.mp hpre with rfl | rfl | rfl
  · intro c hc
    cases hc
    exact ⟨hfirst.1, hfirst.2.1⟩
  · intro c hc
    cases hc
    exact ⟨by decide, by decide⟩
  · intro c hc
    cases hc
    exact ⟨by decide, by decide⟩

/-- A prefix that is read has an `x` in it, which is no digit, and a digit behind it. -/
theorem prefixOf_cases {text : List UInt8} (h : prefixOf text ≠ []) :
    ∃ zero x c rest, text = zero :: x :: c :: rest ∧ isxdigit x = false ∧
      isxdigit c = true ∧ prefixOf text = [zero, x] := by
  unfold prefixOf at h ⊢
  split at h
  · next zero x c rest =>
    split at h
    · next hread =>
      obtain ⟨hmem, hc⟩ := hread
      refine ⟨zero, x, c, rest, rfl, ?_, hc, if_pos ⟨hmem, hc⟩⟩
      rcases mem_prefixes.mp hmem with hnil | hpair | hpair
      · cases hnil
      · cases hpair
        rfl
      · cases hpair
        rfl
    · exact absurd rfl h
  · exact absurd rfl h

theorem digitsOf_append {pre digits : List UInt8} (rest : List UInt8) (hpre : pre ∈ prefixes)
    (hdigits : ∀ c ∈ digits, isxdigit c = true) (hne : digits ≠ []) :
    digitsOf (pre ++ (digits ++ rest)) ≠ [] ∧
      pre.length + digits.length ≤ (prefixOf (pre ++ (digits ++ rest))).length +
        (digitsOf (pre ++ (digits ++ rest))).length := by
  obtain ⟨first, others, rfl⟩ := List.exists_cons_of_ne_nil hne
  have hfirst := hdigits first (List.mem_cons_self ..)
  have hscan : (first :: others ++ rest).takeWhile isxdigit =
      first :: others ++ rest.takeWhile isxdigit :=
    List.takeWhile_append_of_pos hdigits
  rcases mem_prefixes.mp hpre with rfl | rfl | rfl
  · rw [List.nil_append]
    by_cases hread : prefixOf (first :: others ++ rest) = []
    · rw [digitsOf, hread, List.length_nil, List.drop_zero, hscan]
      simp
    · -- the `0` was taken for a digit, and is the begin of a longer number
      obtain ⟨zero, x, c, tail, htext, hx, hc, hpair⟩ := prefixOf_cases hread
      cases others with
      | cons second others =>
          obtain ⟨-, hbehind⟩ := List.cons.inj htext
          obtain ⟨hsecond, -⟩ := List.cons.inj hbehind
          have hdigit := hdigits second (by simp)
          rw [hsecond, hx] at hdigit
          cases hdigit
      | nil =>
          have hdigitsOf : digitsOf ([first] ++ rest) = c :: tail.takeWhile isxdigit := by
            rw [digitsOf, hpair, htext]
            show (c :: tail).takeWhile isxdigit = _
            rw [List.takeWhile_cons, if_pos hc]
          rw [hdigitsOf, hpair]
          refine ⟨List.cons_ne_nil _ _, ?_⟩
          simp only [List.length_cons, List.length_nil]
          omega
  · have hread : prefixOf ([0x30, 0x78] ++ (first :: others ++ rest)) = [0x30, 0x78] := by
      simp [prefixOf, prefixes, hfirst]
    rw [digitsOf, hread, List.drop_left, hscan]
    simp
  · have hread : prefixOf ([0x30, 0x58] ++ (first :: others ++ rest)) = [0x30, 0x58] := by
      simp [prefixOf, prefixes, hfirst]
    rw [digitsOf, hread, List.drop_left, hscan]
    simp

theorem strtol_of_number (m : HexNumber) (rest : List UInt8) :
    ∃ n, strtol (m.text ++ rest) = some n ∧ m.text.length ≤ n.text.length := by
  have hassoc : m.text ++ rest = m.blanks ++ (m.sign ++ (m.pre ++ (m.digits ++ rest))) := by
    simp [HexNumber.text]
  -- the blanks and the sign are those of `m`; what is behind them can only be longer
  obtain ⟨hblanks, hsign, hbehind⟩ := behindSign_append m.blanks_space m.sign_mem
    (prefix_starts rest m.pre_mem m.digits_hex m.digits_ne)
  obtain ⟨hdigits, hlength⟩ := digitsOf_append rest m.pre_mem m.digits_hex m.digits_ne
  rw [hassoc]
  cases hread : strtol (m.blanks ++ (m.sign ++ (m.pre ++ (m.digits ++ rest)))) with
  | none =>
      rw [strtol_eq_none, hbehind] at hread
      exact absurd hread hdigits
  | some n =>
      refine ⟨n, rfl, ?_⟩
      obtain ⟨hblanks', hsign', hpre', hdigits'⟩ := strtol_parts hread
      rw [hblanks] at hblanks'
      rw [hsign] at hsign'
      rw [hbehind] at hpre' hdigits'
      simp only [HexNumber.text, List.length_append, hblanks', hsign', hpre', hdigits']
      omega

/-- Nothing is read if no beginning of the text is a number. -/
theorem strtol_none {text : List UInt8} (h : strtol text = none) (m : HexNumber) :
    ¬ m.text <+: text := by
  rintro ⟨rest, rfl⟩
  obtain ⟨n, hread, -⟩ := strtol_of_number m rest
  rw [h] at hread
  cases hread

/-- What is read is the longest beginning of the text that is a number. -/
theorem strtol_longest {text : List UInt8} {n : HexNumber} (h : strtol text = some n)
    (m : HexNumber) (hm : m.text <+: text) : m.text.length ≤ n.text.length := by
  obtain ⟨rest, rfl⟩ := hm
  obtain ⟨n', hread, hlength⟩ := strtol_of_number m rest
  cases h.symm.trans hread
  exact hlength

/-! ## Single digits -/

theorem digitValue_lt {c : UInt8} (h : isxdigit c = true) : digitValue c < 16 := by
  simp only [isxdigit, Bool.or_eq_true, Bool.and_eq_true, decide_eq_true_eq,
    UInt8.le_iff_toNat_le] at h
  simp only [digitValue, UInt8.le_iff_toNat_le]
  simp at h ⊢
  split
  · omega
  · split <;> omega

/-- The digits bound the value. -/
theorem HexNumber.value_lt (n : HexNumber) :
    -(16 ^ n.digits.length : Int) < n.value ∧ n.value < 16 ^ n.digits.length := by
  have hdigit : ∀ d ∈ n.digits.reverse.map digitValue, d < 16 := by
    intro d hd
    obtain ⟨c, hc, rfl⟩ := List.mem_map.mp hd
    exact digitValue_lt (n.digits_hex c (List.mem_reverse.mp hc))
  have hlt := Nat.ofDigits_lt_base_pow_length (by decide) hdigit
  rw [List.length_map, List.length_reverse] at hlt
  have hcast : (n.magnitude : Int) < 16 ^ n.digits.length := by exact_mod_cast hlt
  unfold HexNumber.value
  split <;> omega

/-- A digit, with something behind it that does not continue it, is a number. -/
theorem strtol_digit {c : UInt8} (hc : isxdigit c = true) {rest : List UInt8}
    (hrest : ∀ s ∈ rest.head?, isxdigit s = false ∧ [0x30, s] ∉ prefixes) :
    ∃ n, strtol (c :: rest) = some n ∧ n.text = [c] ∧ n.value = digitValue c := by
  obtain ⟨hspace, hsign, -, -⟩ := isxdigit_starts hc
  have hstarts : Starts (c :: rest) := fun s hs => by cases hs; exact ⟨hspace, hsign⟩
  obtain ⟨hblanks, hsignOf, hbehind⟩ :=
    @behindSign_append [] [] (c :: rest) (fun _ h => nomatch h) (List.mem_cons_self ..) hstarts
  rw [List.nil_append, List.nil_append] at hblanks hsignOf hbehind
  have hprefix : prefixOf (c :: rest) = [] := by
    by_contra hne
    obtain ⟨zero, x, d, tail, htext, -, -, hpair⟩ := prefixOf_cases hne
    obtain ⟨rfl, rfl⟩ := List.cons.inj htext
    have hmem := prefixOf_mem (c :: x :: d :: tail)
    rw [hpair] at hmem
    refine (hrest x rfl).2 (mem_prefixes.mpr ?_)
    rcases mem_prefixes.mp hmem with hnil | heq | heq
    · cases hnil
    · cases heq
      exact .inr (.inl rfl)
    · cases heq
      exact .inr (.inr rfl)
  have hdigits : digitsOf (c :: rest) = [c] := by
    rw [digitsOf, hprefix, List.length_nil, List.drop_zero, List.takeWhile_cons, if_pos hc,
      (scan_head fun s hs => (hrest s hs).1).1]
  cases hread : strtol (c :: rest) with
  | none =>
      rw [strtol_eq_none, hbehind, hdigits] at hread
      cases hread
  | some n =>
      obtain ⟨hb, hs, hp, hd⟩ := strtol_parts hread
      rw [hblanks] at hb
      rw [hsignOf] at hs
      rw [hbehind, hprefix] at hp
      rw [hbehind, hdigits] at hd
      refine ⟨n, rfl, by rw [HexNumber.text, hb, hs, hp, hd]; rfl, ?_⟩
      rw [HexNumber.value, hs, if_neg (by simp), HexNumber.magnitude, hd]
      simp

end HexText
