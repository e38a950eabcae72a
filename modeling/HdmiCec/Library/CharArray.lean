import Mathlib.Data.List.TakeWhile

/-!
# Strings in character arrays

A character array is a list of bytes, and its string ends before the first zero.  The
functions return nothing when they would leave the array.

* `appendTexts_holds`: a loop that prints behind what is there already never leaves the
  array, and keeps the front part of the whole text;
* `strncpy_holds`: a bounded copy in front of a byte that is zero.
-/

namespace CharArray

variable {buf buf' out out' s : List UInt8}

/-- What the array says, up to the terminator if there is one. -/
def text (buf : List UInt8) : List UInt8 := buf.takeWhile (· != 0)

/-- `strlen(buf)`. -/
def strlen (buf : List UInt8) : Option Nat := if 0 ∈ buf then some (text buf).length else none

/-- The bytes from `pos` on are replaced. -/
def store (buf : List UInt8) (pos : Nat) (out : List UInt8) : Option (List UInt8) :=
  if pos + out.length ≤ buf.length then
    some (buf.take pos ++ (out ++ buf.drop (pos + out.length)))
  else
    none

/-- `snprintf(buf + pos, size, …)`, where the whole text would be `out`. -/
def snprintf (buf : List UInt8) (pos size : Nat) (out : List UInt8) : Option (List UInt8) :=
  if size = 0 then some buf else store buf pos (out.take (size - 1) ++ [0])

/-- `snprintf(buf + strlen(buf), sizeof(buf) - strlen(buf), …)`. -/
def appendText (buf out : List UInt8) : Option (List UInt8) := do
  let len ← strlen buf
  snprintf buf len (buf.length - len) out

/-- A loop of these. -/
def appendTexts : List (List UInt8) → List UInt8 → Option (List UInt8)
  | [], buf => some buf
  | out :: rest, buf => do
      let buf ← appendText buf out
      appendTexts rest buf

/-- `strncpy(buf, src, n)` for a string `src`: zeroes follow it up to `n`. -/
def strncpy (buf src : List UInt8) (n : Nat) : Option (List UInt8) :=
  store buf 0 (src.take n ++ List.replicate (n - src.length) 0)

/-- An array of this size that says `s`. -/
structure Holds (size : Nat) (buf s : List UInt8) : Prop where
  size : buf.length = size
  terminated : 0 ∈ buf
  text : text buf = s

/-! ## What an array says -/

theorem text_ne_zero {byte : UInt8} (h : byte ∈ text buf) : byte ≠ 0 := by
  have hp := List.mem_takeWhile_imp h
  simpa using hp

/-- A string and its terminator, whatever is behind. -/
theorem text_append (hs : ∀ byte ∈ s, byte ≠ 0) (rest : List UInt8) :
    text (s ++ 0 :: rest) = s := by
  have hkeep : ∀ byte ∈ s, (byte != 0) = true := by
    intro byte hbyte
    simpa using hs byte hbyte
  rw [text, List.takeWhile_append_of_pos hkeep]
  simp

/-- The front part of a terminated array. -/
theorem text_lt (h : 0 ∈ buf) : (text buf).length < buf.length := by
  induction buf with
  | nil => cases h
  | cons byte rest ih =>
      by_cases hzero : byte = 0
      · simp [text, hzero]
      · have hrest : 0 ∈ rest := by
          rcases List.mem_cons.mp h with heq | hmem
          · exact absurd heq.symm hzero
          · exact hmem
        have htext : text (byte :: rest) = byte :: text rest := by simp [text, hzero]
        rw [htext, List.length_cons, List.length_cons]
        exact Nat.succ_lt_succ (ih hrest)

theorem take_text (buf : List UInt8) : buf.take (text buf).length = text buf :=
  (List.prefix_iff_eq_take.mp (List.takeWhile_prefix _)).symm

theorem Holds.lt {size : Nat} (h : Holds size buf s) : s.length < size := by
  rw [← h.size, ← h.text]
  exact text_lt h.terminated

theorem Holds.ne_zero {size : Nat} (h : Holds size buf s) : ∀ byte ∈ s, byte ≠ 0 := by
  intro byte hbyte
  rw [← h.text] at hbyte
  exact text_ne_zero hbyte

/-- What `%s` prints of an array. -/
theorem Holds.strlen_eq {size : Nat} (h : Holds size buf s) :
    strlen buf = some s.length ∧ buf.take s.length = s := by
  constructor
  · rw [strlen, if_pos h.terminated, h.text]
  · rw [← h.text]
    exact take_text buf

/-- A call at the beginning of an array. -/
theorem snprintf_holds {size : Nat} (hsize : 0 < size) (hfits : size ≤ buf.length)
    (hout : ∀ byte ∈ out, byte ≠ 0) :
    ∃ buf', snprintf buf 0 size out = some buf' ∧
      Holds buf.length buf' (out.take (size - 1)) := by
  -- the terminator is counted in `size`
  have hroom : 0 + (out.take (size - 1) ++ [0]).length ≤ buf.length := by
    rw [List.length_append, List.length_take, List.length_singleton]
    omega
  refine ⟨out.take (size - 1) ++ 0 :: buf.drop (0 + (out.take (size - 1) ++ [0]).length), ?_,
    ?_, ?_, ?_⟩
  · rw [snprintf, if_neg (by omega), store, if_pos hroom, List.take_zero, List.nil_append,
      List.append_assoc]
    rfl
  · simp only [List.length_append, List.length_cons, List.length_drop, List.length_nil] at hroom ⊢
    omega
  · simp
  · exact text_append (fun byte hbyte => hout byte (List.mem_of_mem_take hbyte)) _

/-! ## Printing behind a string -/

theorem take_append_take (s out out' : List UInt8) (n : Nat) :
    ((s ++ out).take n ++ out').take n = (s ++ out ++ out').take n := by
  rcases Nat.le_total (s ++ out).length n with hle | hle
  · rw [List.take_of_length_le hle]
  · have hfull : ((s ++ out).take n).length = n := by
      rw [List.length_take, Nat.min_eq_left hle]
    rw [List.take_append_of_le_length (Nat.le_of_eq hfull.symm), List.take_take, Nat.min_self,
      List.take_append_of_le_length hle]

/-- One call stores inside the array, and cuts off what does not fit. -/
theorem appendText_holds {size : Nat} (h : Holds size buf s) (hout : ∀ byte ∈ out, byte ≠ 0) :
    ∃ buf', appendText buf out = some buf' ∧ Holds size buf' ((s ++ out).take (size - 1)) := by
  have hlt := h.lt
  obtain ⟨hlen, hfront⟩ := h.strlen_eq
  let cut := out.take (size - s.length - 1)
  have hcut : s ++ cut = (s ++ out).take (size - 1) := by
    rw [List.take_append, List.take_of_length_le (by omega)]
    show s ++ out.take _ = _
    rw [Nat.sub_right_comm]
  have hroom : s.length + (cut ++ [0]).length ≤ buf.length := by
    rw [h.size, List.length_append, List.length_take, List.length_singleton]
    omega
  have hstored : appendText buf out =
      some (s ++ cut ++ 0 :: buf.drop (s.length + (cut ++ [0]).length)) := by
    simp only [appendText, hlen, Option.bind_eq_bind, Option.bind_some, snprintf, h.size]
    rw [if_neg (by omega), store, if_pos hroom, hfront]
    simp only [List.append_assoc, List.singleton_append]
    rfl
  refine ⟨_, hstored, ?_, ?_, ?_⟩
  · have hdrop := h.size
    simp only [List.length_append, List.length_cons, List.length_drop, List.length_nil] at hroom ⊢
    omega
  · simp
  · rw [text_append, hcut]
    intro byte hbyte
    rcases List.mem_append.mp hbyte with hold | hnew
    · exact h.ne_zero byte hold
    · exact hout byte (List.mem_of_mem_take hnew)

/-- The loop never leaves the array, and ends with the front part of the whole text. -/
theorem appendTexts_holds {size : Nat} (outs : List (List UInt8)) (h : Holds size buf s)
    (houts : ∀ out ∈ outs, ∀ byte ∈ out, byte ≠ 0) :
    ∃ buf', appendTexts outs buf = some buf' ∧
      Holds size buf' ((s ++ outs.flatten).take (size - 1)) := by
  -- each turn cuts off at the same place, so the cuts add up to one
  induction outs generalizing buf s with
  | nil =>
      have hshort : s.length ≤ size - 1 := Nat.le_sub_one_of_lt h.lt
      refine ⟨buf, rfl, ?_⟩
      rw [List.flatten_nil, List.append_nil, List.take_of_length_le hshort]
      exact h
  | cons out rest ih =>
      obtain ⟨buf₁, happend, hholds⟩ := appendText_holds h (houts out List.mem_cons_self)
      obtain ⟨buf', hrest, hholds'⟩ :=
        ih hholds fun out' hmem => houts out' (List.mem_cons_of_mem _ hmem)
      refine ⟨buf', ?_, ?_⟩
      · rw [appendTexts, happend]
        exact hrest
      · rw [take_append_take] at hholds'
        rw [List.flatten_cons, ← List.append_assoc]
        exact hholds'

/-! ## A bounded copy -/

/-- What is behind the terminator does not matter. -/
theorem text_append_of_mem (h : 0 ∈ buf) (rest : List UInt8) : text (buf ++ rest) = text buf := by
  induction buf with
  | nil => cases h
  | cons byte front ih =>
      by_cases hzero : byte = 0
      · simp [text, hzero]
      · have hfront : 0 ∈ front := by
          rcases List.mem_cons.mp h with heq | hmem
          · exact absurd heq.symm hzero
          · exact hmem
        have hrest : text (front ++ rest) = text front := ih hfront
        simpa [text, hzero] using hrest

/-- A zero that the copy does not reach ends the string of a source that is too long. -/
theorem strncpy_holds {n : Nat} {src : List UInt8} (hlast : buf[n]? = some 0)
    (hsrc : ∀ byte ∈ src, byte ≠ 0) :
    ∃ buf', strncpy buf src n = some buf' ∧ Holds buf.length buf' (src.take n) ∧
      buf'[n]? = some 0 := by
  obtain ⟨hn, hzero⟩ := List.getElem?_eq_some_iff.mp hlast
  have hdrop : buf.drop n = 0 :: buf.drop (n + 1) := by
    rw [List.drop_eq_getElem_cons hn, hzero]
  have hfill : (src.take n ++ List.replicate (n - src.length) 0).length = n := by
    rw [List.length_append, List.length_take, List.length_replicate]
    omega
  have hstored : strncpy buf src n = some (src.take n ++ List.replicate (n - src.length) 0 ++
      0 :: buf.drop (n + 1)) := by
    rw [strncpy, store, if_pos (by omega), hfill, Nat.zero_add, hdrop]
    rfl
  refine ⟨_, hstored, ⟨?_, by simp, ?_⟩, ?_⟩
  · rw [List.length_append, hfill, List.length_cons, List.length_drop]
    omega
  · -- the terminator is the first zero of the filling, or the one behind it
    rw [List.append_assoc]
    have hnonzero : ∀ byte ∈ src.take n, byte ≠ 0 := fun byte hbyte =>
      hsrc byte (List.mem_of_mem_take hbyte)
    cases n - src.length with
    | zero => exact text_append hnonzero _
    | succ k => exact text_append hnonzero _
  · rw [List.getElem?_append_right (Nat.le_of_eq hfill), hfill, Nat.sub_self]
    rfl

/-- One byte is stored behind the terminator. -/
theorem Holds.set_behind {size i : Nat} (h : Holds size buf s) (hbehind : 0 ∈ buf.take i)
    (byte : UInt8) : Holds size (buf.set i byte) s := by
  by_cases hi : i < buf.length
  · have hset : buf.set i byte = buf.take i ++ byte :: buf.drop (i + 1) :=
      List.set_eq_take_append_cons_drop.trans (if_pos hi)
    refine ⟨?_, ?_, ?_⟩
    · rw [List.length_set, h.size]
    · rw [hset]
      exact List.mem_append_left _ hbehind
    · have htext := h.text
      rw [← List.take_append_drop i buf, text_append_of_mem hbehind] at htext
      rw [hset, text_append_of_mem hbehind, htext]
  · rw [List.set_eq_of_length_le (Nat.le_of_not_lt hi)]
    exact h

/-- The first byte is set to zero. -/
theorem Holds.clear {size : Nat} (h : Holds size buf s) : Holds size (buf.set 0 0) [] := by
  cases buf with
  | nil => cases h.terminated
  | cons byte rest => exact ⟨h.size, by simp, by simp [CharArray.text]⟩

end CharArray
