import HdmiCec.Core.Exception

/-!
# `CECFrame`: a byte buffer of fixed capacity

The class keeps an array `buf_` of 128 bytes and a fill level `len_`.  The
model keeps both, with the size of the array and the bound on the level as
fields, so that a frame with more than 128 bytes cannot be built.

`CECFrame.bytes` is the abstraction: the list of the bytes in use, which is
what `getBuffer(&buf, &len)` exposes.  The lemmas of this file state every
operation on that list, and nothing below this file looks at `buf_` again
except where the source does (`Connection::matchSource` writes `buf[0]`
whatever the length is).
-/

namespace HdmiCec

/-- `CECFrame::MAX_LENGTH`. -/
def CECFrame.maxLength : Nat := 128

/-- The class `CECFrame`: the array and its fill level. -/
structure CECFrame where
  buf_ : List UInt8
  len_ : Nat
  buf_length : buf_.length = CECFrame.maxLength
  len_le : len_ ≤ CECFrame.maxLength
  deriving DecidableEq

namespace CECFrame

/-- `CECFrame()`: an empty frame.  The constructor leaves `buf_` as it finds
it; the model fills it with zeroes. -/
def empty : CECFrame where
  buf_ := List.replicate maxLength 0
  len_ := 0
  buf_length := List.length_replicate
  len_le := Nat.zero_le _

/-- The frame of the given bytes, with zeroes behind them. -/
def ofBytes (bytes : List UInt8) (h : bytes.length ≤ maxLength) : CECFrame where
  buf_ := bytes ++ List.replicate (maxLength - bytes.length) 0
  len_ := bytes.length
  buf_length := by rw [List.length_append, List.length_replicate]; omega
  len_le := h

/-- `length()`. -/
def length (frame : CECFrame) : Nat := frame.len_

/-- The bytes in use, as `getBuffer(&buf, &len)` hands them out. -/
def bytes (frame : CECFrame) : List UInt8 := frame.buf_.take frame.len_

/-- `append(uint8_t byte)`. -/
def append (frame : CECFrame) (byte : UInt8) : Result CECFrame :=
  if h : frame.len_ = maxLength then
    throwing .outOfRange
  else
    .ok
      { buf_ := frame.buf_.set frame.len_ byte
        len_ := frame.len_ + 1
        buf_length := by rw [List.length_set]; exact frame.buf_length
        len_le := by have := frame.len_le; omega }

/-- `append(const uint8_t *buf, size_t len)`: byte by byte, so that a throw
leaves behind the frame filled so far. -/
def appendBuf (frame : CECFrame) : List UInt8 → CECFrame × Result Unit
  | [] => (frame, .ok ())
  | byte :: rest =>
      match frame.append byte with
      | .ok frame' => frame'.appendBuf rest
      | .error r => (frame, .error r)

/-- `append(buf, len)` for a caller that loses the frame when it throws. -/
def appendAll (frame : CECFrame) (buf : List UInt8) : Result CECFrame :=
  match frame.appendBuf buf with
  | (frame', .ok ()) => .ok frame'
  | (_, .error r) => .error r

/-- `at(size_t i)`. -/
def at' (frame : CECFrame) (i : Nat) : Result UInt8 :=
  if i ≥ frame.len_ then throwing .outOfRange else .ok (frame.buf_.getD i 0)

/-- `operator[](i) = byte`. -/
def setAt (frame : CECFrame) (i : Nat) (byte : UInt8) : Result CECFrame :=
  if i ≥ frame.len_ then
    throwing .outOfRange
  else
    .ok { frame with
      buf_ := frame.buf_.set i byte
      buf_length := by rw [List.length_set]; exact frame.buf_length }

/-- The loop of `subFrame`; `len` is the counter that `len--` tests. -/
def subFrameLoop (source : CECFrame) :
    CECFrame → (start len : Nat) → Result CECFrame
  | frame, _, 0 => .ok frame
  | frame, start, len + 1 =>
      if start < source.len_ then
        match source.at' start with
        | .error r => .error r
        | .ok byte =>
            match frame.append byte with
            | .error r => .error r
            | .ok frame' => subFrameLoop source frame' (start + 1) len
      else
        .ok frame

/-- `subFrame(size_t start, size_t len = 0)`; a zero `len` means no cut. -/
def subFrame (frame : CECFrame) (start : Nat) (len : Nat) : Result CECFrame :=
  subFrameLoop frame empty start (if len = 0 then maxLength else len)

/-! ## The operations on the list of bytes -/

@[simp] theorem bytes_length (frame : CECFrame) :
    frame.bytes.length = frame.length := by
  have h := frame.len_le
  rw [bytes, List.length_take, frame.buf_length, length]
  omega

theorem length_le (frame : CECFrame) : frame.length ≤ 128 := frame.len_le

@[simp] theorem bytes_empty : empty.bytes = [] := rfl

@[simp] theorem length_empty : empty.length = 0 := rfl

/-- `Extends frame suffix r`: the call ended with the bytes of `frame`
followed by `suffix`. -/
def Extends (frame : CECFrame) (suffix : List UInt8) (r : Result CECFrame) : Prop :=
  ∃ frame', r = .ok frame' ∧ frame'.bytes = frame.bytes ++ suffix

theorem Extends.refl (frame : CECFrame) : Extends frame [] (.ok frame) :=
  ⟨frame, rfl, by simp⟩

/-- Two appends in a row extend the frame by both suffixes. -/
theorem Extends.bind {frame : CECFrame} {a b : List UInt8} {r : Result CECFrame}
    {next : CECFrame → Result CECFrame} (h : Extends frame a r)
    (hnext : ∀ frame' : CECFrame, frame'.length = frame.length + a.length →
      Extends frame' b (next frame')) :
    Extends frame (a ++ b) (r >>= next) := by
  obtain ⟨middle, rfl, hmiddle⟩ := h
  have hlength : middle.length = frame.length + a.length := by
    rw [← bytes_length, hmiddle, List.length_append, bytes_length]
  obtain ⟨last, hlast, hbytes⟩ := hnext middle hlength
  exact ⟨last, hlast, by rw [hbytes, hmiddle, List.append_assoc]⟩

theorem append_extends (frame : CECFrame) (byte : UInt8) (h : frame.length < 128) :
    Extends frame [byte] (frame.append byte) := by
  have hne : frame.len_ ≠ maxLength := by
    unfold length at h
    unfold maxLength
    omega
  refine ⟨_, dif_neg hne, ?_⟩
  have hlt : frame.len_ < frame.buf_.length := by
    rw [frame.buf_length]
    exact h
  change (frame.buf_.set frame.len_ byte).take (frame.len_ + 1) =
    frame.buf_.take frame.len_ ++ [byte]
  rw [List.take_succ_eq_append_getElem (by rw [List.length_set]; exact hlt)]
  rw [List.getElem_set_self, List.take_set_of_le (Nat.le_refl _)]

theorem append_full (frame : CECFrame) (byte : UInt8) (h : frame.length = 128) :
    frame.append byte = throwing .outOfRange :=
  dif_pos h

/-- Appending what fits adds exactly those bytes. -/
theorem appendBuf_fits (buf : List UInt8) (frame : CECFrame)
    (h : frame.length + buf.length ≤ 128) :
    ∃ frame', frame.appendBuf buf = (frame', .ok ()) ∧
      frame'.bytes = frame.bytes ++ buf := by
  induction buf generalizing frame with
  | nil => exact ⟨frame, rfl, by simp⟩
  | cons byte rest ih =>
      rw [List.length_cons] at h
      obtain ⟨next, happend, hbytes⟩ := append_extends frame byte (by omega)
      have hnext : next.length = frame.length + 1 := by
        rw [← bytes_length, hbytes]
        simp
      obtain ⟨last, hrest, hlast⟩ := ih next (by omega)
      refine ⟨last, ?_, ?_⟩
      · rw [appendBuf, happend]
        exact hrest
      · rw [hlast, hbytes, List.append_assoc, List.singleton_append]

/-- Appending what does not fit throws `std::out_of_range`. -/
theorem appendBuf_overflows (buf : List UInt8) (frame : CECFrame)
    (h : 128 < frame.length + buf.length) :
    (frame.appendBuf buf).2 = throwing .outOfRange := by
  induction buf generalizing frame with
  | nil =>
      have := frame.length_le
      simp at h
      omega
  | cons byte rest ih =>
      by_cases hfull : frame.length = 128
      · rw [appendBuf, append_full frame byte hfull]
        rfl
      · have hle := frame.length_le
        obtain ⟨next, happend, hbytes⟩ := append_extends frame byte (by omega)
        have hnext : next.length = frame.length + 1 := by
          rw [← bytes_length, hbytes]
          simp
        rw [appendBuf, happend]
        rw [List.length_cons] at h
        exact ih next (by omega)

theorem appendAll_extends (frame : CECFrame) (buf : List UInt8)
    (h : frame.length + buf.length ≤ 128) :
    Extends frame buf (frame.appendAll buf) := by
  obtain ⟨frame', happend, hbytes⟩ := appendBuf_fits buf frame h
  exact ⟨frame', by rw [appendAll, happend], hbytes⟩

theorem appendAll_overflows (frame : CECFrame) (buf : List UInt8)
    (h : 128 < frame.length + buf.length) :
    frame.appendAll buf = throwing .outOfRange := by
  have h2 := appendBuf_overflows buf frame h
  rcases hp : frame.appendBuf buf with ⟨frame', r⟩
  rw [hp] at h2
  change r = throwing .outOfRange at h2
  subst h2
  rw [appendAll, hp]
  rfl

/-- `at` reads the list of bytes, and throws past its end. -/
theorem at'_eq (frame : CECFrame) (i : Nat) :
    frame.at' i =
      match frame.bytes[i]? with
      | some byte => .ok byte
      | none => throwing .outOfRange := by
  unfold at' bytes
  rw [List.getElem?_take]
  by_cases h : i < frame.len_
  · have hlt : i < frame.buf_.length := by
      have := frame.len_le
      rw [frame.buf_length]
      omega
    rw [if_neg (by omega), if_pos h, List.getElem?_eq_getElem hlt]
    simp [List.getD, hlt]
  · rw [if_pos (by omega), if_neg h]

/-- Inside the frame `at` returns. -/
theorem at'_returns {frame : CECFrame} {i : Nat} (h : i < frame.length) :
    ∃ byte, frame.at' i = .ok byte :=
  ⟨_, if_neg (Nat.not_le.mpr h)⟩

theorem setAt_bytes (frame : CECFrame) (i : Nat) (byte : UInt8)
    (h : i < frame.length) :
    ∃ frame', frame.setAt i byte = .ok frame' ∧
      frame'.bytes = frame.bytes.set i byte := by
  refine ⟨_, if_neg (Nat.not_le.mpr h), ?_⟩
  exact List.take_set

theorem subFrameLoop_bytes (source : CECFrame) (len : Nat) :
    ∀ (frame : CECFrame) (start : Nat), frame.length ≤ start →
      Extends frame ((source.bytes.drop start).take len)
        (subFrameLoop source frame start len) := by
  induction len with
  | zero => intro frame start _; exact ⟨frame, rfl, by simp⟩
  | succ len ih =>
      intro frame start hle
      have hsource := source.length_le
      by_cases hlt : start < source.len_
      · have hget : start < source.bytes.length := by
          rw [bytes_length]
          exact hlt
        have hat : source.at' start = .ok source.bytes[start] := by
          rw [at'_eq, List.getElem?_eq_getElem hget]
        obtain ⟨next, happend, hbytes⟩ :=
          append_extends frame source.bytes[start] (by rw [bytes_length] at hget; omega)
        have hnext : next.length = frame.length + 1 := by
          rw [← bytes_length, hbytes]
          simp
        obtain ⟨last, hloop, hlast⟩ := ih next (start + 1) (by omega)
        refine ⟨last, ?_, ?_⟩
        · rw [subFrameLoop, if_pos hlt, hat]
          dsimp only
          rw [happend]
          exact hloop
        · rw [hlast, hbytes, List.append_assoc, List.singleton_append]
          rw [List.drop_eq_getElem_cons hget, List.take_succ_cons]
      · refine ⟨frame, by rw [subFrameLoop, if_neg hlt], ?_⟩
        have hdrop : source.bytes.drop start = [] := by
          apply List.drop_eq_nil_of_le
          rw [bytes_length]
          exact Nat.not_lt.mp hlt
        rw [hdrop]
        simp

/-- `subFrame` never throws: it drops `start` bytes and keeps `len` of the
rest, all of it when `len` is zero. -/
theorem subFrame_bytes (frame : CECFrame) (start len : Nat) :
    ∃ frame', frame.subFrame start len = .ok frame' ∧
      frame'.bytes = (frame.bytes.drop start).take (if len = 0 then maxLength else len) := by
  obtain ⟨frame', hloop, hbytes⟩ :=
    subFrameLoop_bytes frame (if len = 0 then maxLength else len) empty start
      (Nat.zero_le _)
  exact ⟨frame', hloop, by simpa using hbytes⟩

end CECFrame

end HdmiCec
