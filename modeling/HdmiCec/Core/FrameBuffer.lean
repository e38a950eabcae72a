import HdmiCec.Core.CECFrame
import HdmiCec.Library.BoundedList
import Mathlib.Logic.Function.Basic

/-!
# `CECFrame` refines a bounded byte list

`CECFrame` keeps its invariant in its fields.  `RawFrame` is the object as C++ has it: an
array of 128 bytes that no constructor initialises and a fill level that nothing bounds.
Every access of the array is checked, and one outside is undefined.  A program over
variables that hold such objects is compared with the same program over lists of at most
128 bytes, on which each operation is one list operation.
-/

universe u

namespace HdmiCec

/-- The object of class `CECFrame`. -/
structure RawFrame where
  buf_ : Vector UInt8 128
  len_ : Nat

namespace RawFrame

/-- Read `buf_[i]`. -/
def load (f : RawFrame) (i : Nat) : Result UInt8 :=
  match f.buf_[i]? with
  | some byte => .ok byte
  | none => .error .undefined

/-- `buf_[i] = byte`. -/
def store (f : RawFrame) (i : Nat) (byte : UInt8) : Result RawFrame :=
  if h : i < 128 then .ok { f with buf_ := f.buf_.set i byte } else .error .undefined

/-- `append(uint8_t byte)`. -/
def append (f : RawFrame) (byte : UInt8) : Result RawFrame :=
  if f.len_ = CECFrame.maxLength then
    throwing .outOfRange
  else do
    let f' ← f.store f.len_ byte
    return { f' with len_ := f.len_ + 1 }

/-- What `const uint8_t *buf` points to: bytes of the caller, the array of another frame, or
the array of the frame that is appended to. -/
inductive Pointer where
  | array (bytes : List UInt8)
  | frame (other : RawFrame)
  | this

/-- `buf[i]`, when `f` is the frame that is appended to. -/
def Pointer.read (f : RawFrame) (i : Nat) : Pointer → Result UInt8
  | .array bytes =>
      match bytes[i]? with
      | some byte => .ok byte
      | none => .error .undefined
  | .frame other => other.load i
  | .this => f.load i

/-- The loop of `append(const uint8_t *buf, size_t len)`, with `n` turns to go at `i`.  A
throw leaves behind what has been appended. -/
def appendLoop (buf : Pointer) (f : RawFrame) : (i n : Nat) → RawFrame × Result Unit
  | _, 0 => (f, .ok ())
  | i, n + 1 =>
      match buf.read f i with
      | .error r => (f, .error r)
      | .ok byte =>
          match f.append byte with
          | .error r => (f, .error r)
          | .ok f' => appendLoop buf f' (i + 1) n

/-- `append(const uint8_t *buf, size_t len)`. -/
def appendBuf (f : RawFrame) (buf : Pointer) (len : Nat) : RawFrame × Result Unit :=
  appendLoop buf f 0 len

/-- `append(const CECFrame &frame)`, where `other` is `none` when `frame` is the frame
itself.  The length is read once. -/
def appendFrame (f : RawFrame) : Option RawFrame → RawFrame × Result Unit
  | some other => f.appendBuf (.frame other) other.len_
  | none => f.appendBuf .this f.len_

/-- `CECFrame(const uint8_t *buf, size_t len)`, on memory that holds `garbage`. -/
def construct (garbage : Vector UInt8 128) (buf : Option (List UInt8)) :
    RawFrame × Result Unit :=
  let f : RawFrame := { buf_ := garbage, len_ := 0 }
  match buf with
  | none => (f, .ok ())
  | some bytes =>
      if bytes.length > 0 then f.appendBuf (.array bytes) bytes.length else (f, .ok ())

/-- `reset()`. -/
def reset (f : RawFrame) : RawFrame := { f with len_ := 0 }

/-- `length()`. -/
def length (f : RawFrame) : Nat := f.len_

/-- `at(size_t i)`. -/
def at' (f : RawFrame) (i : Nat) : Result UInt8 :=
  if i ≥ f.len_ then throwing .outOfRange else f.load i

/-- `operator[](i) = byte`. -/
def setAt (f : RawFrame) (i : Nat) (byte : UInt8) : Result RawFrame :=
  if i ≥ f.len_ then throwing .outOfRange else f.store i byte

/-- The `n` bytes from `i` on, read through the pointer of `getBuffer`. -/
def readFrom (f : RawFrame) : (i n : Nat) → Result (List UInt8)
  | _, 0 => .ok []
  | i, n + 1 => do
      let byte ← f.load i
      let rest ← readFrom f (i + 1) n
      return byte :: rest

/-- The bytes that `getBuffer(&buf, &len)` hands out. -/
def getBuffer (f : RawFrame) : Result (List UInt8) := f.readFrom 0 f.len_

/-- The loop of `subFrame`; `len` is the counter that `len--` tests. -/
def subFrameLoop (f : RawFrame) : RawFrame → (start len : Nat) → Result RawFrame
  | frame, _, 0 => .ok frame
  | frame, start, len + 1 =>
      if start < f.len_ then do
        let byte ← f.at' start
        let frame' ← frame.append byte
        subFrameLoop f frame' (start + 1) len
      else
        .ok frame

/-- `subFrame(size_t start, size_t len = 0)`, whose local frame finds `garbage`. -/
def subFrame (f : RawFrame) (garbage : Vector UInt8 128) (start len : Nat) : Result RawFrame :=
  f.subFrameLoop { buf_ := garbage, len_ := 0 } start
    (if len = 0 then CECFrame.maxLength else len)

end RawFrame

/-! ## Programs -/

/-- The operations on frames in variables `V`.  A constructor and `subFrame` make a new
object on whatever the memory holds. -/
inductive FrameOp (V : Type u) where
  | construct (v : V) (garbage : Vector UInt8 128) (buf : Option (List UInt8))
  | append (v : V) (byte : UInt8)
  | appendBuf (v : V) (buf : List UInt8)
  | appendFrame (v w : V)
  | subFrame (v w : V) (garbage : Vector UInt8 128) (start len : Nat)
  | reset (v : V)
  | write (v : V) (i : Nat) (byte : UInt8)

section Programs

variable {V : Type u} [DecidableEq V]

/-- An object that could not be made is not assigned. -/
def assign {α : Type} (vars : V → α) (v : V) : Result α → (V → α) × Result Unit
  | .ok a => (Function.update vars v a, .ok ())
  | .error r => (vars, .error r)

/-- The program over `CECFrame` objects. -/
def rawMachine : Machine (V → RawFrame) (FrameOp V) (Result Unit) where
  step frames
    | .construct v garbage buf =>
        match RawFrame.construct garbage buf with
        | (f, .ok ()) => assign frames v (.ok f)
        | (_, .error r) => assign frames v (.error r)
    | .append v byte => assign frames v ((frames v).append byte)
    | .appendBuf v buf =>
        let (f, r) := (frames v).appendBuf (.array buf) buf.length
        (Function.update frames v f, r)
    | .appendFrame v w =>
        let (f, r) := (frames v).appendFrame (if w = v then none else some (frames w))
        (Function.update frames v f, r)
    | .subFrame v w garbage start len =>
        assign frames v ((frames w).subFrame garbage start len)
    | .reset v => (Function.update frames v (frames v).reset, .ok ())
    | .write v i byte => assign frames v ((frames v).setAt i byte)

/-- A list of at most 128 bytes. -/
abbrev Bytes := BoundedList UInt8 128

/-- `std::out_of_range` unless everything fits. -/
def fitsOrThrows (fits : Bool) : Result Unit := if fits then .ok () else throwing .outOfRange

/-- The list of the variable becomes what an append makes of it. -/
def appendTo (lists : V → Bytes) (v : V) (bytes : List UInt8) : (V → Bytes) × Result Unit :=
  (Function.update lists v ((lists v).append bytes).1, fitsOrThrows ((lists v).append bytes).2)

/-- The same program over lists: what the class is for. -/
def listMachine : Machine (V → Bytes) (FrameOp V) (Result Unit) where
  step lists
    | .construct v _ buf =>
        assign lists v
          (if h : (buf.getD []).length ≤ 128 then .ok ⟨buf.getD [], h⟩ else throwing .outOfRange)
    | .append v byte => appendTo lists v [byte]
    | .appendBuf v buf => appendTo lists v buf
    | .appendFrame v w => appendTo lists v (lists w).items
    | .subFrame v w _ start len =>
        let rest := (lists w).drop start
        (Function.update lists v (if len = 0 then rest else rest.take len), .ok ())
    | .reset v => (Function.update lists v .empty, .ok ())
    | .write v i byte =>
        if i < (lists v).items.length then
          (Function.update lists v ((lists v).set i byte), .ok ())
        else
          (lists, throwing .outOfRange)

end Programs

namespace RawFrame

/-! ## A frame that holds a list -/

/-- The frame has the length of the list, and its array begins with the bytes of the list. -/
structure Holds (f : RawFrame) (l : Bytes) : Prop where
  length : f.len_ = l.items.length
  bytes : ∀ (i : Nat) (byte : UInt8), l.items[i]? = some byte → f.buf_[i]? = some byte

variable {f : RawFrame} {l : Bytes}

/-- A fresh frame holds nothing, whatever is in its array. -/
theorem holds_fresh (garbage : Vector UInt8 128) :
    Holds { buf_ := garbage, len_ := 0 } .empty where
  length := rfl
  bytes := by
    intro i byte hbyte
    rw [BoundedList.empty_items, List.getElem?_nil] at hbyte
    cases hbyte

theorem Holds.load (h : Holds f l) {i : Nat} {byte : UInt8} (hbyte : l.items[i]? = some byte) :
    f.load i = .ok byte := by
  rw [RawFrame.load, h.bytes i byte hbyte]

theorem store_eq (f : RawFrame) {i : Nat} (hi : i < 128) (byte : UInt8) :
    f.store i byte = .ok { f with buf_ := f.buf_.set i byte } :=
  dif_pos hi

/-- A byte is appended to a frame with room; a full frame refuses it. -/
theorem Holds.append (h : Holds f l) (byte : UInt8) :
    (l.items.length < 128 ∧
      ∃ f', f.append byte = .ok f' ∧ Holds f' (l.append [byte]).1) ∨
    (l.items.length = 128 ∧ f.append byte = throwing .outOfRange) := by
  have hle := l.length_le
  by_cases hfull : l.items.length = 128
  · right
    refine ⟨hfull, if_pos ?_⟩
    rw [h.length, hfull]
    rfl
  · left
    have hroom : f.len_ < 128 := by
      rw [h.length]
      omega
    have hne : f.len_ ≠ CECFrame.maxLength := Nat.ne_of_lt hroom
    have hitems : (l.append [byte]).1.items = l.items ++ [byte] := by
      refine (BoundedList.append_fits ?_).1
      rw [List.length_singleton]
      omega
    refine ⟨by omega, { buf_ := f.buf_.set f.len_ byte, len_ := f.len_ + 1 }, ?_, ?_, ?_⟩
    · rw [RawFrame.append, if_neg hne, store_eq f hroom]
      rfl
    · rw [hitems, List.length_append, List.length_singleton, ← h.length]
    · intro i b hb
      rw [hitems] at hb
      show (f.buf_.set f.len_ byte)[i]? = some b
      by_cases hlast : i = f.len_
      · subst hlast
        rw [h.length, List.getElem?_concat_length] at hb
        rw [Vector.getElem?_set_self hroom]
        exact hb
      · rw [Vector.getElem?_set_ne hroom (fun heq => hlast heq.symm)]
        apply h.bytes
        rw [h.length] at hlast
        have hlt : i < (l.items ++ [byte]).length := (List.getElem?_eq_some_iff.mp hb).1
        rw [List.length_append, List.length_singleton] at hlt
        rw [List.getElem?_append_left (by omega)] at hb
        exact hb

/-- The loop of `append(buf, len)`, wherever `buf` points: as long as the pointer gives the
bytes of a list while the frame grows, the frame holds what an append of that list makes. -/
theorem Holds.appendLoop {buf : Pointer} (bytes : List UInt8) :
    ∀ {f : RawFrame} {l : Bytes} (i : Nat), Holds f l →
      (∀ f' l', Holds f' l' → l.items <+: l'.items → ∀ (k : Nat) (byte : UInt8),
        bytes[k]? = some byte → buf.read f' (i + k) = .ok byte) →
      ∃ f', RawFrame.appendLoop buf f i bytes.length = (f', fitsOrThrows (l.append bytes).2) ∧
        Holds f' (l.append bytes).1 := by
  induction bytes with
  | nil =>
      intro f l i h _
      rw [BoundedList.append_nil]
      exact ⟨f, rfl, h⟩
  | cons byte rest ih =>
      intro f l i h hread
      have hbyte : buf.read f i = .ok byte := hread f l h (List.prefix_refl _) 0 byte rfl
      rw [List.length_cons, RawFrame.appendLoop, hbyte]
      dsimp only
      rcases h.append byte with ⟨hroom, f', happend, hnext⟩ | ⟨hfull, hthrows⟩
      · have hgrown : l.items <+: (l.append [byte]).1.items := by
          rw [(BoundedList.append_fits (by rw [List.length_singleton]; omega)).1]
          exact List.prefix_append _ _
        obtain ⟨f'', hloop, hlast⟩ := ih (i + 1) hnext fun g l' hg hprefix k b hb => by
          rw [Nat.add_assoc, Nat.add_comm 1]
          exact hread g l' hg (hgrown.trans hprefix) (k + 1) b hb
        rw [happend, BoundedList.append_cons hroom]
        exact ⟨f'', hloop, hlast⟩
      · rw [hthrows, BoundedList.append_full hfull]
        exact ⟨f, rfl, h⟩

/-- Appending bytes of the caller. -/
theorem Holds.appendBuf (h : Holds f l) (bytes : List UInt8) :
    ∃ f', f.appendBuf (.array bytes) bytes.length = (f', fitsOrThrows (l.append bytes).2) ∧
      Holds f' (l.append bytes).1 := by
  refine Holds.appendLoop bytes 0 h ?_
  intro f' l' _ _ k byte hbyte
  rw [Nat.zero_add, Pointer.read, hbyte]

/-- Appending a frame, another one or itself: what is read has been there from the start. -/
theorem Holds.appendFrame (h : Holds f l) {other : Option RawFrame} {l' : Bytes}
    (hother : ∀ g, other = some g → Holds g l') (hself : other = none → l' = l) :
    ∃ f', f.appendFrame other = (f', fitsOrThrows (l.append l'.items).2) ∧
      Holds f' (l.append l'.items).1 := by
  cases other with
  | some g =>
      have hg : Holds g l' := hother g rfl
      rw [RawFrame.appendFrame, RawFrame.appendBuf, hg.length]
      refine Holds.appendLoop l'.items 0 h ?_
      intro f' l'' _ _ k byte hbyte
      rw [Nat.zero_add]
      exact hg.load hbyte
  | none =>
      obtain rfl := hself rfl
      rw [RawFrame.appendFrame, RawFrame.appendBuf, h.length]
      refine Holds.appendLoop l'.items 0 h ?_
      intro f' l'' h' hprefix k byte hbyte
      rw [Nat.zero_add]
      apply h'.load
      have hlt : k < l'.items.length := (List.getElem?_eq_some_iff.mp hbyte).1
      rw [← hbyte]
      exact (List.prefix_iff_getElem?.mp hprefix k hlt).trans
        (List.getElem?_eq_getElem hlt).symm

/-- A constructor starts from a fresh frame. -/
theorem construct_holds (garbage : Vector UInt8 128) (buf : Option (List UInt8)) :
    ∃ f', construct garbage buf =
        (f', fitsOrThrows (BoundedList.empty.append (buf.getD []) : Bytes × Bool).2) ∧
      Holds f' (BoundedList.empty.append (buf.getD [])).1 := by
  have hfresh := holds_fresh garbage
  cases buf with
  | none =>
      rw [Option.getD_none, BoundedList.append_nil]
      exact ⟨_, rfl, hfresh⟩
  | some bytes =>
      rw [Option.getD_some]
      cases bytes with
      | nil =>
          rw [BoundedList.append_nil]
          exact ⟨_, rfl, hfresh⟩
      | cons byte rest => exact hfresh.appendBuf (byte :: rest)

theorem Holds.at' (h : Holds f l) (i : Nat) :
    f.at' i =
      match l.items[i]? with
      | some byte => .ok byte
      | none => throwing .outOfRange := by
  rw [RawFrame.at', h.length]
  by_cases hin : i < l.items.length
  · have hbyte : l.items[i]? = some l.items[i] := List.getElem?_eq_getElem hin
    rw [if_neg (by omega), h.load hbyte, hbyte]
  · rw [if_pos (by omega), List.getElem?_eq_none (by omega)]

theorem Holds.readFrom (h : Holds f l) (n : Nat) :
    ∀ i, i + n = l.items.length → f.readFrom i n = .ok (l.items.drop i) := by
  induction n with
  | zero =>
      intro i hi
      rw [List.drop_of_length_le (by omega)]
      rfl
  | succ n ih =>
      intro i hi
      have hlt : i < l.items.length := by omega
      rw [RawFrame.readFrom, h.load (List.getElem?_eq_getElem hlt), Result.ok_bind,
        ih (i + 1) (by omega), List.drop_eq_getElem_cons hlt]
      rfl

theorem Holds.getBuffer (h : Holds f l) : f.getBuffer = .ok l.items := by
  rw [RawFrame.getBuffer, h.length, h.readFrom l.items.length 0 (Nat.zero_add _), List.drop_zero]

theorem Holds.reset (_ : Holds f l) : Holds f.reset .empty := holds_fresh f.buf_

theorem Holds.setAt (h : Holds f l) {i : Nat} (hin : i < l.items.length) (byte : UInt8) :
    ∃ f', f.setAt i byte = .ok f' ∧ Holds f' (l.set i byte) := by
  have hle := l.length_le
  have hi : i < 128 := by omega
  have hlength : ¬ i ≥ f.len_ := by
    rw [h.length]
    omega
  refine ⟨{ f with buf_ := f.buf_.set i byte }, ?_, ?_, ?_⟩
  · rw [RawFrame.setAt, if_neg hlength, store_eq f hi]
  · rw [BoundedList.set_items, List.length_set]
    exact h.length
  · intro j b hb
    rw [BoundedList.set_items] at hb
    show (f.buf_.set i byte)[j]? = some b
    by_cases hsame : i = j
    · subst hsame
      rw [List.getElem?_set_self hin] at hb
      rw [Vector.getElem?_set_self hi]
      exact hb
    · rw [List.getElem?_set_ne hsame] at hb
      rw [Vector.getElem?_set_ne hi hsame]
      exact h.bytes j b hb

theorem Holds.setAt_outside (h : Holds f l) {i : Nat} (hout : ¬ i < l.items.length)
    (byte : UInt8) : f.setAt i byte = throwing .outOfRange := by
  apply if_pos
  rw [h.length]
  omega

/-- The loop of `subFrame` appends what is left of the source from `start` on, at most `len`
bytes; the new frame never has more than lies before `start`. -/
theorem Holds.subFrameLoop (h : Holds f l) (len : Nat) :
    ∀ {frame : RawFrame} {l' : Bytes} (start : Nat), Holds frame l' →
      l'.items.length ≤ start →
      ∃ frame', f.subFrameLoop frame start len = .ok frame' ∧
        Holds frame' (l'.append ((l.items.drop start).take len)).1 := by
  have hle := l.length_le
  induction len with
  | zero =>
      intro frame l' start hframe _
      rw [List.take_zero, BoundedList.append_nil]
      exact ⟨frame, rfl, hframe⟩
  | succ len ih =>
      intro frame l' start hframe hstart
      by_cases hlt : start < l.items.length
      · have hbyte : f.at' start = .ok l.items[start] := by
          rw [h.at', List.getElem?_eq_getElem hlt]
        rcases hframe.append l.items[start] with ⟨hroom, next, happend, hnext⟩ | ⟨hfull, -⟩
        · have hgrown : (l'.append [l.items[start]]).1.items.length ≤ start + 1 := by
            rw [(BoundedList.append_fits (by rw [List.length_singleton]; omega)).1,
              List.length_append, List.length_singleton]
            omega
          obtain ⟨last, hloop, hlast⟩ := ih (start + 1) hnext hgrown
          refine ⟨last, ?_, ?_⟩
          · rw [RawFrame.subFrameLoop, if_pos (by rw [h.length]; exact hlt), hbyte,
              Result.ok_bind, happend]
            exact hloop
          · rw [List.drop_eq_getElem_cons hlt, List.take_succ_cons,
              BoundedList.append_cons hroom]
            exact hlast
        · omega
      · refine ⟨frame, ?_, ?_⟩
        · rw [RawFrame.subFrameLoop, if_neg (by rw [h.length]; exact hlt)]
        · rw [List.drop_of_length_le (Nat.not_lt.mp hlt), List.take_nil, BoundedList.append_nil]
          exact hframe

/-- `subFrame` gives the list without its first `start` bytes, cut to `len` unless `len` is
zero. -/
theorem Holds.subFrame (h : Holds f l) (garbage : Vector UInt8 128) (start len : Nat) :
    ∃ frame, f.subFrame garbage start len = .ok frame ∧
      Holds frame (if len = 0 then l.drop start else (l.drop start).take len) := by
  obtain ⟨frame, hloop, hframe⟩ := h.subFrameLoop (if len = 0 then CECFrame.maxLength else len)
    start (holds_fresh garbage) (Nat.zero_le _)
  refine ⟨frame, hloop, ?_⟩
  have hle := (l.drop start).length_le
  rw [BoundedList.drop_items] at hle
  have hsame : (BoundedList.empty.append ((l.items.drop start).take
      (if len = 0 then CECFrame.maxLength else len))).1 =
        if len = 0 then l.drop start else (l.drop start).take len := by
    apply BoundedList.ext
    have hfits : (BoundedList.empty : Bytes).items.length + ((l.items.drop start).take
        (if len = 0 then CECFrame.maxLength else len)).length ≤ 128 := by
      rw [BoundedList.empty_items, List.length_nil, List.length_take]
      omega
    rw [(BoundedList.append_fits hfits).1, BoundedList.empty_items, List.nil_append]
    split
    · exact List.take_of_length_le hle
    · rfl
  rw [← hsame]
  exact hframe

end RawFrame

/-! ## The frames of the other modules -/

namespace RawFrame

/-- The object behind a frame that carries its invariant. -/
def ofFrame (frame : CECFrame) : RawFrame where
  buf_ := ⟨frame.buf_.toArray, by rw [List.size_toArray]; exact frame.buf_length⟩
  len_ := frame.len_

@[simp] theorem ofFrame_len (frame : CECFrame) : (ofFrame frame).len_ = frame.len_ := rfl

theorem load_ofFrame (frame : CECFrame) {i : Nat} (hi : i < 128) :
    (ofFrame frame).load i = .ok (frame.buf_.getD i 0) := by
  have hlt : i < frame.buf_.length := by
    rw [frame.buf_length]
    exact hi
  have hget : (ofFrame frame).buf_[i]? = some frame.buf_[i] := by
    show (Vector.mk frame.buf_.toArray _)[i]? = _
    simp [hlt]
  rw [load, hget, List.getD_eq_getElem?_getD, List.getElem?_eq_getElem hlt]
  rfl

theorem at'_ofFrame (frame : CECFrame) (i : Nat) : (ofFrame frame).at' i = frame.at' i := by
  have hle := frame.length_le
  unfold at' CECFrame.at'
  rw [ofFrame_len]
  by_cases hout : i ≥ frame.len_
  · rw [if_pos hout, if_pos hout]
  · rw [if_neg hout, if_neg hout]
    refine load_ofFrame frame ?_
    change frame.len_ ≤ 128 at hle
    omega

theorem append_ofFrame (frame : CECFrame) (byte : UInt8) :
    (ofFrame frame).append byte = (frame.append byte).map ofFrame := by
  have hle := frame.len_le
  unfold append CECFrame.append
  rw [ofFrame_len]
  by_cases hfull : frame.len_ = CECFrame.maxLength
  · rw [if_pos hfull, dif_pos hfull]
    rfl
  · have hroom : frame.len_ < 128 := Nat.lt_of_le_of_ne hle hfull
    rw [if_neg hfull, dif_neg hfull, store_eq _ hroom]
    rfl

theorem setAt_ofFrame (frame : CECFrame) (i : Nat) (byte : UInt8) :
    (ofFrame frame).setAt i byte = (frame.setAt i byte).map ofFrame := by
  have hle := frame.length_le
  unfold setAt CECFrame.setAt
  rw [ofFrame_len]
  by_cases hout : i ≥ frame.len_
  · rw [if_pos hout, if_pos hout]
    rfl
  · have hi : i < 128 := by
      change frame.len_ ≤ 128 at hle
      omega
    rw [if_neg hout, if_neg hout, store_eq _ hi]
    rfl

/-- The loop reads the bytes that the other model has in its list. -/
theorem appendLoop_ofFrame (bytes : List UInt8) (n : Nat) :
    ∀ (frame : CECFrame) (i : Nat), i + n = bytes.length →
      appendLoop (.array bytes) (ofFrame frame) i n =
        (ofFrame (frame.appendBuf (bytes.drop i)).1, (frame.appendBuf (bytes.drop i)).2) := by
  induction n with
  | zero =>
      intro frame i hi
      rw [List.drop_of_length_le (by omega)]
      rfl
  | succ n ih =>
      intro frame i hi
      have hlt : i < bytes.length := by omega
      rw [List.drop_eq_getElem_cons hlt, appendLoop, Pointer.read,
        List.getElem?_eq_getElem hlt, CECFrame.appendBuf]
      dsimp only
      rw [append_ofFrame]
      cases frame.append bytes[i] with
      | error r => rfl
      | ok frame' => exact ih frame' (i + 1) (by omega)

theorem appendBuf_ofFrame (frame : CECFrame) (bytes : List UInt8) :
    (ofFrame frame).appendBuf (.array bytes) bytes.length =
      (ofFrame (frame.appendBuf bytes).1, (frame.appendBuf bytes).2) :=
  appendLoop_ofFrame bytes bytes.length frame 0 (Nat.zero_add _)

theorem subFrameLoop_ofFrame (source : CECFrame) (len : Nat) :
    ∀ (frame : CECFrame) (start : Nat),
      (ofFrame source).subFrameLoop (ofFrame frame) start len =
        (source.subFrameLoop frame start len).map ofFrame := by
  induction len with
  | zero => exact fun _ _ => rfl
  | succ len ih =>
      intro frame start
      unfold subFrameLoop CECFrame.subFrameLoop
      rw [ofFrame_len, at'_ofFrame]
      by_cases hin : start < source.len_
      · rw [if_pos hin, if_pos hin]
        cases source.at' start with
        | error r => rfl
        | ok byte =>
            rw [Result.ok_bind, append_ofFrame]
            dsimp only
            cases frame.append byte with
            | error r => rfl
            | ok frame' => exact ih frame' (start + 1)
      · rw [if_neg hin, if_neg hin]
        rfl

/-- What the other modules compute with a `CECFrame` is what its object does: no access of
the array is outside it. -/
theorem subFrame_ofFrame (frame : CECFrame) (start len : Nat) :
    (ofFrame frame).subFrame (ofFrame .empty).buf_ start len =
      (frame.subFrame start len).map ofFrame :=
  subFrameLoop_ofFrame frame _ .empty start

end RawFrame

/-! ## The refinement -/

open RawFrame (Holds)

section Refinement

variable {V : Type u}

/-- Every variable holds its list. -/
def AllHold (frames : V → RawFrame) (lists : V → Bytes) : Prop :=
  ∀ v, Holds (frames v) (lists v)

variable [DecidableEq V] {frames : V → RawFrame} {lists : V → Bytes}

theorem AllHold.update (h : AllHold frames lists) (v : V) {f : RawFrame} {l : Bytes}
    (hf : Holds f l) : AllHold (Function.update frames v f) (Function.update lists v l) := by
  intro w
  by_cases heq : w = v
  · subst heq
    rw [Function.update_self, Function.update_self]
    exact hf
  · rw [Function.update_of_ne heq, Function.update_of_ne heq]
    exact h w

/-- One operation, case by case. -/
theorem rawMachine_refines :
    (rawMachine : Machine (V → RawFrame) (FrameOp V) (Result Unit)).Refines listMachine
      AllHold := by
  rintro frames lists op h
  cases op with
  | construct v garbage buf =>
      obtain ⟨f', hconstruct, hf'⟩ := RawFrame.construct_holds garbage buf
      simp only [rawMachine, listMachine, hconstruct]
      by_cases hfits : (buf.getD []).length ≤ 128
      · have hroom : (BoundedList.empty : Bytes).items.length + (buf.getD []).length ≤ 128 := by
          rw [BoundedList.empty_items, List.length_nil, Nat.zero_add]
          exact hfits
        obtain ⟨hitems, hflag⟩ := BoundedList.append_fits hroom
        have hsame : (BoundedList.empty.append (buf.getD [])).1 =
            (⟨buf.getD [], hfits⟩ : Bytes) := BoundedList.ext hitems
        rw [hsame] at hf'
        rw [hflag, dif_pos hfits]
        exact ⟨h.update v hf', rfl⟩
      · have hflag : (BoundedList.empty.append (buf.getD []) : Bytes × Bool).2 = false := by
          rw [BoundedList.append_flag, BoundedList.empty_items, List.length_nil, Nat.zero_add]
          exact decide_eq_false hfits
        rw [hflag, dif_neg hfits]
        exact ⟨h, rfl⟩
  | append v byte =>
      simp only [rawMachine, listMachine, appendTo]
      rcases (h v).append byte with ⟨hroom, f', happend, hf'⟩ | ⟨hfull, hthrows⟩
      · have hflag : ((lists v).append [byte]).2 = true := by
          refine (BoundedList.append_fits ?_).2
          rw [List.length_singleton]
          omega
        rw [happend, hflag]
        exact ⟨h.update v hf', rfl⟩
      · rw [hthrows, BoundedList.append_full hfull]
        refine ⟨?_, rfl⟩
        show AllHold frames (Function.update lists v (lists v))
        rw [Function.update_eq_self]
        exact h
  | appendBuf v buf =>
      obtain ⟨f', happend, hf'⟩ := (h v).appendBuf buf
      simp only [rawMachine, listMachine, appendTo, happend]
      exact ⟨h.update v hf', trivial⟩
  | appendFrame v w =>
      have hother : ∀ g, (if w = v then none else some (frames w)) = some g →
          Holds g (lists w) := by
        intro g hg
        split at hg
        · cases hg
        · cases hg
          exact h w
      have hself : (if w = v then none else some (frames w)) = none → lists w = lists v := by
        intro hnone
        split at hnone
        · next heq => rw [heq]
        · cases hnone
      obtain ⟨f', happend, hf'⟩ := (h v).appendFrame hother hself
      simp only [rawMachine, listMachine, appendTo, happend]
      exact ⟨h.update v hf', trivial⟩
  | subFrame v w garbage start len =>
      obtain ⟨frame, hsub, hframe⟩ := (h w).subFrame garbage start len
      simp only [rawMachine, listMachine, hsub]
      exact ⟨h.update v hframe, rfl⟩
  | reset v => exact ⟨h.update v (h v).reset, rfl⟩
  | write v i byte =>
      simp only [rawMachine, listMachine]
      by_cases hin : i < (lists v).items.length
      · obtain ⟨f', hwrite, hf'⟩ := (h v).setAt hin byte
        rw [hwrite, if_pos hin]
        exact ⟨h.update v hf', rfl⟩
      · rw [(h v).setAt_outside hin byte, if_neg hin]
        exact ⟨h, rfl⟩

/-- The lists answer normally or with `std::out_of_range`. -/
theorem listMachine_answers (lists : V → Bytes) (op : FrameOp V) :
    (listMachine.step lists op).2 = .ok () ∨
      (listMachine.step lists op).2 = throwing .outOfRange := by
  have hflag : ∀ fits, fitsOrThrows fits = .ok () ∨ fitsOrThrows fits = throwing .outOfRange :=
    fun fits => by cases fits with
      | false => exact .inr rfl
      | true => exact .inl rfl
  cases op with
  | construct v garbage buf =>
      simp only [listMachine]
      split
      · exact .inl rfl
      · exact .inr rfl
  | append v byte => exact hflag _
  | appendBuf v buf => exact hflag _
  | appendFrame v w => exact hflag _
  | subFrame v w garbage start len => exact .inl rfl
  | reset v => exact .inl rfl
  | write v i byte =>
      simp only [listMachine]
      split
      · exact .inl rfl
      · exact .inr rfl

end Refinement

/-- Every program over frames does what it does over lists of at most 128 bytes: it gets the
same answers, `length`, `at` and `getBuffer` show the list of the variable at the end, and
no access of an array was outside it. -/
theorem frames_refine_lists {V : Type u} [DecidableEq V] (garbage : V → Vector UInt8 128)
    (program : List (FrameOp V)) :
    let raw := rawMachine.run (fun v => { buf_ := garbage v, len_ := 0 }) program
    let lists := listMachine.run (fun _ => BoundedList.empty) program
    raw.2 = lists.2 ∧
      (∀ answer ∈ raw.2, answer = .ok () ∨ answer = throwing .outOfRange) ∧
      ∀ v, (raw.1 v).length = (lists.1 v).items.length ∧
        (∀ i, (raw.1 v).at' i =
          match (lists.1 v).items[i]? with
          | some byte => .ok byte
          | none => throwing .outOfRange) ∧
        (raw.1 v).getBuffer = .ok (lists.1 v).items := by
  have hfresh : AllHold (fun v => ({ buf_ := garbage v, len_ := 0 } : RawFrame))
      fun _ => BoundedList.empty := fun v => RawFrame.holds_fresh (garbage v)
  obtain ⟨hholds, hanswers⟩ := rawMachine_refines.run program hfresh
  refine ⟨hanswers, ?_, fun v => ⟨(hholds v).length, (hholds v).at', (hholds v).getBuffer⟩⟩
  intro answer hmem
  rw [hanswers] at hmem
  exact Machine.run_outputs (P := fun answer => answer = .ok () ∨ answer = throwing .outOfRange)
    listMachine_answers program _ answer hmem

end HdmiCec
