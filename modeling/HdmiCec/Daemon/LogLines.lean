import HdmiCec.Daemon.Enabling
import HdmiCec.Library.CharArray

/-!
# The lines of the log

Every process that uses the library prints its log through `CCEC_LOG`, with the name that it
has given to `LibCCEC::init` in front.  The name is copied into `_CEC_LOG_PREFIX`, of 64
bytes, and the text of a line is formatted in `tmp_buff`, of 500.  The level is changed by
`check_cec_log_status`, from the first line of a file.

`Logger` is what the log is for, without any arrays.  `log_refines` says that the functions
never leave their arrays, whatever names and texts they get, and print the lines of the
`Logger`.  The time in front of a line is left out.
-/

namespace HdmiCec

namespace LogLines

/-- The bytes of a string literal. -/
def literal (s : String) : List UInt8 := s.toList.map fun c => UInt8.ofNat c.toNat

/-- `logLevel`, with the second strings behind `atoi`. -/
def logLevel : List (List UInt8 × Int) :=
  [ (literal "FATAL", 0),
    (literal "ERROR", 1),
    (literal "WARN", 2),
    (literal "EXP", 3),
    (literal "NOTICE", 4),
    (literal "INFO", 5),
    (literal "DEBUG", 6),
    (literal "TRACE", 7) ]

/-- The loop of `check_cec_log_status` over the first line of the file, which `fgets` has
read. -/
def levelNamed (cecBuffer : List UInt8) : Option Int :=
  (logLevel.find? fun entry => entry.1.isPrefixOf cecBuffer).map Prod.snd

/-- `"[%s]%s"`. -/
def line (name text : List UInt8) : List UInt8 := literal "[" ++ name ++ literal "]" ++ text

/-- What happens in a process: `init` with the string behind `name`, if it is not null, and
the answer of the driver, `term`, `check_cec_log_status` with the first line of the file, if
there is one, and `CCEC_LOG` with what the uninitialised `tmp_buff` has at first. -/
inductive Action where
  | init (name : Option (List UInt8)) (hdmiCecOpen : Bool)
  | term (hdmiCecClose : Bool)
  | check (cecBuffer : Option (List UInt8))
  | log (level : Int) (text tmp_buff : List UInt8)

/-- The strings that are passed are C strings, and `tmp_buff` is an array of 500 bytes. -/
def Action.Proper : Action → Prop
  | .init (some name) _ => ∀ byte ∈ name, byte ≠ 0
  | .log _ text tmp_buff => (∀ byte ∈ text, byte ≠ 0) ∧ tmp_buff.length = 500
  | _ => True

instance (a : Action) : Decidable a.Proper :=
  match a with
  | .init (some _) _ => inferInstanceAs (Decidable (∀ byte ∈ _, byte ≠ 0))
  | .log _ _ _ => inferInstanceAs (Decidable (_ ∧ _))
  | .init none _ | .term _ | .check _ => inferInstanceAs (Decidable True)

/-! ## The code -/

structure State where
  library : Library
  _CEC_LOG_PREFIX : List UInt8
  cec_log_level : Int
  printed : List (List UInt8)

/-- What `LibCCEC::init` does to the prefix. -/
def copyName (prefix_ : List UInt8) : Option (List UInt8) → Option (List UInt8)
  | some name => (CharArray.strncpy prefix_ name 62).map fun copied => copied.set 63 0
  | none => some (prefix_.set 0 0)

/-- `CCEC_LOG(level, …)`, of which `text` is what the format makes of its arguments. -/
def ccecLog (s : State) (level : Int) (text tmp_buff : List UInt8) : Option State :=
  if isPrinted level s.cec_log_level then do
    let tmp_buff ← CharArray.snprintf tmp_buff 0 499 text
    let prefixLen ← CharArray.strlen s._CEC_LOG_PREFIX
    let textLen ← CharArray.strlen tmp_buff
    return { s with
      printed := s.printed ++ [line (s._CEC_LOG_PREFIX.take prefixLen) (tmp_buff.take textLen)] }
  else
    some s

/-- One call; it returns nothing when it leaves an array. -/
def step (s : State) : Action → Option State
  | .init name hdmiCecOpen =>
      if s.library.initialized then
        some { s with library := (s.library.init hdmiCecOpen).1 }
      else do
        let prefix_ ← copyName s._CEC_LOG_PREFIX name
        return { s with
          library := (s.library.init hdmiCecOpen).1, _CEC_LOG_PREFIX := prefix_ }
  | .term hdmiCecClose => some { s with library := (s.library.term hdmiCecClose).1 }
  | .check cecBuffer =>
      some { s with cec_log_level := (cecBuffer.bind levelNamed).getD s.cec_log_level }
  | .log level text tmp_buff => ccecLog s level text tmp_buff

/-- The library before its first `init`. -/
def down : Library where
  initialized := false
  started := false
  driver := { status := .closed, rQueue := .empty 32, logicalAddresses := [] }

/-- The static objects of a process when it begins. -/
def new : State where
  library := down
  _CEC_LOG_PREFIX := List.replicate 64 0
  cec_log_level := logInfo
  printed := []

/-! ## What the log is for -/

structure Logger where
  library : Library
  name : List UInt8
  level : Int
  lines : List (List UInt8)

/-- The name of the last `init` that was not refused stands in front of the lines, and the
level that was found last decides about them. -/
def Logger.after (l : Logger) : Action → Logger
  | .init name hdmiCecOpen =>
      { l with
        library := (l.library.init hdmiCecOpen).1
        name := if l.library.initialized then l.name else name.getD [] }
  | .term hdmiCecClose => { l with library := (l.library.term hdmiCecClose).1 }
  | .check cecBuffer => { l with level := (cecBuffer.bind levelNamed).getD l.level }
  | .log level text _ =>
      if isPrinted level l.level then
        { l with lines := l.lines ++ [line (l.name.take 62) (text.take 498)] }
      else
        l

def Logger.new : Logger where
  library := down
  name := []
  level := logInfo
  lines := []

/-! ## Refinement -/

/-- The array holds what it has room for of the name, and a zero that is never written to. -/
structure Represents (s : State) (l : Logger) : Prop where
  library : s.library = l.library
  level : s.cec_log_level = l.level
  printed : s.printed = l.lines
  holds : CharArray.Holds 64 s._CEC_LOG_PREFIX (l.name.take 62)
  kept : s._CEC_LOG_PREFIX[62]? = some 0

theorem new_represents : Represents new Logger.new :=
  ⟨rfl, rfl, rfl, ⟨rfl, by decide, by decide⟩, rfl⟩

/-- A zero at 62 is in front of the last byte. -/
theorem mem_take_of_kept {prefix_ : List UInt8} (hkept : prefix_[62]? = some 0) :
    0 ∈ prefix_.take 63 := by
  apply List.mem_of_getElem? (i := 62)
  rw [List.getElem?_take_of_lt (by omega), hkept]

theorem copyName_holds {prefix_ old : List UInt8} (hholds : CharArray.Holds 64 prefix_ old)
    (hkept : prefix_[62]? = some 0) {name : Option (List UInt8)}
    (hname : ∀ text, name = some text → ∀ byte ∈ text, byte ≠ 0) :
    ∃ copied, copyName prefix_ name = some copied ∧
      CharArray.Holds 64 copied ((name.getD []).take 62) ∧ copied[62]? = some 0 := by
  cases name with
  | none =>
      refine ⟨_, rfl, hholds.clear, ?_⟩
      rw [List.getElem?_set_ne (by omega), hkept]
  | some text =>
      obtain ⟨copied, hcopied, hcopiedHolds, hcopiedKept⟩ :=
        CharArray.strncpy_holds hkept (hname text rfl)
      rw [hholds.size] at hcopiedHolds
      refine ⟨copied.set 63 0, ?_, ?_, ?_⟩
      · rw [copyName, hcopied]
        rfl
      · -- the terminator is in front of the last byte, which is stored again
        exact hcopiedHolds.set_behind (mem_take_of_kept hcopiedKept) 0
      · rw [List.getElem?_set_ne (by omega), hcopiedKept]

/-- One call stays in the arrays and does what the `Logger` does. -/
theorem step_represents {s : State} {l : Logger} (h : Represents s l) {a : Action}
    (ha : a.Proper) : ∃ s', step s a = some s' ∧ Represents s' (l.after a) := by
  cases a with
  | init name hdmiCecOpen =>
      have hlibrary : (s.library.init hdmiCecOpen).1 = (l.library.init hdmiCecOpen).1 := by
        rw [h.library]
      by_cases hinitialized : l.library.initialized = true
      · -- an `init` that is refused copies no name
        rw [step, h.library, if_pos hinitialized, Logger.after, if_pos hinitialized]
        exact ⟨_, rfl, rfl, h.level, h.printed, h.holds, h.kept⟩
      · have hname : ∀ text, name = some text → ∀ byte ∈ text, byte ≠ 0 := by
          rintro text rfl
          exact ha
        obtain ⟨copied, hcopied, hholds, hkept⟩ := copyName_holds h.holds h.kept hname
        rw [step, h.library, if_neg hinitialized, hcopied, Logger.after, if_neg hinitialized]
        exact ⟨_, rfl, rfl, h.level, h.printed, hholds, hkept⟩
  | term hdmiCecClose =>
      refine ⟨_, rfl, ?_, h.level, h.printed, h.holds, h.kept⟩
      rw [Logger.after, h.library]
  | check cecBuffer =>
      refine ⟨_, rfl, h.library, ?_, h.printed, h.holds, h.kept⟩
      rw [Logger.after, h.level]
  | log level text tmp_buff =>
      obtain ⟨htext, hsize⟩ := ha
      rw [step, ccecLog, Logger.after, h.level]
      by_cases hprinted : isPrinted level l.level = true
      · obtain ⟨buf, hbuf, hholds⟩ :=
          @CharArray.snprintf_holds tmp_buff text 499 (by omega) (by omega) htext
        obtain ⟨hprefixLen, hprefix⟩ := h.holds.strlen_eq
        obtain ⟨htextLen, hformatted⟩ := hholds.strlen_eq
        rw [if_pos hprinted, if_pos hprinted, hbuf]
        simp only [Option.bind_eq_bind, Option.bind_some, hprefixLen, htextLen, hprefix,
          hformatted]
        refine ⟨_, rfl, h.library, rfl, ?_, h.holds, h.kept⟩
        show s.printed ++ [_] = l.lines ++ [_]
        rw [h.printed]
      · rw [if_neg hprinted, if_neg hprinted]
        exact ⟨s, rfl, h⟩

/-- Over all calls of a process the functions stay in their arrays, and what they print are
the lines of the `Logger`: in front of each the first 62 bytes of the name, and behind it
the first 498 bytes of the text. -/
theorem log_refines (actions : List Action) (hproper : ∀ a ∈ actions, a.Proper) :
    ∃ s, actions.foldlM step new = some s ∧
      s.printed = (actions.foldl Logger.after Logger.new).lines := by
  have hall : ∀ s l, Represents s l → ∃ s', actions.foldlM step s = some s' ∧
      Represents s' (actions.foldl Logger.after l) := by
    induction actions with
    | nil => exact fun s l h => ⟨s, rfl, h⟩
    | cons a rest ih =>
        intro s l h
        obtain ⟨next, hnext, hrepresents⟩ :=
          step_represents h (hproper a List.mem_cons_self)
        obtain ⟨s', hs', hlast⟩ :=
          ih (fun b hb => hproper b (List.mem_cons_of_mem a hb)) next (l.after a) hrepresents
        refine ⟨s', ?_, hlast⟩
        rw [List.foldlM_cons, hnext]
        exact hs'
  obtain ⟨s, hs, hrepresents⟩ := hall new Logger.new new_represents
  exact ⟨s, hs, hrepresents.printed⟩

/-- The level is raised by the file, and then a line of that level is printed. -/
theorem log_refines_debug :
    ∃ s, [.init (some (literal "CECDevMgr")) true, .check (some (literal "DEBUG")),
        .log 6 (literal "up") (List.replicate 500 0xAA)].foldlM step new = some s ∧
      s.printed = [literal "[CECDevMgr]up"] := by
  let actions : List Action :=
    [.init (some (literal "CECDevMgr")) true, .check (some (literal "DEBUG")),
      .log 6 (literal "up") (List.replicate 500 0xAA)]
  have hlines : (actions.foldl Logger.after Logger.new).lines = [literal "[CECDevMgr]up"] := by
    decide +kernel
  obtain ⟨s, hs, hprinted⟩ := log_refines actions (by decide +kernel)
  exact ⟨s, hs, hprinted.trans hlines⟩

end LogLines

end HdmiCec
