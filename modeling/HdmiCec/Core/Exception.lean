/-!
# How a call of the C++ code can end

A function of the library returns a value, throws one of the exceptions of
`ccec/Exception.hpp` or of the standard library, fails an `Assert` (which
aborts the process), lets out an exception that its specification `throw(…)`
leaves out, or reaches behaviour the C++ standard leaves undefined.
`Result` keeps the five apart, because the catch clauses of the code do: the
CCEC exceptions derive from `Exception`, the standard ones do not, and no
catch clause stops a failed `Assert` or an unexpected exception.
-/

namespace HdmiCec

/-- The exceptions the modelled code can throw. -/
inductive Exception where
  | cecNoAckException
  | ioException
  | invalidStateException
  | invalidParamException
  | addressNotAvailableException
  /-- `std::out_of_range`, thrown by `CECFrame`. -/
  | outOfRange
  /-- `std::length_error`, thrown by `std::vector::insert`. -/
  | lengthError
  deriving DecidableEq, Repr

/-- The exceptions a clause `catch(Exception &e)` stops: the classes derived
from the library's own `Exception`. -/
def Exception.isCCEC : Exception → Bool
  | .outOfRange => false
  | .lengthError => false
  | _ => true

/-- The ways a call ends without returning. -/
inductive Abrupt where
  | throws (e : Exception)
  | assertFails
  /-- `std::unexpected`, which ends the process. -/
  | unexpected
  /-- Undefined behaviour, such as `operator[]` outside a `std::vector`. -/
  | undefined
  deriving DecidableEq, Repr

/-- The outcome of a call: a value, or an abrupt end. -/
abbrev Result (α : Type) := Except Abrupt α

namespace Result

variable {α β : Type}

@[simp] theorem ok_bind (a : α) (f : α → Result β) :
    (Except.ok a >>= f : Result β) = f a := rfl

@[simp] theorem error_bind (r : Abrupt) (f : α → Result β) :
    ((Except.error r : Result α) >>= f : Result β) = .error r := rfl

@[simp] theorem pure_eq (a : α) : (pure a : Result α) = .ok a := rfl

/-- The value of a call that two statements make up. -/
theorem bind_eq_ok {r : Result α} {next : α → Result β} {b : β}
    (h : (r >>= next) = .ok b) : ∃ a, r = .ok a ∧ next a = .ok b := by
  cases r with
  | ok a => exact ⟨a, rfl, h⟩
  | error e => cases h

end Result

/-- `throw e`. -/
def throwing {α : Type} (e : Exception) : Result α := .error (.throws e)

/-- `Assert(expr)`. -/
def assertThat (expr : Bool) : Result Unit :=
  if expr then .ok () else .error .assertFails

/-- A function that is declared `throw(…)` of the exceptions in `listed`. -/
def specifying {α : Type} (listed : Exception → Bool) (body : Result α) : Result α :=
  match body with
  | .ok a => .ok a
  | .error (.throws e) => if listed e then .error (.throws e) else .error .unexpected
  | .error r => .error r

/-- A `try` block with one clause, which stops the exceptions in `caught`. -/
def catching {α : Type} (caught : Exception → Bool) (body : Result α)
    (handler : Exception → Result α) : Result α :=
  match body with
  | .ok a => .ok a
  | .error (.throws e) => if caught e then handler e else .error (.throws e)
  | .error r => .error r

section Catching

variable {α : Type} {caught : Exception → Bool} {handler : Exception → Result α}

@[simp] theorem catching_ok (a : α) :
    catching caught (.ok a) handler = .ok a := rfl

@[simp] theorem catching_undefined :
    catching caught (.error .undefined) handler = .error .undefined := rfl

theorem catching_throws (e : Exception) :
    catching caught (throwing e) handler =
      if caught e then handler e else throwing e := rfl

/-- A clause that stops the exception hands over to its handler. -/
theorem catching_of_caught {e : Exception} (h : caught e = true) :
    catching caught (throwing e) handler = handler e := by
  rw [catching_throws, if_pos h]

/-- Rethrowing what was caught leaves the outcome of the body as it was. -/
@[simp] theorem catching_rethrow (body : Result α) :
    catching caught body throwing = body := by
  cases body with
  | ok a => rfl
  | error r =>
      cases r with
      | throws e =>
          change (if caught e then throwing e else throwing e) = throwing e
          split <;> rfl
      | assertFails | unexpected | undefined => rfl

end Catching

/-! ## Calls that return or throw -/

/-- The call returns a value with `P`, or throws: no assertion fails, no exception is
unexpected, and nothing undefined happens. -/
def Settles {α : Type} (P : α → Prop) : Result α → Prop
  | .ok a => P a
  | .error (.throws _) => True
  | .error _ => False

namespace Settles

variable {α β : Type} {P : α → Prop} {Q : β → Prop}

theorem throwing (e : Exception) : Settles P (throwing e) := trivial

theorem mono {r : Result α} (h : Settles P r) {P' : α → Prop} (himp : ∀ a, P a → P' a) :
    Settles P' r := by
  cases r with
  | ok a => exact himp a h
  | error r => cases r <;> exact h

theorem bind {r : Result α} {next : α → Result β} (h : Settles P r)
    (hnext : ∀ a, P a → Settles Q (next a)) : Settles Q (r >>= next) := by
  cases r with
  | ok a => exact hnext a h
  | error r => cases r <;> exact h

/-- A clause that stops everything thrown leaves only the return. -/
theorem catching_all {P : Unit → Prop} {r : Result Unit} (h : Settles P r) :
    catching (fun _ => true) r (fun _ => .ok ()) = .ok () := by
  cases r with
  | ok a => rfl
  | error r =>
      cases r with
      | throws e => rfl
      | assertFails | unexpected | undefined => exact h.elim

end Settles

/-! ## Log lines

The arguments of `CCEC_LOG(level, format, …)` are evaluated at every level; what the
format reads of them is read only if the line is printed. -/

namespace LogLines

/-- `LOG_MAX`, `LOG_INFO` and `LOG_DEBUG`. -/
def logMax : Int := 8
def logInfo : Int := 5
def logDebug : Int := 6

/-- `(level < LOG_MAX) && (level <= cec_log_level)`. -/
def isPrinted (level cec_log_level : Int) : Bool := level < logMax ∧ level ≤ cec_log_level

/-- `CCEC_LOG(level, …)` with a format that comes to `formatting`. -/
def ccecFormat (level cec_log_level : Int) (formatting : Result Unit) : Result Unit :=
  if isPrinted level cec_log_level then formatting else .ok ()

end LogLines

end HdmiCec
