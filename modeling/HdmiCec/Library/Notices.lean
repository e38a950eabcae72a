import Mathlib.Data.List.Basic

/-!
# A copy that is kept up to date by notices

A value is kept in one place and copied to another one.  Every change of the value sends a
notice with the new value, the notices arrive in the order in which they were sent, and each
one that arrives is stored in the copy.  Now and then the copy is also refreshed from an
answer to a question, which may be old by the time it is stored.

`Converges` says that the copy will be the value once the notices have arrived.  A refresh
keeps it up if the answer is the value, or if there are still notices behind it.
-/

universe u

namespace Notices

variable {V : Type u} {value value' copy copy' v : V} {notices : List V}

/-- The copy, once the notices have arrived. -/
def settled (copy : V) (notices : List V) : V := notices.getLast?.getD copy

/-- The copy will be the value. -/
def Converges (value : V) (notices : List V) (copy : V) : Prop := settled copy notices = value

@[simp] theorem settled_concat (copy : V) (notices : List V) (v : V) :
    settled copy (notices ++ [v]) = v := by
  simp [settled]

theorem settled_cons (copy v : V) (notices : List V) :
    settled copy (v :: notices) = settled v notices := by
  cases notices with
  | nil => rfl
  | cons next rest => simp [settled, List.getLast?_cons]

/-- Before a notice has arrived the copy does not matter. -/
theorem settled_of_ne_nil (copy copy' : V) (hne : notices ≠ []) :
    settled copy notices = settled copy' notices := by
  rw [settled, settled, List.getLast?_eq_some_getLast hne]
  rfl

/-! ## What keeps a copy converging -/

theorem Converges.changes (value : V) (notices : List V) (copy : V) :
    Converges value (notices ++ [value]) copy :=
  settled_concat copy notices value

theorem Converges.arrives (h : Converges value (v :: notices) copy) :
    Converges value notices v := by
  rw [Converges, ← settled_cons copy v notices]
  exact h

/-- An answer is stored. -/
theorem Converges.refresh (h : Converges value notices copy) (hnow : notices = [] → copy' = value) :
    Converges value notices copy' := by
  by_cases hnone : notices = []
  · rw [hnone]
    exact hnow hnone
  · rw [Converges, settled_of_ne_nil copy' copy hnone]
    exact h

/-- The notices behind some others end as they do. -/
theorem Converges.behind {front : List V} (h : Converges value (front ++ notices) copy) :
    Converges value notices value := by
  by_cases hnone : notices = []
  · rw [hnone]
    rfl
  · rw [Converges, settled, List.getLast?_append_of_ne_nil _ hnone] at h
    rw [Converges, ← h]
    exact settled_of_ne_nil _ copy hnone

theorem Converges.quiet (h : Converges value [] copy) : copy = value := h

end Notices
