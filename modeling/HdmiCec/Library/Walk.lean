/-!
# Going through a list until an exception

A loop visits the entries of a list in order, and the first visit that throws ends
it.  What a visit does may depend on the visits before it.  The file has the rules for
such loops:

* `walk_append`: one loop behind the other is a loop over both lists, which is how
  nested loops become one;
* `walk_cases`: a loop has visited the whole list, or a leading part of it whose last
  visit has thrown.
-/

universe u v

namespace Walk

variable {α : Type u} {ε : Type v}

/-- Visit the entries in order.  `visited` are the visits made before, the one that
throws included. -/
def walk (visit : List α → α → Except ε Unit) : List α → List α → List α × Except ε Unit
  | [], visited => (visited, .ok ())
  | a :: rest, visited =>
      match visit visited a with
      | .ok () => walk visit rest (visited ++ [a])
      | .error e => (visited ++ [a], .error e)

/-- Every visit of the entries returns, one behind the other. -/
def Returns (visit : List α → α → Except ε Unit) : List α → List α → Prop
  | [], _ => True
  | a :: rest, visited => visit visited a = .ok () ∧ Returns visit rest (visited ++ [a])

theorem walk_append (visit : List α → α → Except ε Unit) (xs ys : List α) :
    ∀ visited, walk visit (xs ++ ys) visited =
      match walk visit xs visited with
      | (visited', .ok ()) => walk visit ys visited'
      | (visited', .error e) => (visited', .error e) := by
  induction xs with
  | nil => intro visited; rfl
  | cons x xs ih =>
      intro visited
      rw [List.cons_append, walk, walk]
      cases visit visited x with
      | ok => exact ih (visited ++ [x])
      | error e => rfl

/-- A list is gone through to its end, or to the first visit that throws. -/
theorem walk_cases (visit : List α → α → Except ε Unit) (xs : List α) :
    ∀ visited,
      (walk visit xs visited = (visited ++ xs, .ok ()) ∧ Returns visit xs visited) ∨
        ∃ before x after e, xs = before ++ x :: after ∧ Returns visit before visited ∧
          visit (visited ++ before) x = .error e ∧
          walk visit xs visited = (visited ++ before ++ [x], .error e) := by
  induction xs with
  | nil => intro visited; exact .inl ⟨by simp [walk], trivial⟩
  | cons x xs ih =>
      intro visited
      cases hvisit : visit visited x with
      | error e =>
          refine .inr ⟨[], x, xs, e, rfl, trivial, by simpa using hvisit, ?_⟩
          simp [walk, hvisit]
      | ok =>
          have hwalk : walk visit (x :: xs) visited = walk visit xs (visited ++ [x]) := by
            rw [walk, hvisit]
          rw [hwalk]
          rcases ih (visited ++ [x]) with
            ⟨hall, hreturns⟩ | ⟨before, y, after, e, rfl, hreturns, hthrows, hends⟩
          · exact .inl ⟨by simpa using hall, hvisit, hreturns⟩
          · refine .inr ⟨x :: before, y, after, e, rfl, ⟨hvisit, hreturns⟩, ?_, ?_⟩
            · simpa using hthrows
            · simpa using hends

end Walk
