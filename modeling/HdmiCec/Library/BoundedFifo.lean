import HdmiCec.Library.StepSystem

/-!
# Bounded first-in first-out buffers

The purpose of a queue between threads, stated without threads: a buffer of
bounded size into which elements are pushed at one end and from which they are
popped at the other, each in one step.  The history of all pushed and all popped
elements is part of the state, so that nothing lost, nothing duplicated and
nothing reordered is one equation between three lists.
-/

universe u

/-- A buffer of at most `cap` items, with the history of what went in and what
came out. -/
structure BoundedFifo (E : Type u) where
  cap : Nat
  items : List E
  pushed : List E
  popped : List E

namespace BoundedFifo

variable {E : Type u}

/-- What can be done to a buffer. -/
inductive Operation (E : Type u) where
  | push (e : E)
  | pop

/-- The empty buffer of the given capacity. -/
def empty (cap : Nat) : BoundedFifo E :=
  { cap := cap, items := [], pushed := [], popped := [] }

/-- A push needs room and a pop needs an item. -/
def apply (b : BoundedFifo E) : Operation E → Option (BoundedFifo E)
  | .push e =>
      if b.items.length < b.cap then
        some { b with items := b.items ++ [e], pushed := b.pushed ++ [e] }
      else
        none
  | .pop =>
      match b.items with
      | [] => none
      | e :: rest => some { b with items := rest, popped := b.popped ++ [e] }

theorem apply_push {b : BoundedFifo E} (e : E) (hroom : b.items.length < b.cap) :
    b.apply (.push e) =
      some { b with items := b.items ++ [e], pushed := b.pushed ++ [e] } := by
  simp [apply, hroom]

theorem apply_pop {b : BoundedFifo E} {e : E} {rest : List E} (h : b.items = e :: rest) :
    b.apply .pop = some { b with items := rest, popped := b.popped ++ [e] } := by
  simp [apply, h]

/-- Push if there is room, and drop the element otherwise. -/
def offer (b : BoundedFifo E) (e : E) : BoundedFifo E := (b.apply (.push e)).getD b

theorem offer_room {b : BoundedFifo E} (e : E) (hroom : b.items.length < b.cap) :
    (b.offer e).items = b.items ++ [e] := by
  rw [offer, apply_push e hroom]
  rfl

theorem offer_full {b : BoundedFifo E} (e : E) (hfull : b.cap ≤ b.items.length) :
    b.offer e = b := by
  simp [offer, apply, Nat.not_lt.mpr hfull]

theorem offer_cap (b : BoundedFifo E) (e : E) : (b.offer e).cap = b.cap := by
  by_cases hroom : b.items.length < b.cap
  · rw [offer, apply_push e hroom]
    rfl
  · rw [offer_full e (Nat.not_lt.mp hroom)]

/-- An offer leaves the items, or puts the element behind them. -/
theorem offer_items (b : BoundedFifo E) (e : E) :
    (b.offer e).items = b.items ∨ (b.offer e).items = b.items ++ [e] := by
  by_cases hroom : b.items.length < b.cap
  · exact Or.inr (offer_room e hroom)
  · rw [offer_full e (Nat.not_lt.mp hroom)]
    exact Or.inl rfl

/-- After an offer there is something in the buffer, whether there was room or not. -/
theorem offer_ne_nil {b : BoundedFifo E} (e : E) (hcap : 0 < b.cap) :
    (b.offer e).items ≠ [] := by
  by_cases hroom : b.items.length < b.cap
  · rw [offer_room e hroom]
    simp
  · have hfull := Nat.not_lt.mp hroom
    rw [offer_full e hfull]
    exact List.ne_nil_of_length_pos (by omega)

/-- The next item and the buffer without it. -/
def poll (b : BoundedFifo E) : Option (E × BoundedFifo E) :=
  match b.items with
  | [] => none
  | e :: rest => some (e, { b with items := rest, popped := b.popped ++ [e] })

theorem poll_eq_some {b b' : BoundedFifo E} {e : E} (h : b.poll = some (e, b')) :
    b.items = e :: b'.items ∧ b'.cap = b.cap := by
  unfold poll at h
  cases hitems : b.items with
  | nil => simp [hitems] at h
  | cons front rest =>
      simp only [hitems, Option.some.injEq, Prod.mk.injEq] at h
      obtain ⟨rfl, rfl⟩ := h
      exact ⟨rfl, rfl⟩

/-- Buffers of every capacity, all starting empty. -/
def system (E : Type u) : StepSystem (BoundedFifo E) (Operation E) where
  initial b := ∃ cap, b = empty cap
  step := apply

/-- The invariant of a buffer: it is within its bound, and what was popped
followed by what is still there is what was pushed. -/
structure Exact (b : BoundedFifo E) : Prop where
  bounded : b.items.length ≤ b.cap
  history : b.popped ++ b.items = b.pushed

theorem apply_exact {b b' : BoundedFifo E} {o : Operation E} (h : Exact b)
    (hstep : b.apply o = some b') : Exact b' := by
  cases o with
  | push e =>
      by_cases hroom : b.items.length < b.cap
      · rw [apply_push e hroom] at hstep
        cases hstep
        constructor
        · simp only [List.length_append, List.length_singleton]
          omega
        · rw [← List.append_assoc, h.history]
      · simp [apply, hroom] at hstep
  | pop =>
      cases hitems : b.items with
      | nil => simp [apply, hitems] at hstep
      | cons e rest =>
          rw [apply_pop hitems] at hstep
          cases hstep
          have hbound := h.bounded
          have hhistory := h.history
          rw [hitems] at hbound hhistory
          constructor
          · simp only [List.length_cons] at hbound
            show rest.length ≤ b.cap
            omega
          · show (b.popped ++ [e]) ++ rest = b.pushed
            rw [← hhistory, List.append_assoc, List.singleton_append]

/-- Every buffer that operations lead to is exact. -/
theorem reachable_exact {ok : BoundedFifo E → Operation E → Prop} {b : BoundedFifo E}
    (h : (system E).Reachable ok b) : Exact b := by
  refine h.invariant ?_ ?_
  · rintro b ⟨cap, rfl⟩
    exact ⟨Nat.zero_le cap, rfl⟩
  · intro b o b' _ hb _ hstep
    exact apply_exact hb hstep

end BoundedFifo
