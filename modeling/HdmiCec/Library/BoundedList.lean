import Mathlib.Data.List.Basic

/-!
# Lists of bounded length

The purpose of a buffer with a fixed capacity: a list that never grows beyond it.
Appending keeps the longest front part of what is appended that fits, and says
whether that was all of it.  Appending one element after the other is appending
the list of them (`append_cons`), which is what a loop needs.

A machine answers each input with an output and a new state.  Two machines whose
steps keep a relation between their states and answer alike do so in every run
(`Machine.Refines.run`).
-/

universe u v w x

/-- A list of at most `cap` elements. -/
@[ext]
structure BoundedList (α : Type u) (cap : Nat) where
  items : List α
  length_le : items.length ≤ cap

namespace BoundedList

variable {α : Type u} {cap : Nat}

def empty : BoundedList α cap := ⟨[], Nat.zero_le _⟩

/-- Append what fits; the flag says whether everything did. -/
def append (l : BoundedList α cap) (xs : List α) : BoundedList α cap × Bool :=
  (⟨(l.items ++ xs).take cap, List.length_take_le _ _⟩,
    l.items.length + xs.length ≤ cap)

/-- Without the first `start` elements. -/
def drop (l : BoundedList α cap) (start : Nat) : BoundedList α cap :=
  ⟨l.items.drop start, by
    have h := l.length_le
    rw [List.length_drop]
    omega⟩

/-- The first `len` elements. -/
def take (l : BoundedList α cap) (len : Nat) : BoundedList α cap :=
  ⟨l.items.take len, by
    have h := l.length_le
    rw [List.length_take]
    omega⟩

/-- Replace the element at `i`, if there is one. -/
def set (l : BoundedList α cap) (i : Nat) (a : α) : BoundedList α cap :=
  ⟨l.items.set i a, by rw [List.length_set]; exact l.length_le⟩

@[simp] theorem empty_items : (empty : BoundedList α cap).items = [] := rfl

@[simp] theorem drop_items (l : BoundedList α cap) (start : Nat) :
    (l.drop start).items = l.items.drop start := rfl

@[simp] theorem take_items (l : BoundedList α cap) (len : Nat) :
    (l.take len).items = l.items.take len := rfl

@[simp] theorem set_items (l : BoundedList α cap) (i : Nat) (a : α) :
    (l.set i a).items = l.items.set i a := rfl

theorem append_flag (l : BoundedList α cap) (xs : List α) :
    (l.append xs).2 = decide (l.items.length + xs.length ≤ cap) := rfl

/-- What fits is added whole. -/
theorem append_fits {l : BoundedList α cap} {xs : List α}
    (h : l.items.length + xs.length ≤ cap) :
    (l.append xs).1.items = l.items ++ xs ∧ (l.append xs).2 = true := by
  refine ⟨?_, decide_eq_true h⟩
  show (l.items ++ xs).take cap = l.items ++ xs
  apply List.take_of_length_le
  rw [List.length_append]
  exact h

theorem append_nil (l : BoundedList α cap) : l.append [] = (l, true) := by
  have hfits : l.items.length + ([] : List α).length ≤ cap := l.length_le
  obtain ⟨hitems, hflag⟩ := append_fits hfits
  apply Prod.ext
  · apply BoundedList.ext
    rw [hitems, List.append_nil]
  · exact hflag

/-- A full list takes nothing. -/
theorem append_full {l : BoundedList α cap} (hfull : l.items.length = cap) (a : α)
    (xs : List α) : l.append (a :: xs) = (l, false) := by
  apply Prod.ext
  · apply BoundedList.ext
    show (l.items ++ a :: xs).take cap = l.items
    exact List.take_left' hfull
  · apply decide_eq_false
    rw [List.length_cons]
    omega

/-- With room for one element, the rest is appended behind it. -/
theorem append_cons {l : BoundedList α cap} (hroom : l.items.length < cap) (a : α)
    (xs : List α) : l.append (a :: xs) = (l.append [a]).1.append xs := by
  have hone : (l.append [a]).1.items = l.items ++ [a] := by
    refine (append_fits ?_).1
    rw [List.length_singleton]
    omega
  apply Prod.ext
  · apply BoundedList.ext
    show (l.items ++ a :: xs).take cap = ((l.append [a]).1.items ++ xs).take cap
    rw [hone, List.append_assoc, List.singleton_append]
  · rw [append_flag, append_flag, hone, List.length_append, List.length_cons,
      List.length_singleton, Nat.add_assoc, Nat.add_comm 1]

end BoundedList

/-! ## Machines with outputs -/

/-- A step function that answers. -/
structure Machine (σ : Type u) (ι : Type v) (ο : Type w) where
  step : σ → ι → σ × ο

namespace Machine

variable {σ : Type u} {ι : Type v} {ο : Type w} {τ : Type x}

/-- The state behind a sequence of inputs, and the answers. -/
def run (M : Machine σ ι ο) : σ → List ι → σ × List ο
  | s, [] => (s, [])
  | s, i :: rest =>
      let (s', o) := M.step s i
      let (s'', os) := M.run s' rest
      (s'', o :: os)

/-- Related states answer alike and stay related. -/
def Refines (M : Machine σ ι ο) (N : Machine τ ι ο) (R : σ → τ → Prop) : Prop :=
  ∀ s t i, R s t → R (M.step s i).1 (N.step t i).1 ∧ (M.step s i).2 = (N.step t i).2

theorem Refines.run {M : Machine σ ι ο} {N : Machine τ ι ο} {R : σ → τ → Prop}
    (h : M.Refines N R) (inputs : List ι) : ∀ {s : σ} {t : τ}, R s t →
      R (M.run s inputs).1 (N.run t inputs).1 ∧
        (M.run s inputs).2 = (N.run t inputs).2 := by
  induction inputs with
  | nil => exact fun hR => ⟨hR, rfl⟩
  | cons i rest ih =>
      intro s t hR
      obtain ⟨hnext, houtput⟩ := h s t i hR
      obtain ⟨hlast, houtputs⟩ := ih hnext
      refine ⟨hlast, ?_⟩
      show (M.step s i).2 :: (M.run (M.step s i).1 rest).2 =
        (N.step t i).2 :: (N.run (N.step t i).1 rest).2
      rw [houtput, houtputs]

/-- What holds of every answer of a step holds of every answer of a run. -/
theorem run_outputs {M : Machine σ ι ο} {P : ο → Prop} (h : ∀ s i, P (M.step s i).2)
    (inputs : List ι) : ∀ s, ∀ o ∈ (M.run s inputs).2, P o := by
  induction inputs with
  | nil => exact fun s o hmem => (List.not_mem_nil hmem).elim
  | cons i rest ih =>
      intro s o hmem
      rcases List.mem_cons.mp hmem with rfl | hrest
      · exact h s i
      · exact ih _ o hrest

end Machine
