import Mathlib.Data.List.Perm.Basic
import Mathlib.Data.List.Nodup
import Mathlib.Data.List.Range

/-!
# Ledgers of numbered objects

Objects are numbered in the order in which they are made, and a ledger lists the numbers
of all that somebody answers for: those in use, in transit, or put away.  It is balanced
if every number that was given out stands in it once.

A step that hands objects on reorders the ledger, and one that makes an object adds the
next number; both keep a balanced ledger balanced.  A step that drops an object leaves the
ledger short, and no later step can make good for it.
-/

/-- How many objects were made, and the numbers that somebody answers for. -/
structure Ledger where
  made : Nat
  entries : List Nat

namespace Ledger

variable {l l' : Ledger}

/-- Every object that was made is listed, and listed once. -/
def Balanced (l : Ledger) : Prop := l.entries.Perm (List.range l.made)

theorem balanced_empty : Balanced ⟨0, []⟩ := List.Perm.refl _

theorem Balanced.count (h : l.Balanced) {n : Nat} (hn : n < l.made) : l.entries.count n = 1 := by
  rw [List.Perm.count_eq h n]
  exact List.count_eq_one_of_mem List.nodup_range (List.mem_range.mpr hn)

theorem Balanced.length (h : l.Balanced) : l.entries.length = l.made := by
  rw [List.Perm.length_eq h, List.length_range]

/-- A step that drops nothing: it hands objects on, or makes one. -/
inductive Keeps (l l' : Ledger) : Prop where
  | hands (made : l'.made = l.made) (entries : l'.entries.Perm l.entries)
  | makes (made : l'.made = l.made + 1) (entries : l'.entries.Perm (l.made :: l.entries))

/-- A step that drops one object: one that was listed, or the one that it has just made. -/
inductive Drops (l l' : Ledger) : Prop where
  | listed (made : l'.made = l.made) (n : Nat) (entries : l.entries.Perm (n :: l'.entries))
  | new (made : l'.made = l.made + 1) (entries : l'.entries.Perm l.entries)

theorem Keeps.refl (l : Ledger) : Keeps l l := .hands rfl (List.Perm.refl _)

theorem Keeps.balanced (hstep : Keeps l l') (h : l.Balanced) : l'.Balanced := by
  cases hstep with
  | hands hmade hentries =>
      rw [Balanced, hmade]
      exact hentries.trans h
  | makes hmade hentries =>
      rw [Balanced, hmade, List.range_succ]
      refine hentries.trans ?_
      exact (h.cons l.made).trans (List.perm_append_singleton _ _).symm

/-- How many objects nobody answers for. -/
def missing (l : Ledger) : Int := l.made - l.entries.length

theorem Balanced.missing (h : l.Balanced) : l.missing = 0 := by
  have hlength := h.length
  unfold Ledger.missing
  omega

theorem Keeps.missing (h : Keeps l l') : l'.missing = l.missing := by
  unfold Ledger.missing
  cases h with
  | hands hmade hentries => rw [hmade, hentries.length_eq]
  | makes hmade hentries =>
      have hlength := hentries.length_eq
      rw [List.length_cons] at hlength
      omega

theorem Drops.missing (h : Drops l l') : l'.missing = l.missing + 1 := by
  unfold Ledger.missing
  cases h with
  | listed hmade n hentries =>
      have hlength := hentries.length_eq
      rw [List.length_cons] at hlength
      omega
  | new hmade hentries =>
      have hlength := hentries.length_eq
      omega

end Ledger
