/-!
# Conveyors

A conveyor takes elements in at one end and hands them out at the other, first in and first
out.  Between the two ends it may lose some, but it neither changes their order nor makes
any up.

Queues, the hands of the threads that serve them, and events that are still to be delivered
are stretches of one conveyor: an element that goes from one stretch to the next stays where
it is in the order.  Conveyors can be put in series, with what leaves one entering the next.
-/

universe u v

/-- What has entered, what is on its way with the next to leave first, and what has left. -/
structure Conveyor (E : Type u) where
  entered : List E
  onWay : List E
  left : List E

namespace Conveyor

variable {E : Type u} {c c' c'' d d' : Conveyor E} {out rest kept added : List E}

/-- The elements of `out` leave, those of `added` enter, and of `rest`, which is between
them, `kept` is still there afterwards. -/
structure Moves (c c' : Conveyor E) (out rest kept added : List E) : Prop where
  front : c.onWay = out ++ rest
  onWay : c'.onWay = kept ++ added
  left : c'.left = c.left ++ out
  entered : c'.entered = c.entered ++ added

theorem Moves.none (c : Conveyor E) : Moves c c [] c.onWay c.onWay [] :=
  ⟨rfl, (List.append_nil _).symm, (List.append_nil _).symm, (List.append_nil _).symm⟩

/-! ## Nothing is made up -/

/-- Nothing is made up, repeated or put in another place. -/
def Keeps (c : Conveyor E) : Prop := (c.left ++ c.onWay).Sublist c.entered

theorem Keeps.onWay_sublist (h : c.Keeps) : c.onWay.Sublist c.entered :=
  (List.sublist_append_right c.left c.onWay).trans h

theorem Keeps.moves (h : c.Keeps) (hmoves : Moves c c' out rest kept added)
    (hkept : kept.Sublist rest) : c'.Keeps := by
  have hbefore : ((c.left ++ out) ++ rest).Sublist c.entered := by
    rw [List.append_assoc, ← hmoves.front]
    exact h
  show (c'.left ++ c'.onWay).Sublist c'.entered
  rw [hmoves.left, hmoves.onWay, hmoves.entered, ← List.append_assoc]
  exact ((hkept.append_left _).trans hbefore).append_right added

/-! ## Nothing is lost -/

/-- What was on the way before, and what has entered since, has left since or is on the way
now, in this order. -/
def Passes (c c' : Conveyor E) : Prop :=
  ∃ added out, c'.entered = c.entered ++ added ∧ c'.left = c.left ++ out ∧
    c.onWay ++ added = out ++ c'.onWay

theorem Passes.refl (c : Conveyor E) : Passes c c :=
  ⟨[], [], (List.append_nil _).symm, (List.append_nil _).symm, List.append_nil _⟩

theorem Passes.trans (h : Passes c c') (h' : Passes c' c'') : Passes c c'' := by
  obtain ⟨added, out, hentered, hleft, hway⟩ := h
  obtain ⟨added', out', hentered', hleft', hway'⟩ := h'
  refine ⟨added ++ added', out ++ out', ?_, ?_, ?_⟩
  · rw [hentered', hentered, List.append_assoc]
  · rw [hleft', hleft, List.append_assoc]
  · rw [← List.append_assoc, hway, List.append_assoc, hway', List.append_assoc]

theorem Moves.passes (h : Moves c c' out rest rest added) : Passes c c' := by
  refine ⟨added, out, h.entered, h.left, ?_⟩
  rw [h.front, h.onWay, List.append_assoc]

/-! ## Two in series -/

/-- What leaves the first enters the second. -/
def series (c d : Conveyor E) : Conveyor E where
  entered := c.entered
  onWay := d.onWay ++ c.onWay
  left := d.left

/-- The second may have begun late, or have taken only a part. -/
theorem Keeps.series (hc : c.Keeps) (hd : d.Keeps) (hlink : d.entered.Sublist c.left) :
    (c.series d).Keeps := by
  show (d.left ++ (d.onWay ++ c.onWay)).Sublist c.entered
  rw [← List.append_assoc]
  exact ((hd.trans hlink).append_right c.onWay).trans hc

/-- While the second takes all that leaves the first, nothing is lost between them. -/
theorem Moves.series {between rest' : List E} (hc : Moves c c' between rest rest added)
    (hd : Moves d d' out rest' rest' between) :
    Moves (c.series d) (c'.series d') out (rest' ++ (between ++ rest)) (rest' ++ (between ++ rest))
      added := by
  refine ⟨?_, ?_, hd.left, hc.entered⟩
  · show d.onWay ++ c.onWay = _
    rw [hd.front, hc.front, List.append_assoc]
  · show d'.onWay ++ c'.onWay = _
    rw [hd.onWay, hc.onWay, List.append_assoc, List.append_assoc, List.append_assoc]

end Conveyor
