import Mathlib.Data.List.Nodup
import Mathlib.Data.List.TakeWhile

/-!
# Linked lists with iterators

A doubly linked list as its nodes in order.  Each node has an identity of its own, which
is never given to another node, also not after the node has been erased.  An iterator is
the identity of a node, or `none` for the position behind the last one; it stays what it is
when the list changes, so it can point at a node that is gone.

* `deref` and `next` read and advance an iterator, and have no result for one whose node
  is gone;
* `rest_pushBack` and `rest_remove`: what is ahead of an iterator when the list grows or
  shrinks;
* `gone_pushBack`: an iterator whose node is gone stays without one.
-/

universe u

/-- A node of a list, with its identity. -/
structure Node (α : Type u) where
  id : Nat
  element : α

/-- The nodes of a list in order.  The identities below `allocated` have been given
out. -/
structure NodeList (α : Type u) where
  nodes : List (Node α)
  allocated : Nat
  id_lt : ∀ node ∈ nodes, node.id < allocated
  ids_nodup : (nodes.map Node.id).Nodup

namespace NodeList

variable {α : Type u}

/-- The list without nodes. -/
def empty : NodeList α where
  nodes := []
  allocated := 0
  id_lt := by simp
  ids_nodup := .nil

/-- A new last node. -/
def pushBack (list : NodeList α) (a : α) : NodeList α where
  nodes := list.nodes ++ [{ id := list.allocated, element := a }]
  allocated := list.allocated + 1
  id_lt := by
    intro node hmem
    rcases List.mem_append.mp hmem with hold | hnew
    · exact Nat.lt_succ_of_lt (list.id_lt node hold)
    · rw [List.mem_singleton.mp hnew]
      exact Nat.lt_succ_self _
  ids_nodup := by
    rw [List.map_append, List.nodup_append]
    refine ⟨list.ids_nodup, List.nodup_singleton _, ?_⟩
    intro id hid id' hid'
    obtain ⟨node, hmem, rfl⟩ := List.mem_map.mp hid
    rw [List.mem_singleton.mp hid']
    exact Nat.ne_of_lt (list.id_lt node hmem)

/-- Erase every node with this element. -/
def remove [DecidableEq α] (list : NodeList α) (a : α) : NodeList α where
  nodes := list.nodes.filter (fun node => node.element ≠ a)
  allocated := list.allocated
  id_lt node hmem := list.id_lt node (List.mem_of_mem_filter hmem)
  ids_nodup := list.ids_nodup.sublist (List.filter_sublist.map Node.id)

/-! ## Iterators -/

/-- The iterator of the first node. -/
def begin (list : NodeList α) : Option Nat := list.nodes.head?.map Node.id

/-- The nodes from an iterator's on. -/
def rest (list : NodeList α) : Option Nat → List (Node α)
  | none => []
  | some id => list.nodes.dropWhile fun node => node.id != id

/-- The node that an iterator points at. -/
def deref (list : NodeList α) (it : Option Nat) : Option (Node α) := (list.rest it).head?

/-- The iterator of the node behind. -/
def next (list : NodeList α) (it : Option Nat) : Option (Option Nat) :=
  match list.rest it with
  | [] => none
  | _ :: left => some (left.head?.map Node.id)

/-- The iterator points at a node of the list. -/
def Valid (list : NodeList α) (it : Option Nat) : Prop := ∃ node ∈ list.nodes, it = some node.id

section Iterators

variable {list : NodeList α} {node : Node α}

/-- A node has one place in the list. -/
theorem rest_of_split (before left : List (Node α)) (h : list.nodes = before ++ node :: left) :
    list.rest (some node.id) = node :: left := by
  -- the nodes before it have other identities
  have hbefore : ∀ other ∈ before, (other.id != node.id) = true := by
    intro other hmem
    have hnodup := list.ids_nodup
    rw [h, List.map_append, List.nodup_append] at hnodup
    have hne := hnodup.2.2 other.id (List.mem_map_of_mem hmem) node.id (by simp)
    simpa using hne
  show list.nodes.dropWhile (fun other => other.id != node.id) = node :: left
  rw [h, List.dropWhile_append_of_pos hbefore]
  simp

theorem exists_split (h : node ∈ list.nodes) :
    ∃ before left, list.nodes = before ++ node :: left ∧
      list.rest (some node.id) = node :: left := by
  obtain ⟨before, left, hsplit⟩ := List.append_of_mem h
  exact ⟨before, left, hsplit, rest_of_split before left hsplit⟩

/-- The iterator of the first node of a trailing part of the list. -/
theorem rest_head (before left : List (Node α)) (h : list.nodes = before ++ left) :
    list.rest (left.head?.map Node.id) = left ∧
      (left.head?.map Node.id = none ∨ list.Valid (left.head?.map Node.id)) := by
  cases left with
  | nil => exact ⟨rfl, .inl rfl⟩
  | cons node left =>
      refine ⟨rest_of_split before left h, .inr ⟨node, ?_, rfl⟩⟩
      rw [h]
      exact List.mem_append_right _ (List.mem_cons_self ..)

theorem rest_begin : list.rest list.begin = list.nodes := (rest_head [] list.nodes rfl).1

theorem begin_valid : list.begin = none ∨ list.Valid list.begin :=
  (rest_head [] list.nodes rfl).2

/-- The iterator behind a node of the list has one node fewer ahead. -/
theorem next_of_mem (h : node ∈ list.nodes) :
    ∃ it, list.next (some node.id) = some it ∧ (it = none ∨ list.Valid it) ∧
      list.rest (some node.id) = node :: list.rest it := by
  obtain ⟨before, left, hsplit, hrest⟩ := exists_split h
  obtain ⟨hleft, hvalid⟩ := rest_head (before ++ [node]) left
    (by rw [hsplit, List.append_assoc, List.singleton_append])
  exact ⟨left.head?.map Node.id, by rw [next, hrest], hvalid, by rw [hrest, hleft]⟩

theorem deref_of_mem (h : node ∈ list.nodes) : list.deref (some node.id) = some node := by
  obtain ⟨_, left, _, hrest⟩ := exists_split h
  rw [deref, hrest, List.head?_cons]

/-- An iterator whose node is gone can neither be read nor advanced. -/
theorem gone {it : Option Nat} (h : ¬ list.Valid it) :
    list.deref it = none ∧ list.next it = none := by
  have hrest : list.rest it = [] := by
    cases it with
    | none => rfl
    | some id =>
        show list.nodes.dropWhile (fun node => node.id != id) = []
        rw [List.dropWhile_eq_nil_iff]
        intro node hmem
        have hne : node.id ≠ id := fun heq => h ⟨node, hmem, by rw [heq]⟩
        simpa using hne
  exact ⟨by rw [deref, hrest]; rfl, by rw [next, hrest]⟩

/-- A list that has grown at its end has the new node ahead of every valid iterator. -/
theorem rest_pushBack (h : node ∈ list.nodes) (a : α) :
    (list.pushBack a).rest (some node.id) =
      list.rest (some node.id) ++ [{ id := list.allocated, element := a }] := by
  obtain ⟨before, left, hsplit, hrest⟩ := exists_split h
  rw [hrest]
  refine rest_of_split before _ ?_
  show list.nodes ++ _ = _
  rw [hsplit]
  simp

/-- An erased node does not come back. -/
theorem gone_pushBack {id : Nat} (h : ¬ list.Valid (some id)) (hold : id < list.allocated)
    (a : α) : ¬ (list.pushBack a).Valid (some id) := by
  rintro ⟨node, hmem, hid⟩
  rcases List.mem_append.mp hmem with hin | hnew
  · exact h ⟨node, hin, hid⟩
  · rw [List.mem_singleton.mp hnew, Option.some.injEq] at hid
    exact Nat.ne_of_lt hold hid

/-- Of what is ahead of a node that stays, the nodes with other elements stay. -/
theorem rest_remove [DecidableEq α] {a : α} (h : node ∈ list.nodes) (hne : node.element ≠ a) :
    (list.remove a).rest (some node.id) =
      (list.rest (some node.id)).filter (fun other => other.element ≠ a) := by
  obtain ⟨before, left, hsplit, hrest⟩ := exists_split h
  rw [hrest, List.filter_cons_of_pos (by simpa using hne)]
  refine rest_of_split (before.filter (fun other => other.element ≠ a)) _ ?_
  show list.nodes.filter _ = _
  rw [hsplit, List.filter_append, List.filter_cons_of_pos (by simpa using hne)]

theorem mem_remove [DecidableEq α] {a : α} :
    node ∈ (list.remove a).nodes ↔ node ∈ list.nodes ∧ node.element ≠ a := by
  simp [remove]

end Iterators

end NodeList
