import DocQuery.Proofs.Forest
import Mathlib.Data.List.Nodup
import Mathlib.Logic.Relation

/-!
# Ancestors and siblings in a forest

The walks go by the links of a node: its parent and its position. In a forest they find what the
lists of children say.

- `Tree.IsBelow`: a node is reached from another by steps into lists of children.
- `Tree.IsForest.mem_ancestors_iff`, `Tree.IsForest.isDescendantOf_iff`: the ancestors are what a
  node is below.
- `Tree.IsForest.nodup_children`, `Tree.IsForest.disjoint_children`: a node is listed once.
- `Tree.IsForest.precedingSiblings_eq`: the preceding siblings stand before the node in the list
  that holds it, and are read backwards.
- `Tree.IsForest.precedingSiblings_eq_append_iff`: whether a node is among them, and what stands
  between, is a matter of that list alone.
-/

namespace DocQuery

namespace Tree

/-- The second node is reached from the first by one or more steps, each from a node to one of
its children. -/
def IsBelow (t : Tree) : NodeId → NodeId → Prop :=
  Relation.TransGen fun a b => b ∈ t.children a

namespace IsForest

variable {t : Tree} {a v p : NodeId} {before after : List NodeId}

theorem isBelow_of_mem_path {path : List NodeId} (h : t.IsForest) (hv : t.Climbs v path)
    (ha : a ∈ path) : t.IsBelow a v := by
  induction hv with
  | top => contradiction
  | step hs _ ih =>
    have hchild := h.mem_of_parent? hs
    rcases List.mem_cons.1 ha with rfl | ha
    · exact .single hchild
    · exact .tail (ih ha) hchild

theorem mem_path_of_isBelow {path : List NodeId} (h : t.IsForest) (hb : t.IsBelow a v)
    (hv : t.Climbs v path) : a ∈ path := by
  induction hb generalizing path with
  | single hchild =>
    cases hv with
    | top hn => exact absurd hchild (h.not_mem_of_parent? hn _)
    | step hs _ =>
      obtain rfl := Option.some.inj (hs.symm.trans (h.parent?_of_mem hchild))
      exact List.mem_cons_self
  | tail _ hchild ih =>
    cases hv with
    | top hn => exact absurd hchild (h.not_mem_of_parent? hn _)
    | step hs hp =>
      obtain rfl := Option.some.inj (hs.symm.trans (h.parent?_of_mem hchild))
      exact List.mem_cons_of_mem _ (ih hp)

/-- The ancestors of a node are the nodes that it is reached from. -/
theorem mem_ancestors_iff (h : t.IsForest) : a ∈ t.ancestors v ↔ t.IsBelow a v := by
  constructor
  · exact h.isBelow_of_mem_path (h.climbs_ancestors v)
  · exact fun hb => h.mem_path_of_isBelow hb (h.climbs_ancestors v)

/-- Descendants are reached by steps down. -/
theorem isDescendantOf_iff (h : t.IsForest) : t.isDescendantOf v a = true ↔ t.IsBelow a v := by
  rw [isDescendantOf, List.contains_iff_mem, h.mem_ancestors_iff]

/-- No node is below itself. -/
theorem not_isBelow_self (h : t.IsForest) (v : NodeId) : ¬ t.IsBelow v v := fun hv =>
  (h.climbs_ancestors v).not_mem (h.mem_ancestors_iff.2 hv)

/-- The ancestors of a child are its parent and the ancestors of that. -/
theorem ancestors_of_parent? (h : t.IsForest) (hp : t.parent? v = some p) :
    t.ancestors v = p :: t.ancestors p :=
  (h.climbs_ancestors v).unique (.step hp (h.climbs_ancestors p))

/-- A child is listed once: its position is known. -/
theorem nodup_children (h : t.IsForest) (p : NodeId) : (t.children p).Nodup := by
  refine List.nodup_iff_getElem?_ne_getElem?.2 fun i j hij hj hsame => ?_
  have hlast : (t.children p)[j]? = some (t.children p)[j] := List.getElem?_eq_getElem hj
  obtain ⟨_, _, hi⟩ := h.listed (hsame.trans hlast)
  obtain ⟨_, _, hj⟩ := h.listed hlast
  exact Nat.ne_of_lt hij (hi.symm.trans hj)

/-- Different nodes have different children. -/
theorem disjoint_children (h : t.IsForest) {q : NodeId} (hne : p ≠ q) :
    List.Disjoint (t.children p) (t.children q) := by
  intro c hp hq
  exact hne (Option.some.inj ((h.parent?_of_mem hp).symm.trans (h.parent?_of_mem hq)))

/-- What stands before a node in a list of children, it has as its preceding siblings. -/
theorem precedingSiblings_eq (h : t.IsForest) (hs : t.children p = before ++ v :: after) :
    t.precedingSiblings v = before.reverse := by
  have hv : (t.children p)[before.length]? = some v := by
    rw [hs, List.getElem?_append_right (Nat.le_refl _), Nat.sub_self]
    rfl
  obtain ⟨_, hp, hi⟩ := h.listed hv
  unfold precedingSiblings
  rw [hp]
  show ((t.children p).take (t.index v)).reverse = before.reverse
  rw [hi, hs, List.take_left]

/-- A node stands before another in a list of children exactly if it is among the preceding
siblings, with the same nodes in between. -/
theorem precedingSiblings_eq_append_iff (h : t.IsForest) {between : List NodeId} :
    t.precedingSiblings v = between.reverse ++ a :: before.reverse ↔
      ∃ p after, t.children p = before ++ a :: (between ++ v :: after) := by
  constructor
  · intro hv
    cases hp : t.parent? v with
    | none => simp [precedingSiblings, hp] at hv
    | some p =>
      obtain ⟨front, after, hs⟩ := List.append_of_mem (h.mem_of_parent? hp)
      have hfront : front = before ++ a :: between := by
        rw [h.precedingSiblings_eq hs] at hv
        have hrev := congrArg List.reverse hv
        simpa using hrev
      refine ⟨p, after, ?_⟩
      rw [hs, hfront, List.append_assoc, List.cons_append]
  · rintro ⟨p, after, hs⟩
    rw [← List.cons_append, ← List.append_assoc] at hs
    rw [h.precedingSiblings_eq hs, List.reverse_append, List.reverse_cons, List.append_assoc]
    rfl

end IsForest

end Tree

end DocQuery
