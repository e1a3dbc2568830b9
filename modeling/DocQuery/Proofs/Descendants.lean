import DocQuery.Proofs.Relatives

/-!
# Descendants form a forest order

Whether a node is a descendant of another is found by walking up, and said by steps down. The
steps down make an order of the nodes; that the nodes above a node are a chain in it comes from
the way up, which is a single one. Among siblings there is an order as well: the positions that
the children of a node know are those of its list, so that the list can be put together from what
stands before a node, the node, and the later children.

- `Tree.IsForest.isBelow_total`: of two nodes above a third one, one is above the other.
- `Tree.IsForest.exists_children_eq`: what stands behind a child, by parents and positions.
- `Tree.descendants_are_ordered`: what this says about every tree that admissible edits build.
-/

namespace DocQuery

namespace Tree

namespace IsForest

variable {t : Tree} {p v x y z : NodeId}

/-! ## The order of descendants -/

/-- Of two different nodes on one way up, one is on the way up from the other. -/
theorem total_of_climbs (h : t.IsForest) {path : List NodeId} (hx : t.Climbs x path)
    (hy : y ∈ path) (hz : z ∈ path) : y = z ∨ t.IsBelow z y ∨ t.IsBelow y z := by
  induction hx with
  | top => contradiction
  | step _ hp ih =>
    rcases List.mem_cons.1 hy with rfl | hyp
    · rcases List.mem_cons.1 hz with rfl | hzp
      · exact .inl rfl
      · exact .inr (.inl (h.isBelow_of_mem_path hp hzp))
    · rcases List.mem_cons.1 hz with rfl | hzp
      · exact .inr (.inr (h.isBelow_of_mem_path hp hyp))
      · exact ih hyp hzp

/-- The nodes above a node are a chain. -/
theorem isBelow_total (h : t.IsForest) (hy : t.IsBelow y x) (hz : t.IsBelow z x) :
    y = z ∨ t.IsBelow z y ∨ t.IsBelow y z :=
  h.total_of_climbs (h.climbs_ancestors x) (h.mem_ancestors_iff.2 hy) (h.mem_ancestors_iff.2 hz)

/-! ## The order of siblings -/

/-- Children are listed in the order of their positions. -/
theorem pairwise_index_children (h : t.IsForest) (p : NodeId) :
    (t.children p).Pairwise fun a b => t.index a < t.index b := by
  rw [List.pairwise_iff_getElem]
  intro i j hi hj hij
  obtain ⟨_, _, hfirst⟩ := h.listed (List.getElem?_eq_getElem hi)
  obtain ⟨_, _, hsecond⟩ := h.listed (List.getElem?_eq_getElem hj)
  rwa [hfirst, hsecond]

/-- **A list of children is made of the preceding siblings of a child, the child, and the later
children.** What stands behind the child are the nodes with the same parent at later positions, in
the order of their positions, which are all different. -/
theorem exists_children_eq (h : t.IsForest) (hp : t.parent? x = some p) :
    ∃ later, later.Pairwise (fun a b => t.index a < t.index b) ∧
      (∀ n, n ∈ later ↔ t.parent? n = some p ∧ t.index x < t.index n) ∧
      t.children p = (t.precedingSiblings x).reverse ++ x :: later := by
  obtain ⟨before, later, hs⟩ := List.append_of_mem (h.mem_of_parent? hp)
  have hpairwise := h.pairwise_index_children p
  rw [hs, List.pairwise_append, List.pairwise_cons] at hpairwise
  obtain ⟨-, ⟨hbehind, hlater⟩, hbefore⟩ := hpairwise
  refine ⟨later, hlater, fun n => ⟨fun hn => ⟨h.parent?_of_mem ?_, hbehind n hn⟩, ?_⟩, ?_⟩
  · rw [hs]
    exact List.mem_append_right _ (List.mem_cons_of_mem _ hn)
  · -- a child at a later position stands neither before the child nor at its place
    rintro ⟨hn, hlt⟩
    have hlisted := h.mem_of_parent? hn
    rw [hs, List.mem_append, List.mem_cons] at hlisted
    rcases hlisted with hn | rfl | hn
    · exact absurd hlt (Nat.lt_asymm (hbefore n hn x List.mem_cons_self))
    · exact absurd hlt (Nat.lt_irrefl _)
    · exact hn
  · rw [h.precedingSiblings_eq hs, List.reverse_reverse, hs]

end IsForest

/-- **Descendants form a forest order.** In every tree that admissible edits build, a node is a
descendant of another exactly if it is reached from there by one or more steps into lists of
children. No node is a descendant of itself, a descendant of a descendant is a descendant, and of
two different nodes with a common descendant one is a descendant of the other. A list of children
is made of the preceding siblings of any child, backwards, the child, and the nodes with the same
parent and a larger position, in the order of their positions. -/
theorem descendants_are_ordered (edits : List Edit) (h : Tree.empty.Admits edits) :
    let t := Tree.empty.perform edits
    (∀ x y, t.isDescendantOf x y = true ↔ t.IsBelow y x) ∧
    (∀ x, t.isDescendantOf x x = false) ∧
    (∀ x y z, t.isDescendantOf x y = true → t.isDescendantOf y z = true →
      t.isDescendantOf x z = true) ∧
    (∀ x y z, t.isDescendantOf x y = true → t.isDescendantOf x z = true → y ≠ z →
      t.isDescendantOf y z = true ∨ t.isDescendantOf z y = true) ∧
    ∀ x p, t.parent? x = some p → ∃ later,
      later.Pairwise (fun a b => t.index a < t.index b) ∧
        (∀ n, n ∈ later ↔ t.parent? n = some p ∧ t.index x < t.index n) ∧
        t.children p = (t.precedingSiblings x).reverse ++ x :: later := by
  intro t
  have ht : t.IsForest := IsForest.empty.perform h
  refine ⟨fun x y => ht.isDescendantOf_iff, fun x => ?_, fun x y z => ?_, fun x y z => ?_,
    fun x p hp => ht.exists_children_eq hp⟩
  · rw [Bool.eq_false_iff, ne_eq, ht.isDescendantOf_iff]
    exact ht.not_isBelow_self x
  · simp only [ht.isDescendantOf_iff]
    exact fun hxy hyz => Relation.TransGen.trans hyz hxy
  · simp only [ht.isDescendantOf_iff]
    exact fun hxy hxz hne => (ht.isBelow_total hxy hxz).resolve_left hne

/-- A subtree that is attached late, with a child that has siblings on both sides. -/
theorem descendants_are_ordered_joined :
    let named (name : String) : Element := ⟨.ofName name, []⟩
    let edits : List Edit :=
      [.appendElement 0 (named "ul"), .create (.element (named "li")), .appendText 2 "one",
        .appendElement 2 (named "b"), .appendComment 2 "two", .attach 1 2]
    let t := Tree.empty.perform edits
    Tree.empty.Admits edits ∧ t.IsBelow 0 4 ∧
      (t.isDescendantOf 2 1 = true ∨ t.isDescendantOf 1 2 = true) ∧
      ∀ n, n ∈ [5] ↔ t.parent? n = some 2 ∧ t.index 4 < t.index n := by
  intro named edits t
  have h : Tree.empty.Admits edits := by decide
  obtain ⟨hbelow, -, -, htotal, hsiblings⟩ := descendants_are_ordered edits h
  have hchildren : t.children 2 = [3, 4, 5] := by decide
  have hpreceding : t.precedingSiblings 4 = [3] := by decide
  obtain ⟨later, -, hlater, hs⟩ := hsiblings 4 2 (by decide)
  rw [hchildren, hpreceding] at hs
  obtain rfl : [5] = later := by simpa using hs
  refine ⟨h, (hbelow 4 0).1 (by decide), htotal 4 2 1 (by decide) (by decide) (by decide), ?_⟩
  exact hlater

end Tree

end DocQuery
