import DocQuery.Proofs.Queries

/-!
# The walk from a node within the walk from above it

The walk from a node that another walk visits is what the other one visits of its subtree. Their
levels correspond: in a forest the depth of a node is known from its ancestors, so that the levels
above the node hold nothing of its subtree, its own level holds the node alone, and each level
below holds the children of what the level before it holds. Other branches come in between and
change nothing in the order.

- `Tree.isWithin`: the node itself or a node below it.
- `Tree.IsForest.length_ancestors_of_mem_level`: the depth of a node in a walk.
- `Tree.IsForest.filter_level_add`: the levels of the inner walk within those of the outer one.
- `Tree.findAll_eq_filter_within`: what this says about queries.
-/

namespace DocQuery

namespace Tree

/-- Whether the node is the inner one or a descendant of it. -/
def isWithin (t : Tree) (inner id : NodeId) : Bool := id == inner || t.isDescendantOf id inner

variable {t : Tree} {start inner id a : NodeId} {depth deeper : Nat}

theorem mem_children_of_mem_below (h : id ∈ t.below a) : id ∈ t.children a := by
  unfold below at h
  split at h
  · exact h
  · contradiction

/-- Where parents and children belong to the subtree together, choosing comes before or after the
step down. -/
theorem filter_isWithin_flatMap_below {nodes : List NodeId}
    (h : ∀ a ∈ nodes, ∀ id ∈ t.below a, t.isWithin inner id = t.isWithin inner a) :
    (nodes.flatMap t.below).filter (t.isWithin inner) =
      (nodes.filter (t.isWithin inner)).flatMap t.below := by
  induction nodes with
  | nil => rfl
  | cons a nodes ih =>
    obtain ⟨ha, hnodes⟩ := List.forall_mem_cons.1 h
    rw [List.flatMap_cons, List.filter_append, List.filter_cons, ih hnodes]
    cases hw : t.isWithin inner a with
    | false =>
      have hnone : (t.below a).filter (t.isWithin inner) = [] :=
        List.filter_eq_nil_iff.2 fun id hid => by simp [ha id hid, hw]
      rw [hnone, List.nil_append, if_neg (by simp)]
    | true =>
      have hall : (t.below a).filter (t.isWithin inner) = t.below a :=
        List.filter_eq_self.2 fun id hid => (ha id hid).trans hw
      rw [hall, if_pos rfl, List.flatMap_cons]

namespace IsForest

/-! ## Depths -/

theorem isWithin_iff (h : t.IsForest) :
    t.isWithin inner id = true ↔ id = inner ∨ t.IsBelow inner id := by
  rw [isWithin, Bool.or_eq_true, beq_iff_eq, h.isDescendantOf_iff]

/-- The ancestors that a node does not share with the start of a walk count its depth. -/
theorem length_ancestors_of_mem_level (h : t.IsForest) (hid : id ∈ t.level start depth) :
    (t.ancestors id).length = depth + (t.ancestors start).length := by
  obtain ⟨path, rfl, hpath⟩ := mem_level_iff.1 hid
  rw [h.ancestors_of_descends hpath, List.length_append]

/-- What is below a node has more ancestors than the node. -/
theorem length_ancestors_lt_of_isBelow (h : t.IsForest) (hb : t.IsBelow inner id) :
    (t.ancestors inner).length < (t.ancestors id).length := by
  obtain ⟨above, habove, hlt⟩ := (h.climbs_ancestors id).exists_of_mem (h.mem_ancestors_iff.2 hb)
  rwa [h.ancestors_eq habove]

/-- A walk comes to a node before it comes to what is below the node. -/
theorem eq_or_lt_of_isWithin (h : t.IsForest) (hinner : inner ∈ t.level start depth)
    (hid : id ∈ t.level start deeper) (hw : t.isWithin inner id = true) :
    id = inner ∨ depth < deeper := by
  refine (h.isWithin_iff.1 hw).imp_right fun hb => ?_
  have hlt := h.length_ancestors_lt_of_isBelow hb
  rw [h.length_ancestors_of_mem_level hinner, h.length_ancestors_of_mem_level hid] at hlt
  exact Nat.lt_of_add_lt_add_right hlt

/-! ## Levels -/

/-- The levels above a node hold nothing of its subtree. -/
theorem filter_level_of_lt (h : t.IsForest) (hinner : inner ∈ t.level start depth)
    (hlt : deeper < depth) : (t.level start deeper).filter (t.isWithin inner) = [] := by
  refine List.filter_eq_nil_iff.2 fun id hid hw => ?_
  rcases h.eq_or_lt_of_isWithin hinner hid hw with rfl | hgt
  · exact h.disjoint_level (Nat.ne_of_lt hlt) hid hinner
  · exact Nat.lt_asymm hlt hgt

/-- Of its own level a node is all that belongs to its subtree. -/
theorem filter_level_self (h : t.IsForest) (hinner : inner ∈ t.level start depth) :
    (t.level start depth).filter (t.isWithin inner) = [inner] := by
  have hself : ∀ id ∈ t.level start depth, t.isWithin inner id = (id == inner) := by
    intro id hid
    rw [Bool.eq_iff_iff, beq_iff_eq]
    constructor
    · exact fun hw => (h.eq_or_lt_of_isWithin hinner hid hw).resolve_right (Nat.lt_irrefl depth)
    · exact fun heq => h.isWithin_iff.2 (.inl heq)
  rw [List.filter_congr hself, List.filter_beq,
    List.count_eq_one_of_mem (h.nodup_level start depth) hinner, List.replicate_one]

/-- A child other than the inner node belongs to the subtree if its parent does. -/
theorem isWithin_child (h : t.IsForest) (hc : id ∈ t.children a) (hne : id ≠ inner) :
    t.isWithin inner id = t.isWithin inner a := by
  rw [Bool.eq_iff_iff, h.isWithin_iff, h.isWithin_iff, ← h.mem_ancestors_iff,
    ← h.mem_ancestors_iff, h.ancestors_of_parent? (h.parent?_of_mem hc), List.mem_cons,
    or_iff_right hne, eq_comm]

/-- **The levels of the inner walk are what the outer walk visits of the subtree, level by
level.** -/
theorem filter_level_add (h : t.IsForest) (hinner : inner ∈ t.level start depth) (more : Nat) :
    (t.level start (depth + more)).filter (t.isWithin inner) = t.level inner more := by
  induction more with
  | zero => exact h.filter_level_self hinner
  | succ more ih =>
    -- the inner node stands in its own level, and so not among the children of a later one
    have hbelow : ∀ a ∈ t.level start (depth + more), ∀ id ∈ t.below a,
        t.isWithin inner id = t.isWithin inner a := by
      intro a ha id hid
      have hnext : id ∈ t.level start (depth + (more + 1)) := by
        rw [← Nat.add_assoc, level_succ]
        exact List.mem_flatMap_of_mem ha hid
      refine h.isWithin_child (mem_children_of_mem_below hid) ?_
      rintro rfl
      exact h.disjoint_level (Nat.ne_of_lt (by omega)) hinner hnext
    rw [← Nat.add_assoc, level_succ, filter_isWithin_flatMap_below hbelow, ih, level_succ]

/-- **The inner walk is what the outer walk visits of the subtree.** -/
theorem levelOrder_eq_filter (h : t.IsForest) (hinner : inner ∈ t.levelOrder start) :
    t.levelOrder inner = (t.levelOrder start).filter (t.isWithin inner) := by
  rw [h.isAcyclic.levelOrder_eq start (Nat.lt_succ_self t.size)] at hinner
  obtain ⟨depth, -, hinner⟩ := List.mem_flatMap.1 hinner
  have hcount : t.size < depth + (t.size + 1) := by omega
  have habove : ∀ deeper ∈ List.range depth,
      (t.level start deeper).filter (t.isWithin inner) = [] := fun _ hmem =>
    h.filter_level_of_lt hinner (List.mem_range.1 hmem)
  rw [h.isAcyclic.levelOrder_eq start hcount,
    h.isAcyclic.levelOrder_eq inner (Nat.lt_succ_self t.size), List.filter_flatMap,
    List.range_add, List.flatMap_append, List.flatMap_eq_nil_iff.2 habove, List.nil_append,
    List.flatMap_map]
  exact List.flatMap_congr fun more _ => (h.filter_level_add hinner more).symm

end IsForest

/-- **A query from an inner start only leaves out.** In every tree that admissible edits build, and
for every node that the walk from a start visits: from this node a selector finds what it finds
from the start, in the same order, but for what is neither the node nor a descendant of it. -/
theorem findAll_eq_filter_within (edits : List Edit) (h : Tree.empty.Admits edits)
    (start inner : NodeId) (s : Selector) :
    let t := Tree.empty.perform edits
    inner ∈ t.levelOrder start →
      t.findAll inner s = (t.findAll start s).filter (t.isWithin inner) := by
  intro t hinner
  have ht : t.IsForest := IsForest.empty.perform h
  rw [findAll, findAll, ht.levelOrder_eq_filter hinner, List.filter_comm]

/-- Two branches whose levels come in turn. -/
theorem findAll_eq_filter_within_branches :
    let named (name : String) : Element := ⟨.ofName name, []⟩
    let edits : List Edit :=
      [.appendElement 0 (named "ul"), .appendElement 1 (named "li"),
        .appendElement 1 (named "li"), .appendElement 3 (named "b"),
        .appendElement 2 (named "b"), .appendElement 3 (named "i"), .appendElement 4 (named "b")]
    let t := Tree.empty.perform edits
    let s : Selector := .not (.tag (.ofName "i"))
    Tree.empty.Admits edits ∧ 3 ∈ t.levelOrder 1 ∧ t.findAll 1 s = [1, 2, 3, 5, 4, 7] ∧
      t.findAll 3 s = [3, 4, 7] := by
  intro named edits t s
  have h : Tree.empty.Admits edits := by decide
  have hinner : 3 ∈ t.levelOrder 1 := by decide +kernel
  have hfound : t.findAll 1 s = [1, 2, 3, 5, 4, 7] := by decide +kernel
  have hwithin := findAll_eq_filter_within edits h 1 3 s hinner
  refine ⟨h, hinner, hfound, hwithin.trans ?_⟩
  rw [hfound]
  decide

end Tree

end DocQuery
