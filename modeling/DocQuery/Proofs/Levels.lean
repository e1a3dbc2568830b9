import DocQuery.Proofs.Relatives
import DocQuery.Query.LevelOrder

/-!
# The queue is emptied level by level

While the walk visits one level, the queue holds the rest of that level and, behind it, the
beginning of the next one. So it visits the start, then the children of the start, then their
children, and it ends if some level is empty. Without cycles the way down to a node passes through
different elements, of which there are only so many; this bounds the number of levels, and with it
the number of visits, which makes the limit of the computed walk one that is never met.

- `Tree.level`: the nodes at a depth below the start, each as often as ways lead down to it.
- `Tree.Visits`: the visits that follow from a queue, with no limit on their number.
- `Tree.IsAcyclic`: no node is below itself.
- `Tree.Descends`: the ways down from the start.
- `Tree.IsAcyclic.visits_levelOrder`: the walk ends, and the computed walk is all of it.
- `Tree.IsAcyclic.levelOrder_eq`: it is made of the levels.
-/

namespace DocQuery

namespace Tree

variable {t : Tree} {start id a : NodeId} {path : List NodeId}

/-! ## Levels -/

/-- The level at a depth: the start alone, and below each level the children of its elements. -/
def level (t : Tree) (start : NodeId) : Nat → List NodeId
  | 0 => [start]
  | depth + 1 => ((level t start depth).filter t.isElement).flatMap t.children

@[simp] theorem level_zero (t : Tree) (start : NodeId) : t.level start 0 = [start] := rfl

/-- The next level is what the nodes of this one add to the queue. -/
theorem level_succ (t : Tree) (start : NodeId) (depth : Nat) :
    t.level start (depth + 1) = (t.level start depth).flatMap t.below := by
  rw [level]
  induction t.level start depth with
  | nil => rfl
  | cons id rest ih =>
    rw [List.flatMap_cons, below, List.filter_cons, ← ih]
    split <;> rfl

/-! ## The queue -/

/-- The walk from the queue ends, and its visits are these, in this order. -/
inductive Visits (t : Tree) : List NodeId → List NodeId → Prop where
  | done : Visits t [] []
  | visit {id : NodeId} {queue visited : List NodeId} (h : Visits t (queue ++ t.below id) visited) :
      Visits t (id :: queue) (id :: visited)

namespace Visits

variable {queue next visited : List NodeId}

/-- The front of a queue is visited before what stands behind it, and what it adds comes last. -/
theorem append (h : t.Visits (next ++ queue.flatMap t.below) visited) :
    t.Visits (queue ++ next) (queue ++ visited) := by
  induction queue generalizing next with
  | nil =>
    rw [List.flatMap_nil, List.append_nil] at h
    exact h
  | cons id queue ih =>
    rw [List.flatMap_cons, ← List.append_assoc] at h
    have hrest := ih h
    rw [← List.append_assoc] at hrest
    exact .visit hrest

/-- There is one sequence of visits at most. -/
theorem unique {visited' : List NodeId} (h : t.Visits queue visited)
    (h' : t.Visits queue visited') : visited = visited' := by
  induction h generalizing visited' with
  | done =>
    cases h'
    rfl
  | visit _ ih =>
    cases h' with
    | visit h' => rw [ih h']

/-- A limit that the visits keep to does not show. -/
theorem visitsFrom_eq (h : t.Visits queue visited) {limit : Nat} (hl : visited.length ≤ limit) :
    t.visitsFrom limit queue = visited := by
  induction h generalizing limit with
  | done => cases limit <;> rfl
  | visit _ ih =>
    cases limit with
    | zero => exact absurd hl (by simp)
    | succ limit =>
      rw [visitsFrom, ih (Nat.le_of_succ_le_succ hl)]

end Visits

/-- From any level on, the walk goes through the levels up to an empty one. -/
theorem visits_levels {count : Nat} {depth : Nat} (h : t.level start (depth + count) = []) :
    t.Visits (t.level start depth) ((List.range' depth count).flatMap (t.level start)) := by
  -- by induction on the number of levels that are left
  induction count generalizing depth with
  | zero =>
    rw [Nat.add_zero] at h
    rw [h]
    exact .done
  | succ count ih =>
    have hnext : t.level start (depth + 1 + count) = [] := by
      rwa [Nat.add_right_comm]
    have hbelow := ih hnext
    rw [level_succ] at hbelow
    have hlevel : t.Visits (t.level start depth ++ []) (t.level start depth ++ _) :=
      .append hbelow
    rw [List.append_nil] at hlevel
    exact hlevel

/-! ## Ways down -/

/-- No steps into lists of children lead from a node back to it. -/
def IsAcyclic (t : Tree) : Prop := ∀ id, ¬ t.IsBelow id id

/-- A tree in which children have greater numbers than their parents has no cycle. -/
theorem isAcyclic_of_lt (h : ∀ p < t.size, ∀ c ∈ t.children p, p < c) : t.IsAcyclic := by
  intro id hid
  have hlt : ∀ {a b}, t.IsBelow a b → a < b := by
    intro a b hb
    induction hb with
    | single hc => exact h _ (lt_size_of_mem_children hc) _ hc
    | tail _ hc ih => exact Nat.lt_trans ih (h _ (lt_size_of_mem_children hc) _ hc)
  exact Nat.lt_irrefl id (hlt hid)

/-- The path leads through elements from the start down to the node. It begins with the node above
and ends with the start itself. -/
inductive Descends (t : Tree) (start : NodeId) : List NodeId → NodeId → Prop where
  | here : Descends t start [] start
  | step {path : List NodeId} {a id : NodeId} (h : Descends t start path a)
      (ha : t.isElement a = true) (hid : id ∈ t.children a) : Descends t start (a :: path) id

/-- A level holds the nodes to which ways of its length lead down. -/
theorem mem_level_iff {depth : Nat} :
    id ∈ t.level start depth ↔ ∃ path, path.length = depth ∧ t.Descends start path id := by
  induction depth generalizing id with
  | zero =>
    rw [level_zero, List.mem_singleton]
    constructor
    · rintro rfl
      exact ⟨[], rfl, .here⟩
    · rintro ⟨path, hlength, h⟩
      obtain rfl := List.length_eq_zero_iff.1 hlength
      cases h
      rfl
  | succ depth ih =>
    rw [level, List.mem_flatMap]
    constructor
    · rintro ⟨a, ha, hid⟩
      obtain ⟨hmem, helement⟩ := List.mem_filter.1 ha
      obtain ⟨path, hlength, h⟩ := ih.1 hmem
      exact ⟨a :: path, congrArg Nat.succ hlength, .step h helement hid⟩
    · rintro ⟨path, hlength, h⟩
      cases h with
      | here => contradiction
      | step h helement hid =>
        have hmem := ih.2 ⟨_, Nat.succ.inj hlength, h⟩
        exact ⟨_, List.mem_filter.2 ⟨hmem, helement⟩, hid⟩

namespace Descends

theorem isElement_of_mem (h : t.Descends start path id) (ha : a ∈ path) :
    t.isElement a = true := by
  induction h with
  | here => contradiction
  | step _ helement _ ih =>
    rcases List.mem_cons.1 ha with rfl | ha
    · exact helement
    · exact ih ha

theorem isBelow_of_mem (h : t.Descends start path id) (ha : a ∈ path) : t.IsBelow a id := by
  induction h with
  | here => contradiction
  | step _ _ hid ih =>
    rcases List.mem_cons.1 ha with rfl | ha
    · exact .single hid
    · exact .tail (ih ha) hid

/-- A way of some length ends with the start. -/
theorem eq_nil_or_eq_append (h : t.Descends start path id) :
    (path = [] ∧ id = start) ∨ ∃ nearer, path = nearer ++ [start] := by
  induction h with
  | here => exact .inl ⟨rfl, rfl⟩
  | @step path a id _ _ _ ih =>
    rcases ih with ⟨rfl, rfl⟩ | ⟨nearer, rfl⟩
    · exact .inr ⟨[], rfl⟩
    · exact .inr ⟨a :: nearer, rfl⟩

theorem nodup (h : t.Descends start path id) (hacyclic : t.IsAcyclic) : path.Nodup := by
  induction h with
  | here => exact List.nodup_nil
  | step h _ _ ih =>
    refine List.nodup_cons.2 ⟨fun hmem => ?_, ih⟩
    exact hacyclic _ (h.isBelow_of_mem hmem)

/-- A way down passes through different nodes of the tree. -/
theorem length_le (h : t.Descends start path id) (hacyclic : t.IsAcyclic) :
    path.length ≤ t.size :=
  length_le_size (h.nodup hacyclic) fun _ ha => lt_size_of_isElement (h.isElement_of_mem ha)

end Descends

/-! ## The limit -/

theorem length_children_le (t : Tree) (id : NodeId) :
    (t.children id).length ≤ t.childEntries := by
  have hsum : ∀ nodes : List Node, ∀ node ∈ nodes,
      node.children.length ≤ nodes.foldr (fun node n => node.children.length + n) 0 := by
    intro nodes node hnode
    induction nodes with
    | nil => contradiction
    | cons other nodes ih =>
      rw [List.foldr_cons]
      rcases List.mem_cons.1 hnode with rfl | hnode
      · exact Nat.le_add_right _ _
      · exact Nat.le_trans (ih hnode) (Nat.le_add_left _ _)
  unfold children childEntries
  split
  · rename_i node hnode
    rw [← Array.foldr_toList]
    refine hsum _ node (Array.mem_toList_iff.2 ?_)
    exact Array.mem_of_getElem? hnode
  · exact Nat.zero_le _

theorem length_below_le (t : Tree) (id : NodeId) : (t.below id).length ≤ t.childEntries := by
  unfold below
  split
  · exact length_children_le t id
  · exact Nat.zero_le _

theorem length_flatMap_below_le (t : Tree) (nodes : List NodeId) :
    (nodes.flatMap t.below).length ≤ nodes.length * t.childEntries := by
  induction nodes with
  | nil => exact Nat.zero_le _
  | cons id nodes ih =>
    rw [List.flatMap_cons, List.length_append, List.length_cons, Nat.succ_mul, Nat.add_comm]
    exact Nat.add_le_add ih (length_below_le t id)

/-- Each way down to a level chooses one entry in some list of children at each of its steps. -/
theorem length_level_le (t : Tree) (start : NodeId) (depth : Nat) :
    (t.level start depth).length ≤ t.childEntries.pow depth := by
  induction depth with
  | zero => exact Nat.le_refl _
  | succ depth ih =>
    rw [level_succ]
    show _ ≤ t.childEntries.pow depth * t.childEntries
    exact Nat.le_trans (length_flatMap_below_le t _) (Nat.mul_le_mul_right _ ih)

/-- The levels down to a depth hold fewer nodes than the limit for that depth allows. -/
theorem length_levels_le (t : Tree) (start : NodeId) (depth : Nat) :
    ((List.range (depth + 1)).flatMap (t.level start)).length ≤
      (t.childEntries + 1).pow depth := by
  induction depth with
  | zero => exact Nat.le_refl _
  | succ depth ih =>
    have hlast : (t.level start (depth + 1)).length ≤
        (t.childEntries + 1).pow depth * t.childEntries :=
      Nat.le_trans (length_level_le t start (depth + 1))
        (Nat.mul_le_mul_right _ (Nat.pow_le_pow_left (Nat.le_succ _) depth))
    rw [List.range_succ, List.flatMap_append, List.length_append, List.flatMap_singleton]
    show _ ≤ (t.childEntries + 1).pow depth * (t.childEntries + 1)
    rw [Nat.mul_succ, Nat.add_comm]
    exact Nat.add_le_add hlast ih

/-! ## The walk -/

namespace IsAcyclic

theorem level_eq_nil (h : t.IsAcyclic) (start : NodeId) {depth : Nat} (hd : t.size < depth) :
    t.level start depth = [] := by
  refine List.eq_nil_iff_forall_not_mem.2 fun id hid => ?_
  obtain ⟨path, rfl, hpath⟩ := mem_level_iff.1 hid
  exact Nat.not_lt.2 (hpath.length_le h) hd

/-- The walk from the start visits the levels, however many empty ones are counted among them. -/
theorem visits_range (h : t.IsAcyclic) (start : NodeId) {count : Nat} (hcount : t.size < count) :
    t.Visits [start] ((List.range count).flatMap (t.level start)) := by
  have hempty : t.level start (0 + count) = [] := by
    rw [Nat.zero_add]
    exact h.level_eq_nil start hcount
  rw [List.range_eq_range']
  exact visits_levels hempty

/-- **The walk ends, and the computed walk is all of it.** -/
theorem visits_levelOrder (h : t.IsAcyclic) (start : NodeId) :
    t.Visits [start] (t.levelOrder start) := by
  have hvisits := h.visits_range start (Nat.lt_succ_self t.size)
  have hlimit : ((List.range (t.size + 1)).flatMap (t.level start)).length ≤ t.walkLimit :=
    Nat.le_trans (length_levels_le t start t.size)
      (Nat.pow_le_pow_right (Nat.succ_pos _) (Nat.le_succ _))
  rw [levelOrder, hvisits.visitsFrom_eq hlimit]
  exact hvisits

/-- **The computed walk is made of the levels.** -/
theorem levelOrder_eq (h : t.IsAcyclic) (start : NodeId) {count : Nat} (hcount : t.size < count) :
    t.levelOrder start = (List.range count).flatMap (t.level start) :=
  (h.visits_levelOrder start).unique (h.visits_range start hcount)

theorem mem_levelOrder_iff (h : t.IsAcyclic) :
    id ∈ t.levelOrder start ↔ ∃ path, t.Descends start path id := by
  rw [h.levelOrder_eq start (Nat.lt_succ_self t.size), List.mem_flatMap]
  constructor
  · rintro ⟨depth, _, hid⟩
    obtain ⟨path, _, hpath⟩ := mem_level_iff.1 hid
    exact ⟨path, hpath⟩
  · rintro ⟨path, hpath⟩
    refine ⟨path.length, List.mem_range.2 (Nat.lt_succ_of_le (hpath.length_le h)), ?_⟩
    exact mem_level_iff.2 ⟨path, rfl, hpath⟩

end IsAcyclic

end Tree

end DocQuery
