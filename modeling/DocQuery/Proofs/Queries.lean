import DocQuery.Proofs.Levels
import DocQuery.Query.Select

/-!
# Queries are level order, filtered

A query keeps those visits of the walk that its selector accepts. In a forest, where each node has
one parent and one place, no two ways lead down to the same node, and so the walk visits a node
once or not at all; which of the two is a matter of its ancestors.

- `Tree.findFirst?_eq`: the search for one node finds the first of all of them.
- `Tree.IsForest.isAcyclic`: a forest has no cycles.
- `Tree.IsForest.exists_descends_iff`: the ways down, read from the other end, along the ancestors.
- `Tree.IsForest.nodup_levelOrder`: in a forest no node is visited twice.
- `Tree.levelOrder_is_levels`: what the walk and the queries on it are made of.
-/

namespace DocQuery

namespace Tree

variable {t : Tree} {start id : NodeId} {path : List NodeId}

/-! ## Queries -/

/-- The search for the first node goes through the same visits as the walk. -/
theorem firstFrom?_eq (t : Tree) (test : NodeId → Bool) (limit : Nat) (queue : List NodeId) :
    t.firstFrom? test limit queue = (t.visitsFrom limit queue).find? test := by
  induction limit generalizing queue with
  | zero => rfl
  | succ limit ih =>
    cases queue with
    | nil => rfl
    | cons id queue =>
      rw [firstFrom?, visitsFrom, List.find?_cons, ih]
      cases test id <;> rfl

/-- The first node that is found is the first of all that are found. -/
theorem findFirst?_eq (t : Tree) (start : NodeId) (s : Selector) :
    t.findFirst? start s = (t.findAll start s).head? := by
  rw [findFirst?, firstInLevelOrder?, firstFrom?_eq, findAll, List.head?_filter]
  rfl

/-! ## Forests -/

namespace IsForest

theorem isAcyclic (h : t.IsForest) : t.IsAcyclic := h.not_isBelow_self

/-- In a forest a way down is the beginning of the way up. -/
theorem ancestors_of_descends (h : t.IsForest) (hpath : t.Descends start path id) :
    t.ancestors id = path ++ t.ancestors start := by
  induction hpath with
  | here => rfl
  | step _ _ hid ih => rw [h.ancestors_of_parent? (h.parent?_of_mem hid), ih, List.cons_append]

/-- A way up that passes through elements as far as the start is a way down from there. -/
theorem descends_of_climbs (h : t.IsForest) {nearer farther : List NodeId}
    (hup : t.Climbs id (nearer ++ start :: farther))
    (helement : ∀ a ∈ nearer ++ [start], t.isElement a = true) :
    t.Descends start (nearer ++ [start]) id := by
  induction nearer generalizing id with
  | nil =>
    cases hup with
    | step hp _ => exact .step .here (helement start (by simp)) (h.mem_of_parent? hp)
  | cons a nearer ih =>
    cases hup with
    | step hp hup =>
      have hrest := ih hup fun b hb => helement b (List.mem_cons_of_mem _ hb)
      exact .step hrest (helement a (by simp)) (h.mem_of_parent? hp)

/-- A way leads down to the start itself, and to the nodes that have the start among their
ancestors with nothing but elements up to there. -/
theorem exists_descends_iff (h : t.IsForest) :
    (∃ path, t.Descends start path id) ↔ id = start ∨ ∃ nearer farther,
      t.ancestors id = nearer ++ start :: farther ∧
        ∀ a ∈ nearer ++ [start], t.isElement a = true := by
  constructor
  · rintro ⟨path, hpath⟩
    rcases hpath.eq_nil_or_eq_append with ⟨_, hid⟩ | ⟨nearer, rfl⟩
    · exact .inl hid
    · refine .inr ⟨nearer, t.ancestors start, ?_, fun a ha => hpath.isElement_of_mem ha⟩
      rw [h.ancestors_of_descends hpath, List.append_assoc, List.singleton_append]
  · rintro (rfl | ⟨nearer, farther, hup, helement⟩)
    · exact ⟨[], .here⟩
    · have hclimbs := h.climbs_ancestors id
      rw [hup] at hclimbs
      exact ⟨_, h.descends_of_climbs hclimbs helement⟩

theorem nodup_level (h : t.IsForest) (start : NodeId) (depth : Nat) :
    (t.level start depth).Nodup := by
  induction depth with
  | zero => exact List.nodup_singleton _
  | succ depth ih =>
    refine List.nodup_flatMap.2 ⟨fun p _ => h.nodup_children p, ?_⟩
    exact (ih.filter _).imp fun hne => h.disjoint_children hne

/-- A node stands in one level at most: the depth is the number of its ancestors that it does not
share with the start. -/
theorem disjoint_level (h : t.IsForest) {depth deeper : Nat} (hne : depth ≠ deeper) :
    List.Disjoint (t.level start depth) (t.level start deeper) := by
  intro id hd hd'
  obtain ⟨path, rfl, hpath⟩ := mem_level_iff.1 hd
  obtain ⟨path', rfl, hpath'⟩ := mem_level_iff.1 hd'
  have hsame := (h.ancestors_of_descends hpath).symm.trans (h.ancestors_of_descends hpath')
  exact hne (congrArg List.length (List.append_cancel_right hsame))

/-- **In a forest no node is visited twice.** -/
theorem nodup_levelOrder (h : t.IsForest) (start : NodeId) : (t.levelOrder start).Nodup := by
  rw [h.isAcyclic.levelOrder_eq start (Nat.lt_succ_self t.size)]
  refine List.nodup_flatMap.2 ⟨fun depth _ => h.nodup_level start depth, ?_⟩
  exact List.nodup_range.imp fun hne => h.disjoint_level hne

end IsForest

/-- **Queries are level order, filtered.** In every tree without cycles, whether or not nodes are
listed more than once or before they are there, the walk from any start ends and is made of the
levels, one after the other; all that a selector finds are the visits that it accepts, in their
order, and the first that it finds is the first of these. In every tree that admissible edits
build, there are no cycles, the walk visits no node twice, and it visits the start and those
nodes that have the start among their ancestors with nothing but elements up to there. -/
theorem levelOrder_is_levels :
    (∀ (t : Tree) (start : NodeId), t.IsAcyclic →
      t.Visits [start] (t.levelOrder start) ∧
      (∃ count, (∀ depth, count ≤ depth → t.level start depth = []) ∧
        t.levelOrder start = (List.range count).flatMap (t.level start)) ∧
      ∀ s : Selector, t.findAll start s = (t.levelOrder start).filter (s.accepts t) ∧
        t.findFirst? start s = (t.findAll start s).head?) ∧
    ∀ (edits : List Edit) (start : NodeId), Tree.empty.Admits edits →
      let t := Tree.empty.perform edits
      t.IsAcyclic ∧ (t.levelOrder start).Nodup ∧
        ∀ n, n ∈ t.levelOrder start ↔ n = start ∨ ∃ nearer farther,
          t.ancestors n = nearer ++ start :: farther ∧
            ∀ a ∈ nearer ++ [start], t.isElement a = true := by
  constructor
  · intro t start h
    refine ⟨h.visits_levelOrder start, ⟨t.size + 1, fun depth hd => ?_, ?_⟩, fun s => ⟨rfl, ?_⟩⟩
    · exact h.level_eq_nil start hd
    · exact h.levelOrder_eq start (Nat.lt_succ_self t.size)
    · exact t.findFirst?_eq start s
  · intro edits start hedits t
    have h : t.IsForest := IsForest.empty.perform hedits
    refine ⟨h.isAcyclic, h.nodup_levelOrder start, fun n => ?_⟩
    rw [h.isAcyclic.mem_levelOrder_iff, h.exists_descends_iff]

/-- A node in two lists is visited once for each of them, and so is a number below it that has no
node. -/
theorem levelOrder_is_levels_shared :
    let named (name : String) : Element := ⟨.ofName name, []⟩
    let edits : List Edit :=
      [.appendElement 0 (named "ul"), .appendElement 1 (named "li"),
        .appendElement 1 (named "li"), .appendElement 2 (named "b")]
    let t := Tree.empty.perform edits
    let shared := t.perform [.attach 3 4, .attach 4 9]
    shared.IsAcyclic ∧ shared.Visits [1] [1, 2, 3, 4, 4, 9, 9] ∧
      Tree.empty.Admits edits ∧ 4 ∈ t.levelOrder 1 := by
  intro named edits t shared
  have hacyclic : shared.IsAcyclic := isAcyclic_of_lt (by decide)
  have hadmits : Tree.empty.Admits edits := by decide
  obtain ⟨hwalk, hforest⟩ := levelOrder_is_levels
  obtain ⟨hvisits, -, -⟩ := hwalk shared 1 hacyclic
  obtain ⟨-, -, hmem⟩ := hforest edits 1 hadmits
  have horder : shared.levelOrder 1 = [1, 2, 3, 4, 4, 9, 9] := by decide +kernel
  rw [horder] at hvisits
  refine ⟨hacyclic, hvisits, hadmits, (hmem 4).2 (.inr ⟨[2], [0], ?_, ?_⟩)⟩
  · decide
  · decide

end Tree

end DocQuery
