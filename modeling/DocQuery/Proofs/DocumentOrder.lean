import DocQuery.Proofs.Descendants
import DocQuery.Proofs.Growth

/-!
# Document order

The nodes of a subtree in document order are its top and, behind it, the subtrees of its children
from the first to the last. In a forest this defines a list: from each node to its children the way
up grows longer, and it is never longer than the tree has nodes. The list holds every node of the
subtree once. What an edit appends to a node comes in right behind the subtree of that node, and
nothing else moves.

- `Tree.preorder`: the nodes of a subtree in document order.
- `Tree.IsForest.induction_down`: what holds of a node if it holds of its children.
- `Tree.IsForest.preorder_eq`: a subtree is its top and the subtrees of the children.
- `Tree.IsForest.mem_preorder_iff`, `Tree.IsForest.nodup_preorder`: what the list holds.
- `Edit.parent?`: the node that an edit appends to.
- `Tree.IsForest.preorder_apply`: what an edit puts where.
-/

namespace DocQuery

namespace Tree

/-! ## The nodes of a subtree -/

/-- The nodes of the subtree in document order, down to the given depth. -/
def preorderUpTo (t : Tree) : Nat → NodeId → List NodeId
  | 0, _ => []
  | depth + 1, id => id :: (t.children id).flatMap (preorderUpTo t depth)

/-- The nodes of the subtree in document order: the node itself first, and then the subtrees of
its children from left to right. No way down is longer than the tree has nodes. -/
def preorder (t : Tree) (id : NodeId) : List NodeId := t.preorderUpTo (t.size + 1) id

theorem preorderUpTo_succ (t : Tree) (depth : Nat) (id : NodeId) :
    t.preorderUpTo (depth + 1) id = id :: (t.children id).flatMap (t.preorderUpTo depth) := rfl

/-- What is listed lies at or below the top. -/
theorem eq_or_isBelow_of_mem_preorderUpTo {t : Tree} {depth : Nat} {id n : NodeId}
    (h : n ∈ t.preorderUpTo depth id) : n = id ∨ t.IsBelow id n := by
  induction depth generalizing id with
  | zero => contradiction
  | succ depth ih =>
    rw [preorderUpTo_succ, List.mem_cons, List.mem_flatMap] at h
    refine h.imp_right ?_
    rintro ⟨c, hc, hn⟩
    rcases ih hn with rfl | hb
    · exact .single hc
    · exact .head hc hb

/-- What is listed for a child lies below its parent. -/
theorem isBelow_of_mem_preorderUpTo {t : Tree} {depth : Nat} {id c n : NodeId}
    (hc : c ∈ t.children id) (hn : n ∈ t.preorderUpTo depth c) : t.IsBelow id n := by
  rcases eq_or_isBelow_of_mem_preorderUpTo hn with rfl | hb
  · exact .single hc
  · exact .head hc hb

namespace IsForest

variable {t t' : Tree} {id n c d top : NodeId}

theorem length_ancestors_child (h : t.IsForest) (hc : c ∈ t.children id) :
    (t.ancestors c).length = (t.ancestors id).length + 1 := by
  rw [h.ancestors_of_parent? (h.parent?_of_mem hc), List.length_cons]

/-- **Induction from the leaves up.** What holds of a node as soon as it holds of all its children
holds of every node. -/
theorem induction_down (h : t.IsForest) {P : NodeId → Prop}
    (step : ∀ id, (∀ c ∈ t.children id, P c) → P id) (id : NodeId) : P id := by
  -- a child has one ancestor more than its parent, and there are only so many
  induction hm : t.size - (t.ancestors id).length using Nat.strongRecOn generalizing id with
  | _ m ih =>
    refine step id fun c hc => ih _ ?_ c rfl
    have hlt := h.length_lt (lt_size_of_mem_children hc) (h.climbs_ancestors id)
    rw [h.length_ancestors_child hc, ← hm]
    omega

/-- A limit on the depth that the subtree keeps to does not show. -/
theorem preorderUpTo_eq (h : t.IsForest) (hid : id < t.size) {depth : Nat}
    (hd : t.size ≤ depth + (t.ancestors id).length) :
    t.preorderUpTo (depth + 1) id = t.preorderUpTo depth id := by
  induction depth generalizing id with
  | zero =>
    have hlt := h.length_lt hid (h.climbs_ancestors id)
    omega
  | succ depth ih =>
    rw [preorderUpTo_succ, preorderUpTo_succ t depth]
    refine congrArg (id :: ·) (List.flatMap_congr fun c hc => ?_)
    refine ih (lt_size_of_parent? (h.parent?_of_mem hc)) ?_
    rw [h.length_ancestors_child hc]
    omega

theorem preorderUpTo_size (h : t.IsForest) (hid : id < t.size) :
    t.preorderUpTo t.size id = t.preorder id :=
  (h.preorderUpTo_eq hid (Nat.le_add_right _ _)).symm

/-- **A subtree is its top, and the subtrees of the children.** -/
theorem preorder_eq (h : t.IsForest) (id : NodeId) :
    t.preorder id = id :: (t.children id).flatMap t.preorder := by
  rw [preorder, preorderUpTo_succ]
  refine congrArg (id :: ·) (List.flatMap_congr fun c hc => ?_)
  exact h.preorderUpTo_size (lt_size_of_parent? (h.parent?_of_mem hc))

/-- The list holds the nodes at and below the top. -/
theorem mem_preorder_iff (h : t.IsForest) : n ∈ t.preorder id ↔ n = id ∨ t.IsBelow id n := by
  constructor
  · exact eq_or_isBelow_of_mem_preorderUpTo
  · intro hn
    induction id using h.induction_down with
    | step id ih =>
      rw [h.preorder_eq, List.mem_cons, List.mem_flatMap]
      refine hn.imp_right fun hb => ?_
      obtain ⟨c, hc, hrest⟩ := Relation.TransGen.head'_iff.1 hb
      exact ⟨c, hc, ih c hc (Relation.reflTransGen_iff_eq_or_transGen.1 hrest)⟩

/-- A subtree of a subtree lies in the whole. -/
theorem mem_preorder_trans (h : t.IsForest) (hid : id ∈ t.preorder top)
    (hn : n ∈ t.preorder id) : n ∈ t.preorder top := by
  rw [h.mem_preorder_iff] at hid hn ⊢
  rcases hn with rfl | hn
  · exact hid
  · rcases hid with rfl | hid
    · exact .inr hn
    · exact .inr (hid.trans hn)

/-- Different children have different subtrees. -/
theorem disjoint_preorder (h : t.IsForest) (hc : c ∈ t.children id) (hd : d ∈ t.children id)
    (hne : c ≠ d) : List.Disjoint (t.preorder c) (t.preorder d) := by
  -- neither child is below the other, since both have the same ancestors
  have hapart : ∀ {a b}, a ∈ t.children id → b ∈ t.children id → ¬ t.IsBelow a b := by
    intro a b ha hb hab
    have hmem := h.mem_ancestors_iff.2 hab
    rw [h.ancestors_of_parent? (h.parent?_of_mem hb),
      ← h.ancestors_of_parent? (h.parent?_of_mem ha)] at hmem
    exact (h.climbs_ancestors a).not_mem hmem
  intro n hnc hnd
  rcases h.mem_preorder_iff.1 hnc with rfl | hbc
  · rcases h.mem_preorder_iff.1 hnd with rfl | hbd
    · exact hne rfl
    · exact hapart hd hc hbd
  · rcases h.mem_preorder_iff.1 hnd with rfl | hbd
    · exact hapart hc hd hbc
    · rcases h.isBelow_total hbc hbd with rfl | hb | hb
      · exact hne rfl
      · exact hapart hd hc hb
      · exact hapart hc hd hb

/-- A node that lies below another lies in the subtree of one child of it. -/
theorem exists_child_of_mem_preorder (h : t.IsForest) (hn : n ∈ t.preorder id) (hne : n ≠ id) :
    ∃ left d right, t.children id = left ++ d :: right ∧ n ∈ t.preorder d ∧
      ∀ c ∈ left ++ right, n ∉ t.preorder c := by
  rw [h.preorder_eq, List.mem_cons, or_iff_right hne, List.mem_flatMap] at hn
  obtain ⟨d, hd, hnd⟩ := hn
  obtain ⟨left, right, hs⟩ := List.append_of_mem hd
  have hnodup := h.nodup_children id
  rw [hs, List.nodup_middle, List.nodup_cons] at hnodup
  refine ⟨left, d, right, hs, hnd, fun c hc hnc => ?_⟩
  have hmem : c ∈ t.children id := by
    rw [hs, List.mem_append, List.mem_cons]
    exact (List.mem_append.1 hc).imp_right .inr
  have hcd : c ≠ d := fun heq => hnodup.1 (heq ▸ hc)
  exact h.disjoint_preorder hmem hd hcd hnc hnd

/-- **Document order holds no node twice.** -/
theorem nodup_preorder (h : t.IsForest) (id : NodeId) : (t.preorder id).Nodup := by
  induction id using h.induction_down with
  | step id ih =>
    rw [h.preorder_eq, List.nodup_cons, List.nodup_flatMap]
    refine ⟨fun hmem => ?_, ih, ?_⟩
    · obtain ⟨c, hc, hn⟩ := List.mem_flatMap.1 hmem
      exact h.not_isBelow_self id (isBelow_of_mem_preorderUpTo hc hn)
    · exact (h.nodup_children id).imp_of_mem fun hc hd hne => h.disjoint_preorder hc hd hne

/-- A subtree depends on nothing but the children of its nodes. -/
theorem preorder_congr (h : t.IsForest) (h' : t'.IsForest)
    (heq : ∀ n ∈ t.preorder id, t'.children n = t.children n) :
    t'.preorder id = t.preorder id := by
  induction id using h.induction_down with
  | step id ih =>
    rw [h.preorder_eq] at heq
    rw [h'.preorder_eq, h.preorder_eq, heq id List.mem_cons_self]
    refine congrArg (id :: ·) (List.flatMap_congr fun c hc => ih c hc fun n hn => ?_)
    exact heq n (List.mem_cons_of_mem _ (List.mem_flatMap_of_mem hc hn))

end IsForest

end Tree

/-! ## What edits put where -/

/-- The node that the edit appends its subject to. -/
def Edit.parent? : Edit → Option NodeId
  | create _ => none
  | attach parent _ => some parent
  | appendElement parent _ => some parent
  | appendText parent _ => some parent
  | appendComment parent _ => some parent

namespace Tree

variable {t : Tree} {e : Edit} {id n p : NodeId}

theorem children_apply_of_ne (t : Tree) (h : e.parent? ≠ some n) :
    (e.apply t).children n = t.children n := by
  have hother : ∀ {q : NodeId} {r : Prop} [Decidable r] {l : List NodeId}, some q ≠ some n →
      (if n = q ∧ r then l else []) = [] :=
    fun hne => if_neg fun hr => hne (congrArg some hr.1.symm)
  rw [children_apply, List.append_right_eq_self]
  cases e with
  | create content => rfl
  | attach parent child => exact hother h
  | appendElement parent element => exact hother h
  | appendText parent text => exact hother h
  | appendComment parent text => exact hother h

/-- An admissible edit lists its subject behind the children of its parent. -/
theorem children_apply_parent (he : e.IsAdmissible t) (hp : e.parent? = some p) :
    (e.apply t).children p = t.children p ++ [e.subject t] := by
  rw [children_apply]
  cases e with
  | create content => contradiction
  | attach parent child =>
    obtain rfl := Option.some.inj hp
    exact congrArg _ (if_pos ⟨rfl, he.1⟩)
  | appendElement parent element =>
    obtain rfl := Option.some.inj hp
    exact congrArg _ (if_pos ⟨rfl, Nat.le_of_lt he⟩)
  | appendText parent text =>
    obtain rfl := Option.some.inj hp
    exact congrArg _ (if_pos ⟨rfl, Nat.le_of_lt he⟩)
  | appendComment parent text =>
    obtain rfl := Option.some.inj hp
    exact congrArg _ (if_pos ⟨rfl, Nat.le_of_lt he⟩)

namespace IsForest

/-- Subtrees that the edit appends nothing to stay as they are. -/
theorem preorder_apply_of_not_mem (h : t.IsForest) (he : e.IsAdmissible t)
    (hp : ∀ p, e.parent? = some p → p ∉ t.preorder id) :
    (e.apply t).preorder id = t.preorder id :=
  h.preorder_congr (h.apply he) fun n hn =>
    children_apply_of_ne t fun heq => hp n heq hn

theorem flatMap_preorder_apply (h : t.IsForest) (he : e.IsAdmissible t) (hp : e.parent? = some p)
    {nodes : List NodeId} (hnodes : ∀ c ∈ nodes, p ∉ t.preorder c) :
    nodes.flatMap (e.apply t).preorder = nodes.flatMap t.preorder := by
  refine List.flatMap_congr fun c hc => h.preorder_apply_of_not_mem he fun q hq => ?_
  obtain rfl := Option.some.inj (hp.symm.trans hq)
  exact hnodes c hc

/-- At the parent itself, the subject comes in at the end. -/
theorem preorder_apply_parent (h : t.IsForest) (he : e.IsAdmissible t) (hp : e.parent? = some p) :
    (e.apply t).preorder p = t.preorder p ++ (e.apply t).preorder (e.subject t) := by
  have hchildren : ∀ c ∈ t.children p, p ∉ t.preorder c := fun c hc hmem =>
    h.not_isBelow_self p (isBelow_of_mem_preorderUpTo hc hmem)
  rw [(h.apply he).preorder_eq p, children_apply_parent he hp, List.flatMap_append,
    h.flatMap_preorder_apply he hp hchildren, List.flatMap_singleton, h.preorder_eq p,
    List.cons_append]

/-- **The subject of an edit comes in right behind the subtree of its new parent**, with all that
is below it, and nothing else moves. -/
theorem preorder_apply (h : t.IsForest) (he : e.IsAdmissible t) (hp : e.parent? = some p)
    (hid : p ∈ t.preorder id) :
    ∃ before after, t.preorder id = before ++ t.preorder p ++ after ∧
      (e.apply t).preorder id =
        before ++ t.preorder p ++ (e.apply t).preorder (e.subject t) ++ after := by
  induction id using h.induction_down with
  | step id ih =>
    by_cases hne : p = id
    · subst hne
      exact ⟨[], [], by simp, by simp [h.preorder_apply_parent he hp]⟩
    · -- one child has the parent in its subtree, and its siblings stay as they are
      obtain ⟨left, d, right, hs, hpd, hothers⟩ := h.exists_child_of_mem_preorder hid hne
      have hleft : ∀ c ∈ left, p ∉ t.preorder c := fun c hc =>
        hothers c (List.mem_append_left _ hc)
      have hright : ∀ c ∈ right, p ∉ t.preorder c := fun c hc =>
        hothers c (List.mem_append_right _ hc)
      have hlist : (e.apply t).children id = t.children id :=
        children_apply_of_ne t fun hq => hne (Option.some.inj (hp.symm.trans hq))
      obtain ⟨before, after, hold, hnew⟩ := ih d (by simp [hs]) hpd
      refine ⟨id :: left.flatMap t.preorder ++ before, after ++ right.flatMap t.preorder, ?_, ?_⟩
      · rw [h.preorder_eq, hs, List.flatMap_append, List.flatMap_cons, hold]
        simp
      · rw [(h.apply he).preorder_eq, hlist, hs, List.flatMap_append, List.flatMap_cons, hnew,
          h.flatMap_preorder_apply he hp hleft, h.flatMap_preorder_apply he hp hright]
        simp

end IsForest

end Tree

end DocQuery
