import DocQuery.Proofs.Relatives
import DocQuery.Selector.Matching
import Mathlib.Data.Fin.VecNotation

/-!
# Chains of combinators are searched in full

A chain nests to the left, so the subject stands outermost and the rest of the chain is looked for
from there, link by link, upwards and backwards. Each link may have several candidates. That none
of them is given up too early is what the main result says: the chain accepts a node as soon as
some choice of nodes fits all its selectors and all its links.

- `Tree.Related`: the four relations, read off the lists of children.
- `Selector.chain`: selectors joined by combinators, nested to the left.
- `Selector.accepts_combine_iff`: one combinator looks for a related node.
- `Selector.accepts_chain_iff`: a chain looks for a node for each of its selectors.
-/

namespace DocQuery

/-! ## The relations of the combinators -/

/-- How the node on the left of the combinator stands to the one on its right. -/
def Tree.Related (t : Tree) : Combinator → NodeId → NodeId → Prop
  | .child, m, v => v ∈ t.children m
  | .descendant, m, v => t.IsBelow m v
  | .adjacent, m, v =>
    t.isElement m = true ∧ ∃ p before between after,
      t.children p = before ++ m :: (between ++ v :: after) ∧
        ∀ a ∈ between, t.isElement a = false
  | .sibling, m, v =>
    t.isElement m = true ∧ ∃ p before between after,
      t.children p = before ++ m :: (between ++ v :: after)

namespace Tree.IsForest

variable {t : Tree} {m v : NodeId}

theorem related_child_iff (h : t.IsForest) :
    t.Related .child m v ↔ t.parent? v = some m := by
  constructor
  · exact fun hv => h.parent?_of_mem hv
  · exact fun hp => h.mem_of_parent? hp

theorem related_descendant_iff (h : t.IsForest) :
    t.Related .descendant m v ↔ m ∈ t.ancestors v :=
  h.mem_ancestors_iff.symm

theorem related_adjacent_iff (h : t.IsForest) :
    t.Related .adjacent m v ↔ (t.precedingSiblings v).find? t.isElement = some m := by
  -- the siblings are walked backwards, so that what lies between is met in reverse
  rw [List.find?_eq_some_iff_append]
  constructor
  · rintro ⟨hm, p, before, between, after, hs, hbetween⟩
    refine ⟨hm, between.reverse, before.reverse, ?_, ?_⟩
    · exact h.precedingSiblings_eq_append_iff.2 ⟨p, after, hs⟩
    · intro a ha
      rw [hbetween a (List.mem_reverse.1 ha)]
      rfl
  · rintro ⟨hm, nearer, farther, hs, hnearer⟩
    rw [← nearer.reverse_reverse, ← farther.reverse_reverse] at hs
    obtain ⟨p, after, hs⟩ := h.precedingSiblings_eq_append_iff.1 hs
    refine ⟨hm, p, farther.reverse, nearer.reverse, after, hs, fun a ha => ?_⟩
    simpa using hnearer a (List.mem_reverse.1 ha)

theorem related_sibling_iff (h : t.IsForest) :
    t.Related .sibling m v ↔ m ∈ (t.precedingSiblings v).filter t.isElement := by
  rw [List.mem_filter, and_comm]
  refine and_congr_right fun _ => ?_
  constructor
  · rintro ⟨p, before, between, after, hs⟩
    rw [h.precedingSiblings_eq_append_iff.2 ⟨p, after, hs⟩]
    simp
  · intro hmem
    obtain ⟨nearer, farther, hs⟩ := List.append_of_mem hmem
    rw [← nearer.reverse_reverse, ← farther.reverse_reverse] at hs
    obtain ⟨p, after, hs⟩ := h.precedingSiblings_eq_append_iff.1 hs
    exact ⟨p, farther.reverse, nearer.reverse, after, hs⟩

end Tree.IsForest

namespace Selector

variable {t : Tree}

/-! ## One combinator -/

/-- A combinator accepts what its right side accepts and what is related to a node that its left
side accepts. -/
theorem accepts_combine_iff (h : t.IsForest) (k : Combinator) (left right : Selector)
    (v : NodeId) :
    (combine k left right).accepts t v = true ↔
      right.accepts t v = true ∧ ∃ m, t.Related k m v ∧ left.accepts t m = true := by
  cases k with
  | child =>
    simp only [h.related_child_iff, accepts]
    cases t.parent? v <;> simp [and_comm]
  | descendant => simp only [h.related_descendant_iff, accepts, Bool.and_eq_true, List.any_eq_true]
  | adjacent =>
    simp only [h.related_adjacent_iff, accepts, Bool.and_eq_true, Option.any_eq_true]
  | sibling => simp only [h.related_sibling_iff, accepts, Bool.and_eq_true, List.any_eq_true]

/-- In any tree, forest or not, a combinator accepts only what its right side accepts. -/
theorem accepts_right_of_accepts_combine {k : Combinator} {left right : Selector} {v : NodeId}
    (h : (combine k left right).accepts t v = true) : right.accepts t v = true := by
  cases k with
  | child =>
    simp only [accepts] at h
    cases hp : t.parent? v with
    | none => simp [hp] at h
    | some p => exact (Bool.and_eq_true_iff.1 (by simpa [hp] using h)).2
  | descendant => exact (Bool.and_eq_true_iff.1 h).1
  | adjacent => exact (Bool.and_eq_true_iff.1 h).1
  | sibling => exact (Bool.and_eq_true_iff.1 h).1

theorem isElement_of_any {p : Element → Bool} {v : NodeId} (h : (t.element? v).any p = true) :
    t.isElement v = true := by
  obtain ⟨e, he, _⟩ := (Option.any_eq_true _ _).1 h
  rw [Tree.isElement, he]
  rfl

/-- Whatever a selector accepts is an element: the parts without combinators ask for one, and a
combinator leaves the question to its right side. -/
theorem isElement_of_accepts {s : Selector} {v : NodeId} (h : s.accepts t v = true) :
    t.isElement v = true := by
  induction s with
  | universal => exact h
  | tag g => exact isElement_of_any h
  | test a => exact isElement_of_any h
  | not inner _ => exact (Bool.and_eq_true_iff.1 h).1
  | union left right ihl ihr => exact (Bool.or_eq_true_iff.1 h).elim ihl ihr
  | intersection left right ihl _ => exact ihl (Bool.and_eq_true_iff.1 h).1
  | combine k left right _ ihr => exact ihr (accepts_right_of_accepts_combine h)

/-! ## Chains -/

/-- The selectors joined by the combinators, nested to the left. -/
def chain : {n : Nat} → (Fin (n + 1) → Selector) → (Fin n → Combinator) → Selector
  | 0, parts, _ => parts 0
  | n + 1, parts, links =>
    combine (links (Fin.last n)) (chain (fun i => parts i.castSucc) (fun i => links i.castSucc))
      (parts (Fin.last (n + 1)))

/-- A choice of nodes fits all parts and all links of the chain. -/
structure Fits (t : Tree) {n : Nat} (parts : Fin (n + 1) → Selector) (links : Fin n → Combinator)
    (m : Fin (n + 1) → NodeId) : Prop where
  parts : ∀ i, (parts i).accepts t (m i) = true
  links : ∀ i : Fin n, t.Related (links i) (m i.castSucc) (m i.succ)

theorem fits_succ_iff {n : Nat} {parts : Fin (n + 2) → Selector} {links : Fin (n + 1) → Combinator}
    {m : Fin (n + 2) → NodeId} :
    Fits t parts links m ↔
      Fits t (fun i => parts i.castSucc) (fun i => links i.castSucc) (fun i => m i.castSucc) ∧
      (parts (Fin.last (n + 1))).accepts t (m (Fin.last (n + 1))) = true ∧
      t.Related (links (Fin.last n)) (m (Fin.last n).castSucc) (m (Fin.last (n + 1))) := by
  constructor
  · intro h
    exact ⟨⟨fun i => h.parts i.castSucc, fun i => h.links i.castSucc⟩, h.parts _, h.links _⟩
  · rintro ⟨h, hv, hrelated⟩
    exact ⟨Fin.forall_fin_succ'.2 ⟨h.parts, hv⟩, Fin.forall_fin_succ'.2 ⟨h.links, hrelated⟩⟩

/-- A chain accepts a node exactly if some choice of nodes fits and ends there. -/
theorem accepts_chain_iff_fits (h : t.IsForest) {n : Nat} (parts : Fin (n + 1) → Selector)
    (links : Fin n → Combinator) (v : NodeId) :
    (chain parts links).accepts t v = true ↔ ∃ m, m (Fin.last n) = v ∧ Fits t parts links m := by
  -- the last link is the outermost one, so that the chain is taken apart from its end, and the
  -- rest of it is asked about whatever node stands on the left of that link
  induction n generalizing v with
  | zero =>
    constructor
    · exact fun hv => ⟨fun _ => v, rfl, fun i => by rwa [Fin.fin_one_eq_zero i], fun i => i.elim0⟩
    · rintro ⟨m, rfl, hm⟩
      exact hm.parts 0
  | succ n ih =>
    rw [chain, accepts_combine_iff h]
    constructor
    · rintro ⟨hv, u, hrelated, hu⟩
      obtain ⟨m, rfl, hm⟩ := (ih _ _ u).1 hu
      obtain ⟨longer, hinit, hlast⟩ : ∃ longer : Fin (n + 2) → NodeId,
          (∀ i, longer i.castSucc = m i) ∧ longer (Fin.last (n + 1)) = v :=
        ⟨Fin.snoc m v, fun i => by rw [Fin.snoc_castSucc], by rw [Fin.snoc_last]⟩
      refine ⟨longer, hlast, fits_succ_iff.2 ?_⟩
      simp only [hinit, hlast]
      exact ⟨hm, hv, hrelated⟩
    · rintro ⟨m, rfl, hm⟩
      obtain ⟨hinit, hv, hrelated⟩ := fits_succ_iff.1 hm
      exact ⟨hv, _, hrelated, (ih _ _ _).2 ⟨_, rfl, hinit⟩⟩

/-- **In every tree that admissible edits build, chains are searched in full.** The chain accepts
a node exactly if there is a node for each of its selectors, the last one being the given node,
such that each selector accepts its node and neighbours stand in the relation of the combinator
between them. -/
theorem accepts_chain_iff (edits : List Edit) (h : Tree.empty.Admits edits) {n : Nat}
    (parts : Fin (n + 1) → Selector) (links : Fin n → Combinator) (v : NodeId) :
    let t := Tree.empty.perform edits
    (chain parts links).accepts t v = true ↔
      ∃ m : Fin (n + 1) → NodeId, m (Fin.last n) = v ∧
        (∀ i, m i < t.size ∧ (parts i).accepts t (m i) = true) ∧
        ∀ i : Fin n, t.Related (links i) (m i.castSucc) (m i.succ) := by
  intro t
  rw [accepts_chain_iff_fits (Tree.IsForest.empty.perform h)]
  refine exists_congr fun m => and_congr_right fun _ => ?_
  constructor
  · intro hm
    exact ⟨fun i => ⟨Tree.lt_size_of_isElement (isElement_of_accepts (hm.parts i)), hm.parts i⟩,
      hm.links⟩
  · rintro ⟨hparts, hlinks⟩
    exact ⟨fun i => (hparts i).2, hlinks⟩

/-- The nearest section above the paragraph is not the one that the chain needs. -/
theorem accepts_chain_iff_nested :
    let named (name : String) : Element := ⟨.ofName name, []⟩
    let edits : List Edit :=
      [.appendElement 0 (named "main"), .appendElement 1 (named "section"),
        .appendElement 2 (named "section"), .appendElement 3 (named "p")]
    let parts : Fin 3 → Selector :=
      ![.tag (.ofName "main"), .tag (.ofName "section"), .tag (.ofName "p")]
    Tree.empty.Admits edits ∧ ∃ m : Fin 3 → NodeId, m 2 = 4 ∧
      (∀ i, (parts i).accepts (Tree.empty.perform edits) (m i) = true) ∧
      ∀ i : Fin 2,
        (Tree.empty.perform edits).Related (![.child, .descendant] i) (m i.castSucc) (m i.succ) := by
  intro named edits parts
  have h : Tree.empty.Admits edits := by decide
  have hv : (chain parts ![.child, .descendant]).accepts (Tree.empty.perform edits) 4 = true := by
    decide
  obtain ⟨m, hlast, hparts, hlinks⟩ := (accepts_chain_iff edits h parts _ 4).1 hv
  exact ⟨h, m, hlast, fun i => (hparts i).2, hlinks⟩

end Selector

end DocQuery
