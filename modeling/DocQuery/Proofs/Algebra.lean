import DocQuery.Proofs.Chain
import DocQuery.Proofs.Places
import DocQuery.Proofs.Queries

/-!
# The algebra of selectors

Negation accepts elements only, and so do all other selectors, each by its own question for an
element. That is why negation is a complement and the universal selector a unit. A combinator asks
its left side about some candidates, which the subject alone decides, and it is enough that one of
them is accepted; so it is additive on both sides. `child` and `adjacent` have one candidate at
most, and one node that is accepted for two reasons is the same as one node for each reason.

- `Tree.IsAcyclic.climbs_ancestors`: without cycles, the ancestors are all the way up.
- `Tree.queries_find_elements`: no query finds anything but elements.
- `Tree.candidates`: the nodes that the left side of a combinator is asked about.
- `Selector.EquivIn`: selectors that accept the same nodes of a tree.
- `Selector.accepts_obeys_laws`: the laws of negation and of the combinators.
-/

namespace DocQuery

/-! ## All the way up -/

namespace Tree

variable {t : Tree} {start id : NodeId}

/-- The walk upwards comes to a node without a parent, or to its limit. -/
theorem climbs_or_length_ancestorsUpTo (t : Tree) (limit : Nat) (id : NodeId) :
    t.Climbs id (t.ancestorsUpTo limit id) ∨ (t.ancestorsUpTo limit id).length = limit := by
  induction limit generalizing id with
  | zero => exact .inr rfl
  | succ limit ih =>
    rw [ancestorsUpTo]
    cases hp : t.parent? id with
    | none => exact .inl (.top hp)
    | some p => exact (ih p).imp (.step hp) (congrArg Nat.succ)

theorem lt_size_of_isBelow {a : NodeId} (h : t.IsBelow a id) : a < t.size := by
  induction h with
  | single hchild => exact lt_size_of_mem_children hchild
  | tail _ _ ih => exact ih

/-- Each step upwards leads to a node that lists the one below it. -/
theorem HoldsPlaces.isBelow_of_mem_ancestorsUpTo (h : t.HoldsPlaces) {limit : Nat} {a : NodeId}
    (ha : a ∈ t.ancestorsUpTo limit id) : t.IsBelow a id := by
  induction limit generalizing id with
  | zero => exact absurd ha List.not_mem_nil
  | succ limit ih =>
    rw [ancestorsUpTo] at ha
    cases hp : t.parent? id with
    | none =>
      rw [hp] at ha
      exact absurd ha List.not_mem_nil
    | some p =>
      rw [hp] at ha
      have hchild : id ∈ t.children p := List.mem_of_getElem? (h id p hp)
      rcases List.mem_cons.1 ha with rfl | ha
      · exact .single hchild
      · exact .tail (ih ha) hchild

namespace IsAcyclic

theorem nodup_ancestorsUpTo (h : t.IsAcyclic) (hplaces : t.HoldsPlaces) (limit : Nat)
    (id : NodeId) : (t.ancestorsUpTo limit id).Nodup := by
  induction limit generalizing id with
  | zero => exact List.nodup_nil
  | succ limit ih =>
    rw [ancestorsUpTo]
    cases t.parent? id with
    | none => exact List.nodup_nil
    | some p =>
      exact List.nodup_cons.2 ⟨fun hp => h p (hplaces.isBelow_of_mem_ancestorsUpTo hp), ih p⟩

/-- The node and its ancestors are different nodes of the tree. -/
theorem length_ancestors_lt (h : t.IsAcyclic) (hplaces : t.HoldsPlaces) (hid : id < t.size) :
    (t.ancestors id).length < t.size := by
  have hbelow {a : NodeId} (ha : a ∈ t.ancestors id) : t.IsBelow a id :=
    hplaces.isBelow_of_mem_ancestorsUpTo ha
  have hnodup : (id :: t.ancestors id).Nodup :=
    List.nodup_cons.2 ⟨fun hself => h id (hbelow hself), h.nodup_ancestorsUpTo hplaces t.size id⟩
  exact length_le_size hnodup (List.forall_mem_cons.2
    ⟨hid, fun a ha => lt_size_of_isBelow (hbelow ha)⟩)

/-- **Without cycles the limit is never met**, and the ancestors are all the way up. -/
theorem climbs_ancestors (h : t.IsAcyclic) (hplaces : t.HoldsPlaces) (id : NodeId) :
    t.Climbs id (t.ancestors id) := by
  cases hp : t.parent? id with
  | none =>
    have htop : t.Climbs id [] := .top hp
    rw [ancestors, htop.ancestorsUpTo_eq (Nat.zero_le _)]
    exact htop
  | some p =>
    have hlt := h.length_ancestors_lt hplaces (lt_size_of_parent? hp)
    exact (t.climbs_or_length_ancestorsUpTo t.size id).resolve_right (Nat.ne_of_lt hlt)

end IsAcyclic

/-! ## What queries find -/

/-- From a node that is no element the walk goes nowhere. -/
theorem levelOrder_of_not_isElement (h : t.isElement start = false) :
    t.levelOrder start = [start] := by
  have hdone : t.Visits [start] [start] := by
    refine .visit ?_
    rw [below, h]
    exact .done
  exact hdone.visitsFrom_eq (Nat.pow_pos (Nat.succ_pos _))

/-- **No query finds anything but elements.** In every tree, at every number, a selector accepts
elements only. From a start that is no element the walk goes nowhere and nothing is found. From any
start, all that is found are elements. -/
theorem queries_find_elements (t : Tree) (s : Selector) :
    (∀ id, s.accepts t id = true → t.isElement id = true) ∧
    (∀ start, t.isElement start = false →
      t.findAll start s = [] ∧ t.findFirst? start s = none) ∧
    ∀ start, (∀ id ∈ t.findAll start s, t.isElement id = true) ∧
      ∀ id ∈ t.findFirst? start s, t.isElement id = true := by
  have helement : ∀ start, ∀ id ∈ t.findAll start s, t.isElement id = true := fun start id hid =>
    Selector.isElement_of_accepts (List.mem_filter.1 hid).2
  refine ⟨fun id => Selector.isElement_of_accepts, fun start hstart => ?_, fun start => ⟨?_, ?_⟩⟩
  · have hwalk : t.levelOrder start = [start] := levelOrder_of_not_isElement hstart
    have hrefused : s.accepts t start = false := by
      refine Bool.eq_false_iff.2 fun haccepts => ?_
      rw [Selector.isElement_of_accepts haccepts] at hstart
      contradiction
    have hall : t.findAll start s = [] := by
      rw [findAll, hwalk, List.filter_singleton, hrefused]
      rfl
    exact ⟨hall, by rw [findFirst?_eq, hall, List.head?_nil]⟩
  · exact helement start
  · intro id hid
    rw [findFirst?_eq] at hid
    exact helement start id (List.mem_of_head? hid)

/-- A node in two lists, a number without a node, and a text: a negation finds elements alone, and
none from the text and from the number. -/
theorem queries_find_elements_shared :
    let named (name : String) : Element := ⟨.ofName name, []⟩
    let t := Tree.empty.perform
      [.appendElement 0 (named "ul"), .appendElement 1 (named "li"), .appendText 1 "one",
        .appendElement 2 (named "b"), .attach 1 4, .attach 2 9]
    let s : Selector := .not (.combine .child (.tag (.ofName "ul")) (.tag (.ofName "b")))
    t.findAll 1 s = [1, 2] ∧ (∀ id ∈ t.findAll 1 s, t.isElement id = true) ∧
      t.isElement 2 = true ∧ t.findAll 3 s = [] ∧ t.findFirst? 9 s = none := by
  intro named t s
  obtain ⟨haccepts, hstart, hfound⟩ := queries_find_elements t s
  have hlist : t.findAll 1 s = [1, 2] := by decide +kernel
  exact ⟨hlist, (hfound 1).1, haccepts 2 (by decide), (hstart 3 (by decide)).1,
    (hstart 9 (by decide)).2⟩

/-! ## Candidates -/

/-- The nodes that the left side of the combinator is asked about, if the right side accepts the
node. -/
def candidates (t : Tree) (id : NodeId) : Combinator → List NodeId
  | .child => (t.parent? id).toList
  | .descendant => t.ancestors id
  | .adjacent => ((t.precedingSiblings id).find? t.isElement).toList
  | .sibling => (t.precedingSiblings id).filter t.isElement

end Tree

namespace Selector

variable {t : Tree}

/-- A combinator asks for a candidate. -/
theorem accepts_combine (t : Tree) (k : Combinator) (left right : Selector) (id : NodeId) :
    (combine k left right).accepts t id =
      (right.accepts t id && (t.candidates id k).any (left.accepts t)) := by
  cases k with
  | child =>
    rw [accepts, Tree.candidates]
    cases t.parent? id with
    | none => simp
    | some p => simp [Bool.and_comm]
  | descendant => rfl
  | adjacent =>
    rw [accepts, Tree.candidates]
    cases (t.precedingSiblings id).find? t.isElement with
    | none => rfl
    | some m => simp
  | sibling => rfl

/-- Without cycles the candidates of `descendant` are all nodes on the way up. -/
theorem accepts_descendant_iff (h : t.IsAcyclic) (hplaces : t.HoldsPlaces) {id : NodeId}
    {path : List NodeId} (hup : t.Climbs id path) (left right : Selector) :
    (combine .descendant left right).accepts t id = true ↔
      right.accepts t id = true ∧ ∃ a ∈ path, left.accepts t a = true := by
  rw [hup.unique (h.climbs_ancestors hplaces id), accepts_combine, Bool.and_eq_true,
    List.any_eq_true]
  rfl

/-- One candidate that is accepted twice is the same as two accepted candidates. -/
theorem any_and_of_length_le_one {l : List NodeId} (h : l.length ≤ 1) (p q : NodeId → Bool) :
    (l.any fun m => p m && q m) = (l.any p && l.any q) := by
  rcases l with _ | ⟨m, _ | ⟨_, rest⟩⟩
  · rfl
  · simp
  · simp at h

/-! ## Laws -/

/-- The selectors accept the same nodes of the tree. -/
def EquivIn (t : Tree) (a b : Selector) : Prop := ∀ id, a.accepts t id = b.accepts t id

theorem EquivIn.findAll_eq {a b : Selector} (h : EquivIn t a b) (start : NodeId) :
    t.findAll start a = t.findAll start b := by
  rw [Tree.findAll, Tree.findAll, funext h]

section Negation

variable (t : Tree) (a b : Selector)

theorem isElement_and_accepts (id : NodeId) :
    (t.isElement id && a.accepts t id) = a.accepts t id := by
  cases h : a.accepts t id with
  | false => exact Bool.and_false _
  | true => rw [isElement_of_accepts h, Bool.and_true]

theorem not_not_equiv : EquivIn t (not (not a)) a := by
  intro id
  rw [← isElement_and_accepts t a]
  simp only [accepts]
  cases t.isElement id <;> simp

theorem not_union_equiv : EquivIn t (not (union a b)) (intersection (not a) (not b)) := by
  intro id
  simp only [accepts]
  cases t.isElement id <;> simp

theorem not_intersection_equiv : EquivIn t (not (intersection a b)) (union (not a) (not b)) := by
  intro id
  simp only [accepts]
  cases t.isElement id <;> simp

theorem universal_intersection_equiv : EquivIn t (intersection universal a) a :=
  isElement_and_accepts t a

end Negation

section Combinators

variable (t : Tree) (k : Combinator) (a b c : Selector)

theorem combine_union_left_equiv :
    EquivIn t (combine k (union a b) c) (union (combine k a c) (combine k b c)) := by
  intro id
  rw [Bool.eq_iff_iff]
  simp only [accepts_combine, accepts, Bool.or_eq_true, Bool.and_eq_true, List.any_eq_true]
  rw [← and_or_left, ← exists_or]
  simp only [and_or_left]

theorem combine_union_right_equiv :
    EquivIn t (combine k a (union b c)) (union (combine k a b) (combine k a c)) := by
  intro id
  simp only [accepts_combine, accepts, Bool.and_or_distrib_right]

/-- What stands on the right of a combinator is one question, and whether there is a candidate is
another. -/
theorem combine_equiv_intersection :
    EquivIn t (combine k a b) (intersection (combine k a universal) b) := by
  intro id
  simp only [accepts_combine, accepts]
  cases hb : b.accepts t id with
  | false => rw [Bool.and_false, Bool.false_and]
  | true => rw [isElement_of_accepts hb, Bool.and_true]

/-- With one candidate at most, both of two selectors are asked about the same one. -/
theorem combine_intersection_left_equiv (h : ∀ id, (t.candidates id k).length ≤ 1) :
    EquivIn t (combine k (intersection a b) c) (intersection (combine k a c) (combine k b c)) := by
  intro id
  simp only [accepts_combine, accepts, any_and_of_length_le_one (h id)]
  cases c.accepts t id <;> simp

end Combinators

/-! ## A selector and its negation -/

/-- What a selector finds and what its negation finds is all that is found. -/
theorem findAll_append_findAll_not_perm (t : Tree) (a : Selector) (start : NodeId) :
    (t.findAll start a ++ t.findAll start (not a)).Perm (t.findAll start universal) := by
  -- both are filters of the elements that the walk visits
  have ha : t.findAll start a = (t.findAll start universal).filter (a.accepts t) := by
    rw [Tree.findAll, Tree.findAll, List.filter_filter]
    refine List.filter_congr fun id _ => ?_
    rw [Bool.and_comm]
    exact (isElement_and_accepts t a id).symm
  have hnot : t.findAll start (not a) =
      (t.findAll start universal).filter (fun id => !a.accepts t id) := by
    rw [Tree.findAll, Tree.findAll, List.filter_filter]
    exact List.filter_congr fun id _ => Bool.and_comm _ _
  rw [ha, hnot]
  exact List.filter_append_perm _ _

theorem disjoint_findAll_not (t : Tree) (a : Selector) (start : NodeId) :
    List.Disjoint (t.findAll start a) (t.findAll start (not a)) := by
  intro id ha hnot
  have hrefused := (Bool.and_eq_true_iff.1 (List.mem_filter.1 hnot).2).2
  rw [(List.mem_filter.1 ha).2] at hrefused
  contradiction

/-! ## All laws -/

/-- **Selectors form a Boolean algebra on elements, and combinators are additive.** In every tree,
negation is a complement among the elements and the universal selector a unit; every combinator is
additive on both sides, and its right side can be asked apart from the combinator; `child` and
`adjacent` are multiplicative on their left side as well. What a selector finds and what its
negation finds have nothing in common, and together they are the elements of the walk, each as
often as the walk visits it. -/
theorem accepts_obeys_laws (t : Tree) (a b c : Selector) :
    EquivIn t (not (not a)) a ∧
    EquivIn t (not (union a b)) (intersection (not a) (not b)) ∧
    EquivIn t (not (intersection a b)) (union (not a) (not b)) ∧
    EquivIn t (intersection universal a) a ∧
    (∀ k : Combinator,
      EquivIn t (combine k (union a b) c) (union (combine k a c) (combine k b c)) ∧
      EquivIn t (combine k a (union b c)) (union (combine k a b) (combine k a c)) ∧
      EquivIn t (combine k a b) (intersection (combine k a universal) b)) ∧
    EquivIn t (combine .child (intersection a b) c)
      (intersection (combine .child a c) (combine .child b c)) ∧
    EquivIn t (combine .adjacent (intersection a b) c)
      (intersection (combine .adjacent a c) (combine .adjacent b c)) ∧
    ∀ start, List.Disjoint (t.findAll start a) (t.findAll start (not a)) ∧
      (t.findAll start a ++ t.findAll start (not a)).Perm (t.findAll start universal) := by
  have hchild (id : NodeId) : (t.candidates id .child).length ≤ 1 := Option.length_toList_le
  have hadjacent (id : NodeId) : (t.candidates id .adjacent).length ≤ 1 := Option.length_toList_le
  refine ⟨not_not_equiv t a, not_union_equiv t a b, not_intersection_equiv t a b,
    universal_intersection_equiv t a, fun k => ⟨?_, ?_, ?_⟩, ?_, ?_, fun start => ⟨?_, ?_⟩⟩
  · exact combine_union_left_equiv t k a b c
  · exact combine_union_right_equiv t k a b c
  · exact combine_equiv_intersection t k a b
  · exact combine_intersection_left_equiv t .child a b c hchild
  · exact combine_intersection_left_equiv t .adjacent a b c hadjacent
  · exact disjoint_findAll_not t a start
  · exact findAll_append_findAll_not_perm t a start

/-- Of several ancestors, one may be accepted for the first reason and another for the second. -/
example :
    let named (name : String) : Element := ⟨.ofName name, []⟩
    let t := Tree.empty.perform
      [.appendElement 0 (named "ul"), .appendElement 1 (named "li"), .appendElement 2 (named "b")]
    let ul : Selector := .tag (.ofName "ul")
    let li : Selector := .tag (.ofName "li")
    (combine .descendant (intersection ul li) universal).accepts t 3 = false ∧
      (combine .descendant ul universal).accepts t 3 = true ∧
      (combine .descendant li universal).accepts t 3 = true := by
  decide

end Selector

end DocQuery
