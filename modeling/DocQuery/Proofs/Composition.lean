import DocQuery.Proofs.Algebra
import DocQuery.Proofs.Closed
import DocQuery.Proofs.RoundTrip

/-!
# Texts compose

A closed text is a group that stands in front of any rest, and a closing parenthesis and a comma
are such rests. In parentheses it is a negation. Before a comma it is the beginning of a longer
list: the list behind the comma has been read as a list of its own, nested to the left, and now all
its members join those that stand before it, one after the other. The nesting is another one, and
what is accepted is the same.

- `Selector.members`: the selectors that a comma list joins.
- `Selector.equivIn_foldl_members`: joined one by one or as a list, members accept the same nodes.
- `Grammar.Stands.derives_comma`: a list in front of a list.
- `Selector.parse_composes`: closed texts in negations and in comma lists.
-/

namespace DocQuery

open Grammar

/-! ## Members -/

namespace Selector

/-- The members of a comma list, the first one first. What is no list is its only member. -/
def members : Selector → List Selector
  | union left last => left.members ++ [last]
  | s => [s]

variable (t : Tree)

theorem accepts_foldl_union (members : List Selector) (s : Selector) (id : NodeId) :
    (members.foldl union s).accepts t id =
      (s.accepts t id || members.any fun m => m.accepts t id) := by
  induction members generalizing s with
  | nil => simp
  | cons m rest ih => rw [List.foldl_cons, ih, List.any_cons, accepts, Bool.or_assoc]

theorem any_members (s : Selector) (id : NodeId) :
    (s.members.any fun m => m.accepts t id) = s.accepts t id := by
  induction s with
  | union left last ih _ => simp [members, ih, accepts]
  | _ => simp [members]

/-- Members that join one by one accept what the list of them accepts. -/
theorem equivIn_foldl_members (s list : Selector) :
    EquivIn t (list.members.foldl union s) (union s list) := by
  intro id
  rw [accepts_foldl_union, any_members, accepts]

/-- Only a group stands for a list. -/
theorem IsCanonical.members_eq {phrase : Phrase} {s : Selector} (h : s.IsCanonical phrase)
    (hp : phrase ≠ .group) : s.members = [s] := by
  induction h with
  | first _ ih => exact ih nofun
  | parts _ ih => exact ih nofun
  | start _ ih => exact ih nofun
  | single _ _ => exact absurd rfl hp
  | union _ _ _ _ => exact absurd rfl hp
  | _ => rfl

end Selector

/-! ## Phrases -/

namespace Grammar

/-- A list in front of a list: the members behind the comma join those before it. -/
theorem Stands.derives_comma {front cs rest : List Char} {s t : Selector}
    (h : Stands .group front s) (ht : Derives .group cs t rest) :
    Derives .group (front ++ ',' :: cs) (t.members.foldl Selector.union s) rest := by
  generalize hphrase : Phrase.group = phrase at ht
  induction ht with
  | @single cs mid rest t ht hb _ =>
    rw [ht.isCanonical.members_eq nofun]
    exact .union (h (',' :: cs)) ht hb
  | union _ hr hb ihl _ =>
    rw [Selector.members, List.foldl_append]
    exact .union (ihl hphrase) hr hb
  | _ => cases hphrase

theorem Stands.comma {front last : List Char} {s t : Selector} (h : Stands .group front s)
    (ht : Stands .group last t) :
    Stands .group (front ++ ',' :: last) (t.members.foldl Selector.union s) := by
  intro rest
  rw [List.append_assoc]
  exact h.derives_comma (ht rest)

/-- A group in the parentheses of a negation. -/
theorem Stands.negation {front : List Char} {s : Selector} (h : Stands .group front s) :
    Stands .group (":not(".toList ++ (front ++ [')'])) (.not s) := by
  intro rest
  have hq := derives_negation (h (')' :: rest))
  simp only [List.append_assoc, List.cons_append, List.nil_append]
  exact .single (.start .nil (.parts (.first hq))) .nil

/-- What is complete, whatever follows, is complete at the end of the text. -/
theorem Stands.parse_eq_ok {text : String} {s : Selector} (h : Stands .group text.toList s) :
    Selector.parse text = .ok s := by
  have hend := h []
  rw [List.append_nil] at hend
  exact (Selector.parse_eq_ok_iff_derives text s).2 hend

end Grammar

namespace Selector

/-! ## Texts -/

theorem toList_comma (i j : String) : (i ++ "," ++ j).toList = i.toList ++ ',' :: j.toList := by
  simp

theorem toList_negation (i : String) :
    (":not(" ++ i ++ ")").toList = ":not(".toList ++ (i.toList ++ [')']) := by
  simp

/-- **A closed text in parentheses is closed.** -/
theorem IsClosed.negation {i : String} (h : IsClosed i) : IsClosed (":not(" ++ i ++ ")") := by
  obtain ⟨s, hs⟩ := (isClosed_iff_stands i).1 h
  rw [isClosed_iff_stands, toList_negation]
  exact ⟨_, hs.negation⟩

/-- **Closed texts with a comma between them are closed.** -/
theorem IsClosed.comma {i j : String} (hi : IsClosed i) (hj : IsClosed j) :
    IsClosed (i ++ "," ++ j) := by
  obtain ⟨s, hs⟩ := (isClosed_iff_stands i).1 hi
  obtain ⟨t, ht⟩ := (isClosed_iff_stands j).1 hj
  rw [isClosed_iff_stands, toList_comma]
  exact ⟨_, hs.comma ht⟩

theorem parse_negation {i : String} {s : Selector} (h : Stands .group i.toList s) :
    parse (":not(" ++ i ++ ")") = .ok (.not s) := by
  apply Stands.parse_eq_ok
  rw [toList_negation]
  exact h.negation

theorem parse_comma {i j : String} {s t : Selector} (h : Stands .group i.toList s)
    (hj : parse j = .ok t) : parse (i ++ "," ++ j) = .ok (t.members.foldl union s) := by
  rw [parse_eq_ok_iff_derives] at hj ⊢
  rw [toList_comma]
  exact h.derives_comma hj

/-- Texts that are read as equivalent selectors ask for the same nodes, in the same order. -/
theorem EquivIn.select_eq {t : Tree} {a b : Selector} (h : EquivIn t a b) {i j : String}
    (hi : parse i = .ok a) (hj : parse j = .ok b) (start : NodeId) :
    t.selectAll start i = t.selectAll start j ∧ t.selectFirst start i = t.selectFirst start j := by
  have hall : t.findAll start a = t.findAll start b := h.findAll_eq start
  have hfirst : t.findFirst? start a = t.findFirst? start b := by
    rw [t.findFirst?_eq, t.findFirst?_eq, hall]
  constructor
  · rw [Tree.selectAll, Tree.selectAll, hi, hj, Except.map, Except.map, hall]
  · rw [Tree.selectFirst, Tree.selectFirst, hi, hj, Except.map, Except.map, hfirst]

/-- The order of two lists makes no difference to what is accepted. -/
theorem equivIn_foldl_members_comm (t : Tree) (a b : Selector) :
    EquivIn t (b.members.foldl union a) (a.members.foldl union b) := by
  intro id
  rw [equivIn_foldl_members t a b id, equivIn_foldl_members t b a id]
  exact Bool.or_comm _ _

/-- **Texts compose.** A closed text is a selector; in the parentheses of a negation it stands for
the negation of this selector; and in front of a comma and any other selector text it stands for
the list that its selector and then all members of the other one make, which accepts what one of
the two accepts. Two closed texts ask for the same nodes of every tree, in the same order, whichever
of them stands in front of the comma. -/
theorem parse_composes (i : String) (h : IsClosed i) :
    ∃ s, parse i = .ok s ∧ parse (":not(" ++ i ++ ")") = .ok (.not s) ∧
      (∀ j t, parse j = .ok t →
        ∃ u, parse (i ++ "," ++ j) = .ok u ∧ u = t.members.foldl union s ∧
          ∀ (tree : Tree) (id : NodeId), u.accepts tree id = true ↔
            s.accepts tree id = true ∨ t.accepts tree id = true) ∧
      ∀ j, IsClosed j → ∀ (tree : Tree) (start : NodeId),
        tree.selectAll start (i ++ "," ++ j) = tree.selectAll start (j ++ "," ++ i) ∧
        tree.selectFirst start (i ++ "," ++ j) = tree.selectFirst start (j ++ "," ++ i) := by
  obtain ⟨s, hs⟩ := (isClosed_iff_stands i).1 h
  refine ⟨s, hs.parse_eq_ok, parse_negation hs, fun j t hj => ?_, fun j hj tree start => ?_⟩
  · refine ⟨_, parse_comma hs hj, rfl, fun tree id => ?_⟩
    rw [equivIn_foldl_members tree s t id, accepts, Bool.or_eq_true]
  · obtain ⟨t, ht⟩ := (isClosed_iff_stands j).1 hj
    have hij := parse_comma hs ht.parse_eq_ok
    have hji := parse_comma ht hs.parse_eq_ok
    exact (equivIn_foldl_members_comm tree s t).select_eq hij hji start

/-- A comma and a parenthesis in quotation marks, in a negation and in a comment; behind the comma
a list that is not closed, since its last comment is open and its last compound empty. -/
theorem parse_composes_nested :
    let i := "a[b=',)'] > :not(c, d) /*,)*/"
    let j := ".e, #f , g>/*"
    let e : Selector := .test ⟨.listed, "class", "e"⟩
    let f : Selector := .test ⟨.equals, "id", "f"⟩
    let g : Selector := .combine .child (.tag (.ofName "g")) .universal
    IsClosed i ∧ ¬ IsClosed j ∧
      (∃ s, parse i = .ok s ∧ parse (":not(" ++ i ++ ")") = .ok (.not s) ∧
        parse (i ++ "," ++ j) = .ok (.union (.union (.union s e) f) g)) ∧
      ∀ (tree : Tree) (start : NodeId),
        tree.selectAll start (i ++ "," ++ (":not(" ++ i ++ ")")) =
          tree.selectAll start (":not(" ++ i ++ ")" ++ "," ++ i) := by
  intro i j e f g
  have h : IsClosed i := by decide +kernel
  have hj : parse j = .ok (.union (.union e f) g) := by decide +kernel
  obtain ⟨s, hs, hnot, hcomma, hswap⟩ := parse_composes i h
  obtain ⟨u, hu, rfl, -⟩ := hcomma j _ hj
  refine ⟨h, by decide +kernel, ⟨s, hs, hnot, hu⟩, fun tree start => ?_⟩
  exact (hswap _ h.negation tree start).1

end Selector

end DocQuery
