import DocQuery.Proofs.Embedding

/-!
# Queries see the document alone

Two runs of admissible edits may make the nodes of one document in different orders, attach its
subtrees in different orders, and so number its nodes in different ways. A map that renumbers the
nodes and keeps what they are and what they list says nothing of parents and positions. In forests
it need not: a parent is who lists a node, and a position is where. So the one tree is a part of
the other that leaves nothing out, and a part is what selectors and walks carry over.

- `Tree.Renames`: the map renumbers the nodes of a document.
- `Tree.Renames.parent?_eq_none`: what nothing lists in one tree, nothing lists in the other.
- `Tree.Renames.embeds`: the first tree is all of the second one.
- `Tree.findAll_renamed`: what this says about answers.
-/

namespace DocQuery

namespace Tree

/-- The map carries the nodes of the first tree to all nodes of the second one, each to another
one, with what they are and what they list. -/
structure Renames (t t' : Tree) (f : NodeId → NodeId) : Prop where
  within : ∀ n < t.size, f n < t'.size
  injective : ∀ m < t.size, ∀ n < t.size, f m = f n → m = n
  onto : ∀ n < t'.size, ∃ m < t.size, f m = n
  /-- A node is as it was, with its text or its tag and attributes. -/
  content : ∀ n < t.size, (t'.node? (f n)).map (·.content) = (t.node? n).map (·.content)
  children : ∀ p < t.size, t'.children (f p) = (t.children p).map f

namespace Renames

variable {t t' : Tree} {f : NodeId → NodeId} {n start : NodeId}

theorem element?_eq (h : t.Renames t' f) (hn : n < t.size) : t'.element? (f n) = t.element? n := by
  have hcontent : t'.content? (f n) = t.content? n := h.content n hn
  rw [Tree.element?_eq, hcontent, ← Tree.element?_eq]

/-- What lists the image of a node is the image of what lists the node, so that a node that has
nothing above it has an image that has nothing above it either. -/
theorem parent?_eq_none (h : t.Renames t' f) (ht : t.IsForest) (ht' : t'.IsForest)
    (hn : n < t.size) (hp : t.parent? n = none) : t'.parent? (f n) = none := by
  refine Option.eq_none_iff_forall_ne_some.2 fun q hq => ?_
  have hlisted := ht'.mem_of_parent? hq
  obtain ⟨p, hpsize, rfl⟩ := h.onto q (lt_size_of_mem_children hlisted)
  rw [h.children p hpsize] at hlisted
  obtain ⟨c, hc, heq⟩ := List.mem_map.1 hlisted
  obtain rfl := h.injective c (lt_size_of_parent? (ht.parent?_of_mem hc)) n hn heq
  exact ht.not_mem_of_parent? hp p hc

/-- The first tree is a part of the second one that leaves nothing out. -/
theorem embeds (h : t.Renames t' f) (ht : t.IsForest) (ht' : t'.IsForest) :
    t.Embeds t' f (· < t.size) (fun b => decide (b < t'.size)) where
  element ha := h.element?_eq ha
  children {a} ha := ⟨[], by rw [List.append_nil, h.children a ha], fun _ hb => nomatch hb⟩
  top ha hn := h.parent?_eq_none ht ht' ha hn
  up _ hp := lt_size_of_mem_children (ht.mem_of_parent? hp)
  down _ hc := lt_size_of_parent? (ht.parent?_of_mem hc)
  image_of_part {a} ha := decide_eq_true (h.within a ha)
  others hb hc := absurd (lt_size_of_mem_children hc) (of_decide_eq_false hb)

/-- All that is found in the second tree is found for its first one: nothing outside it is an
element. -/
theorem findAll_eq (h : t.Renames t' f) (ht : t.IsForest) (ht' : t'.IsForest)
    (hstart : start < t.size) (s : Selector) :
    t'.findAll (f start) s = (t.findAll start s).map f := by
  have hall : ∀ n ∈ t'.findAll (f start) s, decide (n < t'.size) = true := fun n hn =>
    decide_eq_true (lt_size_of_isElement (Selector.isElement_of_accepts (List.mem_filter.1 hn).2))
  rw [← (h.embeds ht ht').filter_findAll ht ht' hstart s, List.filter_eq_self.2 hall]

end Renames

/-- **Queries see the document alone.** In two trees that admissible edits build, whatever these
edits are and in whatever order they come, nodes that correspond to each other by content and
children satisfy the same selectors, and from corresponding starts corresponding nodes are found,
in the same order. -/
theorem findAll_renamed (edits edits' : List Edit) (h : Tree.empty.Admits edits)
    (h' : Tree.empty.Admits edits') (f : NodeId → NodeId)
    (hf : (Tree.empty.perform edits).Renames (Tree.empty.perform edits') f) (s : Selector) :
    let t := Tree.empty.perform edits
    let t' := Tree.empty.perform edits'
    (∀ n < t.size, s.accepts t' (f n) = s.accepts t n) ∧
    ∀ start < t.size, t'.findAll (f start) s = (t.findAll start s).map f ∧
      t'.findFirst? (f start) s = (t.findFirst? start s).map f := by
  intro t t'
  have ht : t.IsForest := IsForest.empty.perform h
  have ht' : t'.IsForest := IsForest.empty.perform h'
  refine ⟨fun n hn => (hf.embeds ht ht').accepts_eq ht ht' s hn, fun start hstart => ?_⟩
  have hall := hf.findAll_eq ht ht' hstart s
  refine ⟨hall, ?_⟩
  rw [findFirst?_eq, findFirst?_eq, hall, List.head?_map]

/-- A list that is built from its items up and joined to the document at the end, and the same list
built from the document down. -/
theorem findAll_renamed_joined :
    let named (name : String) : Element := ⟨.ofName name, [⟨"class", name⟩]⟩
    let edits : List Edit :=
      [.create (.element (named "b")), .create (.element (named "li")), .attach 2 1,
        .appendText 2 "two", .create (.element (named "ul")), .appendElement 4 (named "li"),
        .attach 4 2, .attach 0 4]
    let edits' : List Edit :=
      [.appendElement 0 (named "ul"), .appendElement 1 (named "li"),
        .appendElement 1 (named "li"), .appendElement 3 (named "b"), .appendText 3 "two"]
    let t := Tree.empty.perform edits
    let t' := Tree.empty.perform edits'
    let f : NodeId → NodeId := fun n => [0, 4, 3, 5, 1, 2].getD n n
    let s : Selector := .not (.combine .adjacent .universal (.tag (.ofName "li")))
    Tree.empty.Admits edits ∧ Tree.empty.Admits edits' ∧ t.Renames t' f ∧
      t.findAll 4 s = [4, 5, 1] ∧ t'.findAll 1 s = [1, 2, 4] := by
  intro named edits edits' t t' f s
  have h : Tree.empty.Admits edits := by decide
  have h' : Tree.empty.Admits edits' := by decide
  have hf : t.Renames t' f := ⟨by decide, by decide, by decide, by decide, by decide⟩
  have hfound : t.findAll 4 s = [4, 5, 1] := by decide +kernel
  obtain ⟨_, hqueries⟩ := findAll_renamed edits edits' h h' f hf s
  refine ⟨h, h', hf, hfound, ?_⟩
  have himage := (hqueries 4 (by decide)).1
  rw [hfound] at himage
  exact himage

end Tree

end DocQuery
