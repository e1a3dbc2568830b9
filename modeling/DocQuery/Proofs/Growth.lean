import DocQuery.Proofs.Embedding
import DocQuery.Proofs.Places

/-!
# Building further keeps the answers

An admissible edit lists one node that nothing has listed yet, at the end, and gives it a parent.
For all nodes but this one and those below it, nothing changes above them and before them, and so
no selector changes its mind about them, however it is nested. The walk from such a node meets
what it met before, in the same order, and the new subtree in between.

- `Edit.subject`: the node that an edit makes or attaches.
- `Edit.spares`: the nodes other than the subject and those below it.
- `Tree.IsForest.embeds_apply`: the spared nodes are the same part of the tree after the edit.
- `Tree.findAll_filter_spares`: what this says about answers.
-/

namespace DocQuery

/-! ## What an edit leaves alone -/

/-- The node that the edit makes or attaches. -/
def Edit.subject (t : Tree) : Edit → NodeId
  | attach _ child => child
  | create _ => t.size
  | appendElement _ _ => t.size
  | appendText _ _ => t.size
  | appendComment _ _ => t.size

/-- Whether the node is neither new nor attached by the edit, alone or with what is above it. -/
def Edit.spares (t : Tree) : Edit → NodeId → Bool
  | attach _ child, id => id != child && !t.isDescendantOf id child
  | create _, id => id != t.size
  | appendElement _ _, id => id != t.size
  | appendText _ _, id => id != t.size
  | appendComment _ _, id => id != t.size

namespace Tree

variable {t : Tree} {e : Edit} {a p c : NodeId}

theorem content?_append (t : Tree) (parent : NodeId) (content : Content) (h : a ≠ t.size) :
    (t.append parent content).content? a = t.content? a := by
  rw [append, content?_attach, content?_create t content h]

/-- What a node is stays, once it is made. -/
theorem content?_apply (t : Tree) (e : Edit) (h : a ≠ e.subject t) :
    (e.apply t).content? a = t.content? a := by
  cases e with
  | create content => exact content?_create t content h
  | attach parent child => exact content?_attach t parent child a
  | appendElement parent element => exact content?_append t parent _ h
  | appendText parent text => exact content?_append t parent _ h
  | appendComment parent text => exact content?_append t parent _ h

theorem element?_apply (t : Tree) (e : Edit) (h : a ≠ e.subject t) :
    (e.apply t).element? a = t.element? a := by
  rw [element?_eq, content?_apply t e h, ← element?_eq]

theorem text?_apply (t : Tree) (e : Edit) (h : a ≠ e.subject t) :
    (e.apply t).text? a = t.text? a := by
  rw [text?_eq, content?_apply t e h, ← text?_eq]

theorem parent?_attach_eq (t : Tree) (parent : NodeId) {child : NodeId} (h : a ≠ child) :
    (t.attach parent child).parent? a = t.parent? a := by
  by_cases hp : parent < t.size
  · exact parent?_attach_of_ne t hp h
  · rw [attach_of_size_le t child (Nat.not_lt.1 hp)]

theorem parent?_append (t : Tree) (parent : NodeId) (content : Content) (h : a ≠ t.size) :
    (t.append parent content).parent? a = t.parent? a := by
  rw [append, parent?_attach_eq _ parent h, parent?_create]

theorem parent?_apply (t : Tree) (e : Edit) (h : a ≠ e.subject t) :
    (e.apply t).parent? a = t.parent? a := by
  cases e with
  | create content => exact parent?_create t content a
  | attach parent child => exact parent?_attach_eq t parent h
  | appendElement parent element => exact parent?_append t parent _ h
  | appendText parent text => exact parent?_append t parent _ h
  | appendComment parent text => exact parent?_append t parent _ h

/-- All that an edit lists is its subject. -/
theorem eq_subject_of_mem_adds (h : c ∈ e.adds t a) : c = e.subject t := by
  have hone : ∀ {q : Prop} [Decidable q] {child : NodeId},
      c ∈ (if q then [child] else []) → c = child := by
    intro q _ child hc
    split at hc
    · exact List.mem_singleton.1 hc
    · contradiction
  cases e with
  | create content => contradiction
  | attach parent child => exact hone h
  | appendElement parent element => exact hone h
  | appendText parent text => exact hone h
  | appendComment parent text => exact hone h

/-- Nothing has listed the subject of an admissible edit yet. -/
theorem parent?_subject (h : e.IsAdmissible t) : t.parent? (e.subject t) = none := by
  have hnew : t.parent? t.size = none := by simp [parent?]
  cases e with
  | create content => exact hnew
  | attach parent child => exact h.2.2.1
  | appendElement parent element => exact hnew
  | appendText parent text => exact hnew
  | appendComment parent text => exact hnew

/-- Attaching changes nothing below the child, as long as the parent is not there itself. -/
theorem isBelow_attach_iff (hne : c ≠ p) (hup : ¬ t.IsBelow c p) :
    (t.attach p c).IsBelow c a ↔ t.IsBelow c a := by
  have hlist : ∀ b, b ≠ p → (t.attach p c).children b = t.children b := by
    intro b hb
    rw [children_attach_eq_append, if_neg fun hpos => hb hpos.1, List.append_nil]
  constructor
  · intro hb
    induction hb with
    | single hmem =>
      rw [hlist c hne] at hmem
      exact .single hmem
    | @tail b d _ hmem ih =>
      have hb : b ≠ p := by
        rintro rfl
        exact hup ih
      rw [hlist b hb] at hmem
      exact ih.tail hmem
  · refine Relation.TransGen.mono (fun b d hmem => ?_) c a
    rw [children_attach_eq_append]
    exact List.mem_append_left _ hmem

namespace IsForest

/-- A new node has nothing below it. -/
theorem not_isBelow_size (h : t.IsForest) : ¬ t.IsBelow t.size a := by
  intro hb
  have hmem := h.mem_ancestors_iff.2 hb
  exact Nat.lt_irrefl _ (h.lt_size_of_climbs (h.climbs_ancestors a) _ hmem)

/-- An edit spares what is neither its subject nor below it. -/
theorem spares_iff (h : t.IsForest) (e : Edit) :
    e.spares t a = true ↔ a ≠ e.subject t ∧ ¬ t.IsBelow (e.subject t) a := by
  have hnew : (a != t.size) = true ↔ a ≠ t.size ∧ ¬ t.IsBelow t.size a := by
    rw [bne_iff_ne, and_iff_left h.not_isBelow_size]
  cases e with
  | create content => exact hnew
  | attach parent child =>
    rw [← h.mem_ancestors_iff]
    simp [Edit.spares, Edit.subject, isDescendantOf]
  | appendElement parent element => exact hnew
  | appendText parent text => exact hnew
  | appendComment parent text => exact hnew

/-- With a node its parent is spared. -/
theorem spares_parent (h : t.IsForest) (hid : e.spares t a = true) (hp : t.parent? a = some p) :
    e.spares t p = true := by
  have hchild := h.mem_of_parent? hp
  obtain ⟨_, hbelow⟩ := (h.spares_iff e).1 hid
  refine (h.spares_iff e).2 ⟨?_, fun hb => hbelow (hb.tail hchild)⟩
  rintro rfl
  exact hbelow (.single hchild)

/-- With a node its children are spared: none of them is the subject, which nothing lists. -/
theorem spares_child (h : t.IsForest) (he : e.IsAdmissible t) (hid : e.spares t a = true)
    (hc : c ∈ t.children a) : e.spares t c = true := by
  obtain ⟨hne, hbelow⟩ := (h.spares_iff e).1 hid
  refine (h.spares_iff e).2 ⟨?_, fun hb => ?_⟩
  · rintro rfl
    exact h.not_mem_of_parent? (parent?_subject he) a hc
  · have hmem := h.mem_ancestors_iff.2 hb
    rw [h.ancestors_of_parent? (h.parent?_of_mem hc)] at hmem
    rcases List.mem_cons.1 hmem with heq | hmem
    · exact hne heq.symm
    · exact hbelow (h.mem_ancestors_iff.1 hmem)

theorem not_spares_subject (h : t.IsForest) (e : Edit) : e.spares t (e.subject t) = false :=
  Bool.eq_false_iff.2 fun hs => ((h.spares_iff e).1 hs).1 rfl

/-- What is listed after the edit below a node that is not spared is not spared either. -/
theorem not_spares_child (h : t.IsForest) (hid : e.spares t a = false)
    (hc : c ∈ (e.apply t).children a) : e.spares t c = false := by
  rw [children_apply] at hc
  rcases List.mem_append.1 hc with hc | hc
  · refine Bool.eq_false_iff.2 fun hs => ?_
    rw [h.spares_parent hs (h.parent?_of_mem hc)] at hid
    contradiction
  · rw [eq_subject_of_mem_adds hc]
    exact h.not_spares_subject e

/-- **The nodes that an admissible edit spares are the same part of the tree after it.** -/
theorem embeds_apply (h : t.IsForest) (he : e.IsAdmissible t) :
    t.Embeds (e.apply t) id (fun a => e.spares t a = true) (e.spares t) where
  element ha := element?_apply t e ((h.spares_iff e).1 ha).1
  children {a} _ := by
    refine ⟨e.adds t a, ?_, fun b hb => ?_⟩
    · rw [List.map_id_fun]
      exact children_apply t e a
    · rw [eq_subject_of_mem_adds hb]
      exact h.not_spares_subject e
  top ha hn := (parent?_apply t e ((h.spares_iff e).1 ha).1).trans hn
  up ha hp := h.spares_parent ha hp
  down ha hc := h.spares_child he ha hc
  image_of_part ha := ha
  others hb hc := h.not_spares_child hb hc

end IsForest

/-- **Building further keeps the answers.** In every tree that admissible edits build, and for
every admissible edit of it, a selector accepts after the edit the same of the spared nodes as
before; and from a spared start it finds the same as before, in the same order, once the nodes
that are not spared are left out. These are the new node, or the attached one with those below
it, which are the same after attaching. -/
theorem findAll_filter_spares (edits : List Edit) (h : Tree.empty.Admits edits) (e : Edit)
    (he : e.IsAdmissible (Tree.empty.perform edits)) (s : Selector) :
    let t := Tree.empty.perform edits
    let t' := e.apply t
    (∀ n, e.spares t n = true → s.accepts t' n = s.accepts t n) ∧
    (∀ start, e.spares t start = true →
      (t'.findAll start s).filter (e.spares t) = t.findAll start s) ∧
    ∀ parent child, e = .attach parent child →
      ∀ n, t'.isDescendantOf n child = t.isDescendantOf n child := by
  intro t t'
  have ht : t.IsForest := IsForest.empty.perform h
  have ht' : t'.IsForest := ht.apply he
  have hembeds := ht.embeds_apply he
  refine ⟨fun n hn => hembeds.accepts_eq ht ht' s hn, fun start hstart => ?_, ?_⟩
  · have hfound := hembeds.filter_findAll ht ht' hstart s
    rwa [List.map_id_fun] at hfound
  · rintro parent child rfl n
    rw [Bool.eq_iff_iff, isDescendantOf, isDescendantOf, List.contains_iff_mem,
      List.contains_iff_mem, ht.mem_ancestors_iff, ht'.mem_ancestors_iff]
    obtain ⟨_, _, _, hne, hup⟩ := he
    rw [ht.mem_ancestors_iff] at hup
    exact isBelow_attach_iff hne hup

/-- A subtree is attached between two walks that look for everything but paragraphs. -/
theorem findAll_filter_spares_joined :
    let named (name : String) : Element := ⟨.ofName name, []⟩
    let edits : List Edit :=
      [.appendElement 0 (named "ul"), .appendElement 1 (named "li"),
        .appendElement 1 (named "li"), .create (.element (named "b")), .attach 2 4,
        .appendElement 3 (named "p"), .create (.element (named "i"))]
    let t := Tree.empty.perform edits
    let s : Selector := .not (.tag (.ofName "p"))
    Tree.empty.Admits edits ∧ Edit.IsAdmissible t (.attach 2 6) ∧
      t.findAll 1 s = [1, 2, 3, 4] ∧
      ((t.attach 2 6).findAll 1 s).filter (Edit.spares t (.attach 2 6)) = [1, 2, 3, 4] := by
  intro named edits t s
  have hadmits : Tree.empty.Admits edits := by decide
  have he : Edit.IsAdmissible t (.attach 2 6) := by decide
  have hfound : t.findAll 1 s = [1, 2, 3, 4] := by decide +kernel
  obtain ⟨_, hkept, _⟩ := findAll_filter_spares edits hadmits (.attach 2 6) he s
  refine ⟨hadmits, he, hfound, ?_⟩
  rw [← hfound]
  exact hkept 1 (by decide)

end Tree

end DocQuery
