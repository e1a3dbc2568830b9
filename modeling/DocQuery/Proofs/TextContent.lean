import DocQuery.Proofs.DocumentOrder
import DocQuery.Proofs.Subtree

/-!
# Text in document order

The text of a subtree is collected on a walk that turns back at every text node, so that text below
other text does not count. What counts can be read off the document order: the text nodes that have
no text node of the subtree above them, one after the other. Appended text then comes in at the
place where its node does, and what brings no text changes nothing.

- `Tree.isOutermostText`: the text nodes of a subtree that count.
- `Tree.textAmong`: the text of those of them that are in a list.
- `Tree.IsForest.textContent_eq`: the text of a subtree, in document order.
- `Tree.IsForest.exists_textContent_apply`, `Tree.IsForest.textAmong_subject`: what an edit brings
  is inserted where it is appended.
- `Tree.IsForest.textContent_apply_of_no_text`: what has no text changes nothing.
- `Tree.textContent_in_document_order`: what this says about every tree that admissible edits
  build.
-/

namespace DocQuery

namespace Tree

/-! ## The text nodes that count -/

/-- Whether the node is a text node without a text node of the subtree above it. -/
def isOutermostText (t : Tree) (top id : NodeId) : Bool :=
  (t.text? id).isSome && !(t.ancestors id).any fun a => t.isWithin top a && (t.text? a).isSome

/-- The text of the node itself. -/
def ownText (t : Tree) (id : NodeId) : List Char :=
  match t.text? id with
  | some s => s.toList
  | none => []

/-- The text that the listed nodes add to the text of the subtree, in the order of the list. -/
def textAmong (t : Tree) (top : NodeId) (nodes : List NodeId) : List Char :=
  (nodes.filter (t.isOutermostText top)).flatMap t.ownText

variable {t : Tree} {e : Edit} {top id n a p c : NodeId}

theorem textAmong_append (t : Tree) (top : NodeId) (nodes nodes' : List NodeId) :
    t.textAmong top (nodes ++ nodes') = t.textAmong top nodes ++ t.textAmong top nodes' := by
  rw [textAmong, List.filter_append, List.flatMap_append]
  rfl

theorem textAmong_flatMap (t : Tree) (top : NodeId) (nodes : List NodeId)
    (f : NodeId → List NodeId) :
    t.textAmong top (nodes.flatMap f) = nodes.flatMap fun n => t.textAmong top (f n) := by
  rw [textAmong, List.filter_flatMap, List.flatMap_assoc]
  rfl

theorem textAmong_eq_nil {nodes : List NodeId}
    (h : ∀ n ∈ nodes, t.isOutermostText top n = false) : t.textAmong top nodes = [] := by
  rw [textAmong, List.filter_eq_nil_iff.2 fun n hn => by simp [h n hn]]
  rfl

theorem isOutermostText_of_text?_eq_none (h : t.text? n = none) :
    t.isOutermostText top n = false := by
  rw [isOutermostText, h]
  rfl

theorem textAmong_cons_of_isOutermostText (h : t.isOutermostText top n = true)
    (nodes : List NodeId) :
    t.textAmong top (n :: nodes) = t.ownText n ++ t.textAmong top nodes := by
  rw [textAmong, List.filter_cons_of_pos h, List.flatMap_cons]
  rfl

theorem textAmong_cons_of_not_isOutermostText (h : t.isOutermostText top n = false)
    (nodes : List NodeId) : t.textAmong top (n :: nodes) = t.textAmong top nodes := by
  rw [textAmong, List.filter_cons_of_neg (by simp [h])]
  rfl

namespace IsForest

theorem isOutermostText_iff (h : t.IsForest) : t.isOutermostText top n = true ↔
    (t.text? n).isSome = true ∧ ∀ a ∈ t.preorder top, t.IsBelow a n → t.text? a = none := by
  rw [isOutermostText, Bool.and_eq_true, Bool.not_eq_true', List.any_eq_false]
  refine and_congr_right fun _ => ?_
  simp only [h.mem_ancestors_iff, h.mem_preorder_iff, ← h.isWithin_iff, Bool.and_eq_true,
    not_and, Bool.not_eq_true, Option.isSome_eq_false_iff, Option.isNone_iff_eq_none]
  exact forall_congr' fun a => forall_comm

/-- The nodes above a child are its parent and the nodes above that. -/
theorem isBelow_child_iff (h : t.IsForest) (hc : c ∈ t.children p) :
    t.IsBelow a c ↔ a = p ∨ t.IsBelow a p := by
  rw [← h.mem_ancestors_iff, h.ancestors_of_parent? (h.parent?_of_mem hc), List.mem_cons,
    h.mem_ancestors_iff]

/-! ## The walk -/

/-- The walk collects what the document order of the nodes that it comes to lists, as long as there
is no text above its start. -/
theorem textUpTo_eq (h : t.IsForest) (depth : Nat) (hid : id ∈ t.preorder top)
    (hclear : ∀ a ∈ t.preorder top, t.IsBelow a id → t.text? a = none) :
    t.textUpTo depth id = t.textAmong top (t.preorderUpTo depth id) := by
  induction depth generalizing id with
  | zero => rfl
  | succ depth ih =>
    rw [preorderUpTo_succ, textUpTo]
    cases htext : t.text? id with
    | some s =>
      have houter : t.isOutermostText top id = true :=
        h.isOutermostText_iff.2 ⟨by rw [htext]; rfl, hclear⟩
      -- whatever is below the text node has it above
      have hinner : ∀ n ∈ (t.children id).flatMap (t.preorderUpTo depth),
          t.isOutermostText top n = false := by
        intro n hn
        obtain ⟨c, hc, hn⟩ := List.mem_flatMap.1 hn
        refine Bool.eq_false_iff.2 fun hout => ?_
        have hnone := (h.isOutermostText_iff.1 hout).2 id hid (isBelow_of_mem_preorderUpTo hc hn)
        rw [htext] at hnone
        contradiction
      rw [textAmong_cons_of_isOutermostText houter, textAmong_eq_nil hinner, List.append_nil,
        ownText, htext]
    | none =>
      rw [textAmong_cons_of_not_isOutermostText (isOutermostText_of_text?_eq_none htext),
        textAmong_flatMap]
      refine List.flatMap_congr fun c hc => ih ?_ fun a ha hac => ?_
      · exact h.mem_preorder_trans hid (h.mem_preorder_iff.2 (.inr (.single hc)))
      · rcases (h.isBelow_child_iff hc).1 hac with rfl | hab
        · exact htext
        · exact hclear a ha hab

/-- A number without a node has no text. -/
theorem textUpTo_of_size_le (hid : t.size ≤ id) (depth : Nat) : t.textUpTo depth id = [] := by
  cases depth with
  | zero => rfl
  | succ depth => simp [textUpTo, text?, children, node?_eq_none hid]

theorem preorder_of_size_le (h : t.IsForest) (hid : t.size ≤ id) : t.preorder id = [id] := by
  rw [h.preorder_eq, children, node?_eq_none hid]
  rfl

/-- **The text of a subtree is that of its outermost text nodes, in document order**, also if the
subtree is a part of a larger one without text above the part. -/
theorem textContent_eq (h : t.IsForest) (hid : id ∈ t.preorder top)
    (hclear : ∀ a ∈ t.preorder top, t.IsBelow a id → t.text? a = none) :
    (t.textContent id).toList = t.textAmong top (t.preorder id) := by
  rw [textContent, String.toList_ofList]
  by_cases hsize : id < t.size
  · rw [h.textUpTo_eq t.size hid hclear, h.preorderUpTo_size hsize]
  · have hle : t.size ≤ id := Nat.not_lt.1 hsize
    have hnone : t.isOutermostText top id = false :=
      isOutermostText_of_text?_eq_none (by simp [text?, node?_eq_none hle])
    rw [textUpTo_of_size_le hle, h.preorder_of_size_le hle,
      textAmong_cons_of_not_isOutermostText hnone]
    rfl

theorem textContent_eq_self (h : t.IsForest) (id : NodeId) :
    (t.textContent id).toList = t.textAmong id (t.preorder id) := by
  refine h.textContent_eq (h.mem_preorder_iff.2 (.inl rfl)) fun a ha hab => ?_
  -- nothing of the subtree is above its top
  rcases h.mem_preorder_iff.1 ha with rfl | hb
  · exact absurd hab (h.not_isBelow_self _)
  · exact absurd (hab.trans hb) (h.not_isBelow_self _)

/-! ## What edits bring -/

/-- What an edit does not concern has the same nodes above it. -/
theorem ancestors_apply (h : t.IsForest) (he : e.IsAdmissible t) (hn : e.spares t n = true) :
    (e.apply t).ancestors n = t.ancestors n := by
  have hmap := (h.embeds_apply he).ancestors_eq h (h.apply he) hn
  rwa [List.map_id_fun] at hmap

theorem isBelow_apply_iff (h : t.IsForest) (he : e.IsAdmissible t) (hn : e.spares t n = true) :
    (e.apply t).IsBelow a n ↔ t.IsBelow a n := by
  rw [← h.mem_ancestors_iff, ← (h.apply he).mem_ancestors_iff, h.ancestors_apply he hn]

theorem spares_of_mem_ancestors (h : t.IsForest) (he : e.IsAdmissible t)
    (hn : e.spares t n = true) (ha : a ∈ t.ancestors n) : e.spares t a = true :=
  (h.embeds_apply he).part_of_climbs hn (h.climbs_ancestors n) a ha

theorem spares_parent? (h : t.IsForest) (he : e.IsAdmissible t) (hp : e.parent? = some p) :
    e.spares t p = true := by
  have hnew : ∀ {q : NodeId}, q < t.size → some q = some p → (p != t.size) = true := by
    rintro q hq heq
    obtain rfl := Option.some.inj heq
    exact bne_iff_ne.2 (Nat.ne_of_lt hq)
  cases e with
  | create content => contradiction
  | attach parent child =>
    obtain rfl := Option.some.inj hp
    obtain ⟨-, -, -, hne, hanc⟩ := he
    refine (h.spares_iff _).2 ⟨Ne.symm hne, fun hb => hanc (h.mem_ancestors_iff.2 hb)⟩
  | appendElement parent element => exact hnew he hp
  | appendText parent text => exact hnew he hp
  | appendComment parent text => exact hnew he hp

/-- An edit spares the whole of a subtree that it appends something to. -/
theorem spares_of_mem_preorder (h : t.IsForest) (he : e.IsAdmissible t)
    (hid : e.spares t id = true) (hn : n ∈ t.preorder id) : e.spares t n = true := by
  rcases h.mem_preorder_iff.1 hn with rfl | hb
  · exact hid
  · clear hn
    induction hb with
    | single hc => exact h.spares_child he hid hc
    | tail _ hc ih => exact h.spares_child he ih hc

theorem text?_apply_of_spares (h : t.IsForest) (hn : e.spares t n = true) :
    (e.apply t).text? n = t.text? n :=
  text?_apply t e ((h.spares_iff e).1 hn).1

theorem isOutermostText_apply (h : t.IsForest) (he : e.IsAdmissible t)
    (hn : e.spares t n = true) :
    (e.apply t).isOutermostText top n = t.isOutermostText top n := by
  have habove : ∀ a ∈ t.ancestors n,
      ((e.apply t).isWithin top a && ((e.apply t).text? a).isSome) =
        (t.isWithin top a && (t.text? a).isSome) := by
    intro a ha
    have hspared := h.spares_of_mem_ancestors he hn ha
    rw [isWithin, isWithin, isDescendantOf, isDescendantOf, h.ancestors_apply he hspared,
      h.text?_apply_of_spares hspared]
  have hany : ((e.apply t).ancestors n).any (fun a =>
        (e.apply t).isWithin top a && ((e.apply t).text? a).isSome) =
      (t.ancestors n).any fun a => t.isWithin top a && (t.text? a).isSome := by
    rw [h.ancestors_apply he hn, Bool.eq_iff_iff, List.any_eq_true, List.any_eq_true]
    exact exists_congr fun a => and_congr_right fun ha => by rw [habove a ha]
  rw [isOutermostText, isOutermostText, h.text?_apply_of_spares hn, hany]

/-- What an edit spares adds to a text what it added before. -/
theorem textAmong_apply (h : t.IsForest) (he : e.IsAdmissible t) {nodes : List NodeId}
    (hnodes : ∀ n ∈ nodes, e.spares t n = true) :
    (e.apply t).textAmong top nodes = t.textAmong top nodes := by
  rw [textAmong, textAmong,
    List.filter_congr fun n hn => h.isOutermostText_apply he (hnodes n hn)]
  refine List.flatMap_congr fun n hn => ?_
  rw [ownText, ownText, h.text?_apply_of_spares (hnodes n (List.mem_filter.1 hn).1)]

/-- A subtree that the edit appends to keeps its text, with what the subject adds to it in between:
behind the text of what stands up to the end of the parent's subtree. -/
theorem exists_textContent_apply (h : t.IsForest) (he : e.IsAdmissible t)
    (hp : e.parent? = some p) (hid : p ∈ t.preorder id) :
    ∃ before after, t.preorder id = before ++ t.preorder p ++ after ∧
      (e.apply t).preorder id =
        before ++ t.preorder p ++ (e.apply t).preorder (e.subject t) ++ after ∧
      (t.textContent id).toList =
        t.textAmong id (before ++ t.preorder p) ++ t.textAmong id after ∧
      ((e.apply t).textContent id).toList =
        t.textAmong id (before ++ t.preorder p) ++
          (e.apply t).textAmong id ((e.apply t).preorder (e.subject t)) ++
          t.textAmong id after := by
  obtain ⟨before, after, hold, hnew⟩ := h.preorder_apply he hp hid
  have hspared : ∀ n ∈ t.preorder id, e.spares t n = true := by
    have hparent := h.spares_parent? he hp
    have htop : e.spares t id = true := by
      rcases h.mem_preorder_iff.1 hid with rfl | hb
      · exact hparent
      · exact h.spares_of_mem_ancestors he hparent (h.mem_ancestors_iff.2 hb)
    exact fun n hn => h.spares_of_mem_preorder he htop hn
  rw [hold] at hspared
  refine ⟨before, after, hold, hnew, ?_, ?_⟩
  · rw [h.textContent_eq_self, hold, textAmong_append]
  · rw [(h.apply he).textContent_eq_self, hnew, textAmong_append, textAmong_append,
      h.textAmong_apply he fun n hn => hspared n (List.mem_append_left _ hn),
      h.textAmong_apply he fun n hn => hspared n (List.mem_append_right _ hn)]

/-- If there is no text of the subtree at or above the parent, there is none above the subject
after the edit. -/
theorem text?_above_subject (h : t.IsForest) (he : e.IsAdmissible t) (hp : e.parent? = some p)
    (hclear : ∀ a ∈ t.preorder id, a = p ∨ t.IsBelow a p → t.text? a = none) :
    ∀ a ∈ (e.apply t).preorder id, (e.apply t).IsBelow a (e.subject t) →
      (e.apply t).text? a = none := by
  intro a ha hab
  have hparent := h.spares_parent? he hp
  have hchild : e.subject t ∈ (e.apply t).children p := by
    rw [children_apply_parent he hp]
    exact List.mem_append_right _ List.mem_cons_self
  -- above the subject there is its parent, and what is above that, as before
  rw [(h.apply he).isBelow_child_iff hchild, h.isBelow_apply_iff he hparent] at hab
  have hspared : e.spares t a = true := by
    rcases hab with rfl | hb
    · exact hparent
    · exact h.spares_of_mem_ancestors he hparent (h.mem_ancestors_iff.2 hb)
  rw [(h.apply he).mem_preorder_iff, h.isBelow_apply_iff he hspared, ← h.mem_preorder_iff] at ha
  rw [h.text?_apply_of_spares hspared]
  exact hclear a ha hab

/-- **What an edit brings is inserted where it is appended.** If there is no text of the subtree at
or above the new parent, the subject adds all the text of its own subtree. -/
theorem textAmong_subject (h : t.IsForest) (he : e.IsAdmissible t) (hp : e.parent? = some p)
    (hid : p ∈ t.preorder id)
    (hclear : ∀ a ∈ t.preorder id, a = p ∨ t.IsBelow a p → t.text? a = none) :
    (e.apply t).textAmong id ((e.apply t).preorder (e.subject t)) =
      ((e.apply t).textContent (e.subject t)).toList := by
  have hsubject : e.subject t ∈ (e.apply t).preorder id := by
    obtain ⟨before, after, -, hnew⟩ := h.preorder_apply he hp hid
    have hself : e.subject t ∈ (e.apply t).preorder (e.subject t) :=
      (h.apply he).mem_preorder_iff.2 (.inl rfl)
    simp [hnew, hself]
  exact ((h.apply he).textContent_eq hsubject (h.text?_above_subject he hp hclear)).symm

/-- A subtree that an edit neither appends to nor takes away has the same text after it. -/
theorem textContent_apply_of_not_mem (h : t.IsForest) (he : e.IsAdmissible t)
    (hspared : e.spares t id = true) (hp : ∀ p, e.parent? = some p → p ∉ t.preorder id) :
    (e.apply t).textContent id = t.textContent id := by
  rw [← String.toList_inj, (h.apply he).textContent_eq_self, h.textContent_eq_self,
    h.preorder_apply_of_not_mem he hp]
  exact h.textAmong_apply he fun n hn => h.spares_of_mem_preorder he hspared hn

/-- A node without children and without text of its own has no text. -/
theorem textAmong_leaf (h : t.IsForest) (htext : t.text? n = none) (hchildren : t.children n = []) :
    t.textAmong top (t.preorder n) = [] := by
  rw [h.preorder_eq, hchildren, List.flatMap_nil]
  refine textAmong_eq_nil fun a ha => ?_
  rw [List.mem_singleton.1 ha]
  exact isOutermostText_of_text?_eq_none htext

/-- What has no text after the edit had none before. -/
theorem text?_subject (htext : (e.apply t).text? (e.subject t) = none) :
    t.text? (e.subject t) = none := by
  have hnew : t.text? t.size = none := by rw [text?_eq, content?_size, Option.bind_none]
  cases e with
  | create content => exact hnew
  | attach parent child =>
    rw [text?_eq] at htext ⊢
    rwa [Edit.apply, content?_attach] at htext
  | appendElement parent element => exact hnew
  | appendText parent text => exact hnew
  | appendComment parent text => exact hnew

/-- **What has no text changes no text**, wherever it is appended: neither a comment nor an element
without children. -/
theorem textContent_apply_of_no_text (h : t.IsForest) (he : e.IsAdmissible t)
    (htext : (e.apply t).text? (e.subject t) = none)
    (hchildren : (e.apply t).children (e.subject t) = []) (id : NodeId) :
    (e.apply t).textContent id = t.textContent id := by
  cases hspared : e.spares t id with
  | true =>
    by_cases hin : ∃ p, e.parent? = some p ∧ p ∈ t.preorder id
    · obtain ⟨p, hp, hid⟩ := hin
      obtain ⟨before, after, -, -, hold, hnew⟩ := h.exists_textContent_apply he hp hid
      rw [(h.apply he).textAmong_leaf htext hchildren, List.append_nil] at hnew
      exact String.toList_inj.1 (hnew.trans hold.symm)
    · exact h.textContent_apply_of_not_mem he hspared fun p hp hid => hin ⟨p, hp, hid⟩
  | false =>
    -- what is not spared is the subject itself: there is nothing below it
    have hnone : t.children (e.subject t) = [] := by
      rw [children_apply] at hchildren
      exact (List.append_eq_nil_iff.1 hchildren).1
    have hid : id = e.subject t := by
      by_contra hne
      have hb : t.IsBelow (e.subject t) id := by
        by_contra hb
        rw [(h.spares_iff e).2 ⟨hne, hb⟩] at hspared
        contradiction
      obtain ⟨c, hc, -⟩ := Relation.TransGen.head'_iff.1 hb
      rw [hnone] at hc
      contradiction
    rw [hid, ← String.toList_inj, (h.apply he).textContent_eq_self, h.textContent_eq_self,
      (h.apply he).textAmong_leaf htext hchildren, h.textAmong_leaf (text?_subject htext) hnone]

end IsForest

/-! ## Appending new nodes -/

theorem content?_append_size (t : Tree) (parent : NodeId) (content : Content) :
    (t.append parent content).content? t.size = some content := by
  rw [append, content?_attach, content?_create_size]

theorem text?_append_size (t : Tree) (parent : NodeId) (content : Content) :
    (t.append parent content).text? t.size = content.text? := by
  rw [text?_eq, content?_append_size, Option.bind_some]

/-- A new node has no children. -/
theorem children_append_size (content : Content) (hp : p < t.size) :
    (t.append p content).children t.size = [] := by
  rw [children_append, if_neg fun hr => Nat.ne_of_gt hp hr.1, children, node?_size]
  rfl

/-- The text of a node without children is its own. -/
theorem textContent_leaf (hid : id < t.size) (hchildren : t.children id = []) :
    t.textContent id = (t.text? id).getD "" := by
  obtain ⟨depth, hd⟩ := Nat.exists_eq_succ_of_ne_zero (Nat.ne_zero_of_lt hid)
  rw [textContent, hd, textUpTo, hchildren]
  cases t.text? id <;> simp

/-- Text that is appended is the text of its node, unless it is white space. -/
theorem textContent_appendText (s : String) (hp : p < t.size) :
    ((Edit.appendText p s).apply t).textContent t.size =
      if s.toList.all Text.isBlank then "" else s := by
  rw [Edit.apply, textContent_leaf (by simp) (children_append_size _ hp), text?_append_size,
    Content.ofText]
  split <;> rfl

/-- **Text is in document order.** In every tree that admissible edits build, the subtree of a node
is listed in document order as the node and then the subtrees of its children, from left to right,
with every node of it once; and the text of the subtree is the text of those of its text nodes that
have no text node of it above them, in this order. Whatever an edit appends to a node of the
subtree that is neither a text node of it nor below one, it comes in right behind the subtree of
that node, and its text is inserted at this place. For appended text this is one node with all of
the text, or with none if the text is white space. What has neither text nor children changes no
text wherever it is appended, and so do comments and new elements. -/
theorem textContent_in_document_order (edits : List Edit) (h : Tree.empty.Admits edits) :
    let t := Tree.empty.perform edits
    (∀ id, t.preorder id = id :: (t.children id).flatMap t.preorder ∧ (t.preorder id).Nodup ∧
      (∀ n, n ∈ t.preorder id ↔ n = id ∨ t.IsBelow id n) ∧
      (∀ n, t.isOutermostText id n = true ↔ (t.text? n).isSome = true ∧
        ∀ a ∈ t.preorder id, t.IsBelow a n → t.text? a = none) ∧
      (t.textContent id).toList =
        ((t.preorder id).filter (t.isOutermostText id)).flatMap t.ownText) ∧
    (∀ (e : Edit) (p id : NodeId), e.IsAdmissible t → e.parent? = some p → p ∈ t.preorder id →
      (∀ a ∈ t.preorder id, a = p ∨ t.IsBelow a p → t.text? a = none) →
      let t' := e.apply t
      ∃ before after, t.preorder id = before ++ t.preorder p ++ after ∧
        t'.preorder id = before ++ t.preorder p ++ t'.preorder (e.subject t) ++ after ∧
        (t.textContent id).toList =
          t.textAmong id (before ++ t.preorder p) ++ t.textAmong id after ∧
        (t'.textContent id).toList =
          t.textAmong id (before ++ t.preorder p) ++ (t'.textContent (e.subject t)).toList ++
            t.textAmong id after) ∧
    (∀ (p : NodeId) (s : String), p < t.size →
      let t' := (Edit.appendText p s).apply t
      t'.preorder t.size = [t.size] ∧
        t'.textContent t.size = if s.toList.all Text.isBlank then "" else s) ∧
    (∀ e : Edit, e.IsAdmissible t → (e.apply t).text? (e.subject t) = none →
      (e.apply t).children (e.subject t) = [] →
      ∀ id, (e.apply t).textContent id = t.textContent id) ∧
    ∀ (p : NodeId) (s : String) (element : Element), p < t.size → ∀ id,
      ((Edit.appendComment p s).apply t).textContent id = t.textContent id ∧
        ((Edit.appendElement p element).apply t).textContent id = t.textContent id := by
  intro t
  have ht : t.IsForest := IsForest.empty.perform h
  refine ⟨fun id => ?_, fun e p id he hp hid hclear => ?_, fun p s hp => ?_,
    fun e he => ht.textContent_apply_of_no_text he, fun p s element hp id => ?_⟩
  · exact ⟨ht.preorder_eq id, ht.nodup_preorder id, fun n => ht.mem_preorder_iff,
      fun n => ht.isOutermostText_iff, ht.textContent_eq_self id⟩
  · obtain ⟨before, after, hold, hnew, htext, htext'⟩ := ht.exists_textContent_apply he hp hid
    rw [ht.textAmong_subject he hp hid hclear] at htext'
    exact ⟨before, after, hold, hnew, htext, htext'⟩
  · refine ⟨?_, textContent_appendText s hp⟩
    have hp' : (Edit.appendText p s).IsAdmissible t := hp
    rw [(ht.apply hp').preorder_eq, Edit.apply, children_append_size _ hp, List.flatMap_nil]
  · have hcomment : (Edit.appendComment p s).IsAdmissible t := hp
    have helement : (Edit.appendElement p element).IsAdmissible t := hp
    exact ⟨ht.textContent_apply_of_no_text hcomment (text?_append_size t p _)
        (children_append_size _ hp) id,
      ht.textContent_apply_of_no_text helement (text?_append_size t p _)
        (children_append_size _ hp) id⟩

/-- Text below a text node and white space do not count; text below a comment does. -/
theorem textContent_in_document_order_nested :
    let named (name : String) : Element := ⟨.ofName name, []⟩
    let edits : List Edit :=
      [.appendElement 0 (named "p"), .appendText 1 "one", .appendComment 1 "note",
        .appendElement 3 (named "b"), .appendText 2 "within", .appendText 1 " ",
        .appendText 1 "two"]
    let t := Tree.empty.perform edits
    let t' := (Edit.appendText 4 "!").apply t
    Tree.empty.Admits edits ∧ t.preorder 1 = [1, 2, 5, 3, 4, 6, 7] ∧
      (t.textContent 1).toList = "onetwo".toList ∧
      (∃ before after, before ++ after = "onetwo".toList ∧
        (t'.textContent 1).toList = before ++ ['!'] ++ after) ∧
      ((Edit.appendElement 2 (named "i")).apply t).textContent 1 = t.textContent 1 := by
  intro named edits t t'
  have h : Tree.empty.Admits edits := by decide
  have ht : t.IsForest := IsForest.empty.perform h
  obtain ⟨-, hinsert, htext, -, hsame⟩ := textContent_in_document_order edits h
  have horder : t.preorder 1 = [1, 2, 5, 3, 4, 6, 7] := by decide
  have hold : (t.textContent 1).toList = "onetwo".toList := by decide
  have hclear : ∀ a ∈ t.preorder 1, a = 4 ∨ t.IsBelow a 4 → t.text? a = none := by
    simp only [← ht.isDescendantOf_iff]
    decide
  obtain ⟨before, after, -, -, hwhole, hnew⟩ :=
    hinsert (.appendText 4 "!") 4 1 (by decide) rfl (by decide) hclear
  obtain ⟨-, hbrought⟩ := htext 4 "!" (by decide)
  have hone : (t'.textContent t.size).toList = ['!'] := by
    rw [hbrought]
    decide
  refine ⟨h, horder, hold, ⟨_, _, hwhole.symm.trans hold, hnew.trans ?_⟩, ?_⟩
  · exact congrArg (t.textAmong 1 (before ++ t.preorder 4) ++ · ++ t.textAmong 1 after) hone
  · exact (hsame 2 "" (named "i") (by decide) 1).2

end Tree

end DocQuery
