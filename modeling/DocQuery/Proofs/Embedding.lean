import DocQuery.Proofs.Chain
import DocQuery.Proofs.Queries
import Mathlib.Data.List.Find

/-!
# A part of a tree within another tree

A selector asks about a node, what is above it, and what stands before it. So it cannot tell a
tree from a larger one that holds the same nodes with the same parents, and lists, for each of
them, the same children and then others. The walk below a node does meet the others, but where
these have only others below them, leaving them out of the walk leaves the walk of the smaller
tree.

- `Tree.Embeds`: the nodes of a part are carried to nodes of another tree.
- `Tree.Embeds.related_iff`: the relations of the combinators are carried along.
- `Tree.Embeds.accepts_eq`: selectors do not tell a node from its image.
- `Tree.Embeds.filter_findAll`: without what lies outside the image, the same nodes are found in
  the same order.
-/

namespace DocQuery

/-- The map carries a part of the first tree to a part of the second one. The nodes of the second
tree that `image` leaves out are its others. -/
structure Tree.Embeds (t t' : Tree) (f : NodeId → NodeId) (part : NodeId → Prop)
    (image : NodeId → Bool) : Prop where
  /-- The image of a node is the same element, or none either. -/
  element : ∀ {a}, part a → t'.element? (f a) = t.element? a
  /-- The image of a node lists the images of its children, and then others. -/
  children : ∀ {a}, part a → ∃ more, t'.children (f a) = (t.children a).map f ++ more ∧
    ∀ b ∈ more, image b = false
  /-- The image of a node without a parent has none either. -/
  top : ∀ {a}, part a → t.parent? a = none → t'.parent? (f a) = none
  /-- With a node its parent is in the part. -/
  up : ∀ {a p}, part a → t.parent? a = some p → part p
  /-- With a node its children are in the part. -/
  down : ∀ {a c}, part a → c ∈ t.children a → part c
  image_of_part : ∀ {a}, part a → image (f a) = true
  /-- Others have only others as their children. -/
  others : ∀ {b c}, image b = false → c ∈ t'.children b → image c = false

namespace Tree.Embeds

variable {t t' : Tree} {f : NodeId → NodeId} {part : NodeId → Prop} {image : NodeId → Bool}
variable {a m start : NodeId}

/-! ## What selectors look at -/

theorem isElement_eq (h : t.Embeds t' f part image) (ha : part a) :
    t'.isElement (f a) = t.isElement a := by
  rw [isElement, isElement, h.element ha]

theorem parent?_eq (h : t.Embeds t' f part image) (ht : t.IsForest) (ht' : t'.IsForest)
    (ha : part a) : t'.parent? (f a) = (t.parent? a).map f := by
  cases hp : t.parent? a with
  | none => exact h.top ha hp
  | some p =>
    obtain ⟨more, hlist, _⟩ := h.children (h.up ha hp)
    refine ht'.parent?_of_mem ?_
    rw [hlist]
    exact List.mem_append_left _ (List.mem_map_of_mem (ht.mem_of_parent? hp))

theorem part_of_climbs (h : t.Embeds t' f part image) (ha : part a) {path : List NodeId}
    (hup : t.Climbs a path) : ∀ b ∈ path, part b := by
  induction hup with
  | top => simp
  | step hp _ ih =>
    have hpart := h.up ha hp
    intro b hb
    rcases List.mem_cons.1 hb with rfl | hb
    · exact hpart
    · exact ih hpart b hb

theorem climbs_map (h : t.Embeds t' f part image) (ht : t.IsForest) (ht' : t'.IsForest)
    (ha : part a) {path : List NodeId} (hup : t.Climbs a path) :
    t'.Climbs (f a) (path.map f) := by
  induction hup with
  | top hn => exact .top (h.top ha hn)
  | step hp _ ih =>
    refine .step ?_ (ih (h.up ha hp))
    rw [h.parent?_eq ht ht' ha, hp]
    rfl

theorem ancestors_eq (h : t.Embeds t' f part image) (ht : t.IsForest) (ht' : t'.IsForest)
    (ha : part a) : t'.ancestors (f a) = (t.ancestors a).map f :=
  (ht'.climbs_ancestors (f a)).unique (h.climbs_map ht ht' ha (ht.climbs_ancestors a))

/-- What the image lists besides the images of the children stands behind them, and so it does
not precede any of them. -/
theorem precedingSiblings_eq (h : t.Embeds t' f part image) (ht : t.IsForest)
    (ht' : t'.IsForest) (ha : part a) :
    t'.precedingSiblings (f a) = (t.precedingSiblings a).map f := by
  cases hp : t.parent? a with
  | none => simp [precedingSiblings, hp, h.top ha hp]
  | some p =>
    obtain ⟨before, after, hs⟩ := List.append_of_mem (ht.mem_of_parent? hp)
    obtain ⟨more, hlist, _⟩ := h.children (h.up ha hp)
    have hs' : t'.children (f p) = before.map f ++ f a :: (after.map f ++ more) := by
      rw [hlist, hs, List.map_append, List.map_cons, List.append_assoc, List.cons_append]
    rw [ht.precedingSiblings_eq hs, ht'.precedingSiblings_eq hs', List.map_reverse]

theorem part_of_mem_precedingSiblings (h : t.Embeds t' f part image) (ha : part a) :
    ∀ b ∈ t.precedingSiblings a, part b := by
  intro b hb
  cases hp : t.parent? a with
  | none => simp [precedingSiblings, hp] at hb
  | some p =>
    rw [precedingSiblings, hp] at hb
    have hmem : b ∈ t.children p := List.mem_of_mem_take (List.mem_reverse.1 hb)
    exact h.down (h.up ha hp) hmem

/-- Whatever a combinator relates to a node of the part is in the part. -/
theorem part_of_related (h : t.Embeds t' f part image) (ht : t.IsForest) (k : Combinator)
    (ha : part a) (hm : t.Related k m a) : part m := by
  cases k with
  | child => exact h.up ha (ht.related_child_iff.1 hm)
  | descendant =>
    exact h.part_of_climbs ha (ht.climbs_ancestors a) m (ht.related_descendant_iff.1 hm)
  | adjacent =>
    have hfound := ht.related_adjacent_iff.1 hm
    exact h.part_of_mem_precedingSiblings ha m (List.mem_of_find?_eq_some hfound)
  | sibling =>
    have hmem := ht.related_sibling_iff.1 hm
    exact h.part_of_mem_precedingSiblings ha m (List.mem_filter.1 hmem).1

/-- To the image of a node a combinator relates the images of what it relates to the node. -/
theorem related_iff (h : t.Embeds t' f part image) (ht : t.IsForest) (ht' : t'.IsForest)
    (k : Combinator) (ha : part a) :
    t'.Related k m (f a) ↔ ∃ b, t.Related k b a ∧ f b = m := by
  have helement : ∀ b ∈ t.precedingSiblings a, (t'.isElement ∘ f) b = t.isElement b :=
    fun b hb => h.isElement_eq (h.part_of_mem_precedingSiblings ha b hb)
  cases k with
  | child =>
    simp only [ht.related_child_iff, ht'.related_child_iff, h.parent?_eq ht ht' ha,
      Option.map_eq_some_iff]
  | descendant =>
    simp only [ht.related_descendant_iff, ht'.related_descendant_iff, h.ancestors_eq ht ht' ha,
      List.mem_map]
  | adjacent =>
    simp only [ht.related_adjacent_iff, ht'.related_adjacent_iff,
      h.precedingSiblings_eq ht ht' ha, List.find?_map, List.find?_congr helement,
      Option.map_eq_some_iff]
  | sibling =>
    simp only [ht.related_sibling_iff, ht'.related_sibling_iff, h.precedingSiblings_eq ht ht' ha,
      List.filter_map, List.filter_congr helement, List.mem_map]

/-- **Selectors do not tell a node from its image.** -/
theorem accepts_eq (h : t.Embeds t' f part image) (ht : t.IsForest) (ht' : t'.IsForest)
    (s : Selector) (ha : part a) : s.accepts t' (f a) = s.accepts t a := by
  induction s generalizing a with
  | universal => exact h.isElement_eq ha
  | tag g => rw [Selector.accepts, Selector.accepts, h.element ha]
  | test condition => rw [Selector.accepts, Selector.accepts, h.element ha]
  | not inner ih => rw [Selector.accepts, Selector.accepts, h.isElement_eq ha, ih ha]
  | union left right ihl ihr => rw [Selector.accepts, Selector.accepts, ihl ha, ihr ha]
  | intersection left right ihl ihr => rw [Selector.accepts, Selector.accepts, ihl ha, ihr ha]
  | combine k left right ihl ihr =>
    rw [Bool.eq_iff_iff, Selector.accepts_combine_iff ht', Selector.accepts_combine_iff ht, ihr ha]
    refine and_congr_right fun _ => ?_
    constructor
    · rintro ⟨m, hrelated, hm⟩
      obtain ⟨b, hb, rfl⟩ := (h.related_iff ht ht' k ha).1 hrelated
      exact ⟨b, hb, (ihl (h.part_of_related ht k ha hb)).symm.trans hm⟩
    · rintro ⟨b, hb, hleft⟩
      refine ⟨f b, (h.related_iff ht ht' k ha).2 ⟨b, hb, rfl⟩, ?_⟩
      exact (ihl (h.part_of_related ht k ha hb)).trans hleft

/-! ## What the walk visits -/

theorem part_of_mem_level (h : t.Embeds t' f part image) (hstart : part start) {depth : Nat} :
    ∀ a ∈ t.level start depth, part a := by
  induction depth with
  | zero =>
    intro a ha
    rwa [List.mem_singleton.1 ha]
  | succ depth ih =>
    intro a ha
    obtain ⟨p, hp, hmem⟩ := List.mem_flatMap.1 ha
    exact h.down (ih p (List.mem_filter.1 hp).1) hmem

/-- Below the image of a node there are the images of what is below the node, and others. -/
theorem filter_below (h : t.Embeds t' f part image) (ha : part a) :
    (t'.below (f a)).filter image = (t.below a).map f := by
  obtain ⟨more, hlist, hmore⟩ := h.children ha
  rw [below, below, h.isElement_eq ha]
  cases t.isElement a with
  | false => rfl
  | true =>
    have hkept : ((t.children a).map f).filter image = (t.children a).map f := by
      refine List.filter_eq_self.2 fun b hb => ?_
      obtain ⟨c, hc, rfl⟩ := List.mem_map.1 hb
      exact h.image_of_part (h.down ha hc)
    have hdropped : more.filter image = [] :=
      List.filter_eq_nil_iff.2 fun b hb => by simp [hmore b hb]
    rw [if_pos rfl, if_pos rfl, hlist, List.filter_append, hkept, hdropped, List.append_nil]

theorem filter_below_of_others (h : t.Embeds t' f part image) {b : NodeId}
    (hb : image b = false) : (t'.below b).filter image = [] := by
  refine List.filter_eq_nil_iff.2 fun c hc => ?_
  rw [below] at hc
  split at hc
  · simp [h.others hb hc]
  · contradiction

/-- What the image takes from below a list of nodes is below those of them that it takes. -/
theorem filter_flatMap_below (h : t.Embeds t' f part image) (nodes : List NodeId) :
    (nodes.flatMap t'.below).filter image =
      (nodes.filter image).flatMap fun b => (t'.below b).filter image := by
  induction nodes with
  | nil => rfl
  | cons b nodes ih =>
    rw [List.flatMap_cons, List.filter_append, List.filter_cons, ih]
    cases hb : image b with
    | false => rw [h.filter_below_of_others hb, List.nil_append, if_neg (by simp)]
    | true => rw [if_pos rfl, List.flatMap_cons]

/-- Each level of the second tree holds the image of the level of the first one, and others. -/
theorem filter_level (h : t.Embeds t' f part image) (hstart : part start) (depth : Nat) :
    (t'.level (f start) depth).filter image = (t.level start depth).map f := by
  induction depth with
  | zero => simp [h.image_of_part hstart]
  | succ depth ih =>
    rw [level_succ, level_succ, h.filter_flatMap_below, ih, List.flatMap_map, List.map_flatMap]
    exact List.flatMap_congr fun a ha => h.filter_below (h.part_of_mem_level hstart a ha)

theorem filter_levelOrder (h : t.Embeds t' f part image) (ht : t.IsForest) (ht' : t'.IsForest)
    (hstart : part start) :
    (t'.levelOrder (f start)).filter image = (t.levelOrder start).map f := by
  -- the trees may differ in size, so that both walks are cut into as many levels as either has
  have hcount : t.size < t.size + t'.size + 1 := by omega
  have hcount' : t'.size < t.size + t'.size + 1 := by omega
  rw [ht.isAcyclic.levelOrder_eq start hcount, ht'.isAcyclic.levelOrder_eq (f start) hcount',
    List.filter_flatMap, List.map_flatMap]
  exact List.flatMap_congr fun depth _ => h.filter_level hstart depth

theorem part_of_mem_levelOrder (h : t.Embeds t' f part image) (ht : t.IsForest)
    (hstart : part start) : ∀ a ∈ t.levelOrder start, part a := by
  intro a ha
  rw [ht.isAcyclic.levelOrder_eq start (Nat.lt_succ_self t.size)] at ha
  obtain ⟨depth, _, ha⟩ := List.mem_flatMap.1 ha
  exact h.part_of_mem_level hstart a ha

/-- **Without the others, queries find the images of what they find in the first tree**, in the
same order. -/
theorem filter_findAll (h : t.Embeds t' f part image) (ht : t.IsForest) (ht' : t'.IsForest)
    (hstart : part start) (s : Selector) :
    (t'.findAll (f start) s).filter image = (t.findAll start s).map f := by
  have haccepts : ∀ a ∈ t.levelOrder start, (s.accepts t' ∘ f) a = s.accepts t a := fun a ha =>
    h.accepts_eq ht ht' s (h.part_of_mem_levelOrder ht hstart a ha)
  rw [findAll, findAll, List.filter_comm, h.filter_levelOrder ht ht' hstart, List.filter_map,
    List.filter_congr haccepts]

end Tree.Embeds

end DocQuery
