import DocQuery.Document.Edit
import DocQuery.Document.Walk

/-!
# Positions survive every misuse

Nothing stops a caller from attaching a node again, from closing a circle, or from naming a node
that is not there; an edit that misses a node keeps what it has done until then, and a number that
was left behind in a list may get its node later. The records of a tree disagree after that, with
one exception: a node that knows a parent is listed there, at the position that it knows. A list
of children only ever grows at its end, so that no later edit takes the entry away, and the parent
and the position of a node are only ever written together.

- `Edit.adds`: what an edit adds to a list of children, whether it misses a node or not.
- `Tree.HoldsPlaces`: what has a parent is listed there, at its position.
- `Tree.HoldsPlaces.apply`, `Tree.HoldsPlaces.perform`: every edit keeps the places.
- `Tree.precedingSlice?`: the slice of a list that the preceding siblings are read from.
- `Tree.perform_holds_places`: what this says about every run from the empty tree.
-/

namespace DocQuery

/-! ## What edits add to lists of children -/

/-- What the edit adds at the end of the children of the node. The parent has to be there when the
child is listed, and a node that appending makes is there by then. -/
def Edit.adds (t : Tree) : Edit → NodeId → List NodeId
  | create _, _ => []
  | attach parent child, id => if id = parent ∧ parent < t.size then [child] else []
  | appendElement parent _, id => if id = parent ∧ parent ≤ t.size then [t.size] else []
  | appendText parent _, id => if id = parent ∧ parent ≤ t.size then [t.size] else []
  | appendComment parent _, id => if id = parent ∧ parent ≤ t.size then [t.size] else []

namespace Tree

variable {t : Tree}

theorem children_attach_eq_append (t : Tree) (parent child id : NodeId) :
    (t.attach parent child).children id =
      t.children id ++ if id = parent ∧ parent < t.size then [child] else [] := by
  by_cases hp : parent < t.size
  · rw [children_attach t child hp]
    by_cases hid : id = parent <;> simp [hid, hp]
  · rw [attach_of_size_le t child (Nat.not_lt.1 hp)]
    simp [hp]

theorem children_append (t : Tree) (parent : NodeId) (content : Content) (id : NodeId) :
    (t.append parent content).children id =
      t.children id ++ if id = parent ∧ parent ≤ t.size then [t.size] else [] := by
  rw [append, children_attach_eq_append, children_create, size_create]
  simp only [Nat.lt_succ_iff]

/-- Every edit leaves what is listed where it is, and adds at the end. -/
theorem children_apply (t : Tree) (e : Edit) (id : NodeId) :
    (e.apply t).children id = t.children id ++ e.adds t id := by
  cases e with
  | create content => exact (children_create t content id).trans (List.append_nil _).symm
  | attach parent child => exact children_attach_eq_append t parent child id
  | appendElement parent element => exact children_append t parent _ id
  | appendText parent text => exact children_append t parent _ id
  | appendComment parent text => exact children_append t parent _ id

/-- **No run of edits takes a node away, or changes an entry of a list of children.** -/
theorem size_le_and_children_prefix_perform (t : Tree) (edits : List Edit) :
    t.size ≤ (t.perform edits).size ∧ ∀ id, t.children id <+: (t.perform edits).children id := by
  induction edits generalizing t with
  | nil => exact ⟨Nat.le_refl _, fun id => List.prefix_refl _⟩
  | cons e rest ih =>
    obtain ⟨hsize, hlists⟩ := ih (e.apply t)
    refine ⟨Nat.le_trans (Edit.size_le_size_apply t e) hsize, fun id => ?_⟩
    have hone : t.children id <+: (e.apply t).children id := by
      rw [children_apply]
      exact List.prefix_append _ _
    exact hone.trans (hlists id)

/-! ## Places -/

/-- What has a parent is listed there, at the position that it knows. -/
def HoldsPlaces (t : Tree) : Prop :=
  ∀ n p, t.parent? n = some p → (t.children p)[t.index n]? = some n

namespace HoldsPlaces

theorem empty : Tree.empty.HoldsPlaces := by
  intro n p hp
  have hnone : Tree.empty.parent? n = none := by
    cases n <;> rfl
  rw [hnone] at hp
  contradiction

theorem create (h : t.HoldsPlaces) (content : Content) : (t.create content).HoldsPlaces := by
  intro n p hp
  rw [parent?_create] at hp
  rw [children_create, index_create]
  exact h n p hp

/-- Attaching writes the position at which the child has just been listed; any other node keeps
its parent and its position, and the entry there is still the same. -/
theorem attach (h : t.HoldsPlaces) (parent child : NodeId) :
    (t.attach parent child).HoldsPlaces := by
  by_cases hparent : parent < t.size
  · intro n p hp
    rw [parent?_attach t child hparent] at hp
    rw [index_attach t child hparent, children_attach_eq_append]
    by_cases hn : n = child ∧ n < t.size
    · rw [if_pos hn] at hp ⊢
      obtain rfl := Option.some.inj hp
      simp [hparent, hn.1]
    · rw [if_neg hn] at hp ⊢
      have hplace := h n p hp
      rw [List.getElem?_append_left (List.getElem?_eq_some_iff.1 hplace).1]
      exact hplace
  · rwa [attach_of_size_le t child (Nat.not_lt.1 hparent)]

theorem append (h : t.HoldsPlaces) (parent : NodeId) (content : Content) :
    (t.append parent content).HoldsPlaces :=
  (h.create content).attach parent t.size

/-- **Every edit keeps the places**, also one that misses a node. -/
theorem apply (h : t.HoldsPlaces) (e : Edit) : (e.apply t).HoldsPlaces := by
  cases e with
  | create content => exact h.create content
  | attach parent child => exact h.attach parent child
  | appendElement parent element => exact h.append parent _
  | appendText parent text => exact h.append parent _
  | appendComment parent text => exact h.append parent _

/-- **Every run of edits keeps the places.** -/
theorem perform (h : t.HoldsPlaces) (edits : List Edit) : (t.perform edits).HoldsPlaces := by
  induction edits generalizing t with
  | nil => exact h
  | cons e rest ih => exact ih (h.apply e)

theorem index_lt (h : t.HoldsPlaces) {n p : NodeId} (hp : t.parent? n = some p) :
    t.index n < (t.children p).length :=
  (List.getElem?_eq_some_iff.1 (h n p hp)).1

theorem parent_lt_size (h : t.HoldsPlaces) {n p : NodeId} (hp : t.parent? n = some p) :
    p < t.size :=
  lt_size_of_mem_children (List.mem_of_getElem? (h n p hp))

end HoldsPlaces

/-! ## Preceding siblings -/

/-- The part of the parent's list that ends before the position of the node; there is none if the
position lies beyond the end of the list. A node without a parent has nothing before it. -/
def precedingSlice? (t : Tree) (id : NodeId) : Option (List NodeId) :=
  match t.parent? id with
  | some parent =>
    let siblings := t.children parent
    if t.index id ≤ siblings.length then some (siblings.take (t.index id)) else none
  | none => some []

/-- The slice is there for every number, and the preceding siblings are its entries backwards. -/
theorem HoldsPlaces.precedingSlice?_eq (h : t.HoldsPlaces) (id : NodeId) :
    t.precedingSlice? id = some (t.precedingSiblings id).reverse := by
  unfold precedingSlice? precedingSiblings
  cases hp : t.parent? id with
  | none => rfl
  | some p =>
    show (if _ then _ else _) = _
    rw [if_pos (Nat.le_of_lt (h.index_lt hp)), List.reverse_reverse]

/-- The preceding siblings are as many as the position says, and they are the first entries of the
parent's list, backwards. -/
theorem HoldsPlaces.precedingSiblings_spec (h : t.HoldsPlaces) {id p : NodeId}
    (hp : t.parent? id = some p) :
    (t.precedingSiblings id).length = t.index id ∧
      (t.precedingSiblings id).reverse <+: t.children p := by
  have hsiblings : t.precedingSiblings id = ((t.children p).take (t.index id)).reverse := by
    rw [precedingSiblings, hp]
  rw [hsiblings, List.reverse_reverse, List.length_reverse, List.length_take]
  exact ⟨Nat.min_eq_left (Nat.le_of_lt (h.index_lt hp)), List.take_prefix _ _⟩

/-- **Positions survive every run of edits**, whatever numbers the edits name. Each node with a
parent is listed by it, at the position that the node knows. So the preceding siblings are always
a slice of that list: the first entries, as many as the position says, backwards. What is added to
the run later takes no node away and changes no entry of a list of children. -/
theorem perform_holds_places (edits later : List Edit) :
    let t := Tree.empty.perform edits
    let t' := Tree.empty.perform (edits ++ later)
    (∀ n p, t.parent? n = some p →
      p < t.size ∧ t.index n < (t.children p).length ∧ (t.children p)[t.index n]? = some n) ∧
    (∀ id, t.precedingSlice? id = some (t.precedingSiblings id).reverse) ∧
    (∀ id p, t.parent? id = some p → (t.precedingSiblings id).length = t.index id ∧
      (t.precedingSiblings id).reverse <+: t.children p) ∧
    (∀ id, t.parent? id = none → t.precedingSiblings id = []) ∧
    t.size ≤ t'.size ∧ ∀ id, t.children id <+: t'.children id := by
  intro t t'
  have h : t.HoldsPlaces := HoldsPlaces.empty.perform edits
  have hlater : t' = t.perform later := List.foldl_append
  refine ⟨fun n p hp => ⟨h.parent_lt_size hp, h.index_lt hp, h n p hp⟩, h.precedingSlice?_eq,
    fun id p hp => h.precedingSiblings_spec hp, fun id hn => ?_, ?_⟩
  · rw [precedingSiblings, hn]
  · rw [hlater]
    exact size_le_and_children_prefix_perform t later

/-- A node whose parent is missing when it is made, a node listed twice, a circle, and a number
that is listed before its node is there. -/
theorem perform_holds_places_misused :
    let edits : List Edit :=
      [.appendComment 7 "lost", .attach 0 1, .attach 0 3, .attach 0 1, .attach 1 0]
    let later : List Edit := [.appendText 2 "its own parent", .create (.text "listed")]
    let t := Tree.empty.perform edits
    t.parent? 1 = some 0 ∧ t.precedingSlice? 1 = some [1, 3] ∧
      [1, 3, 1] <+: (Tree.empty.perform (edits ++ later)).children 0 := by
  intro edits later t
  have hsiblings : t.precedingSiblings 1 = [3, 1] := by decide
  have hlist : t.children 0 = [1, 3, 1] := by decide
  obtain ⟨_, hslice, _, _, _, hlists⟩ := perform_holds_places edits later
  refine ⟨by decide, ?_, ?_⟩
  · rw [hslice 1, hsiblings]
    rfl
  · rw [← hlist]
    exact hlists 0

end Tree

end DocQuery
