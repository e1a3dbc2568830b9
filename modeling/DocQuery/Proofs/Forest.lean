import DocQuery.Document.Edit
import DocQuery.Document.Walk
import Mathlib.Data.List.Perm.Subperm

/-!
# Trees built by admissible edits are forests

A tree says the same thing three times over: a node records its parent, its position among the
parent's children, and the parent lists it. Attaching looks at none of these records, and whether
they agree afterwards is up to the caller, who attaches only what has no parent yet and what the
new parent does not lie below. Under that rule the records always agree, and the way up from every
node comes to an end.

- `Edit.IsAdmissible`, `Tree.Admits`: the edits, and the runs of edits, that keep to the rule.
- `Tree.Climbs`: the way from a node up to one without a parent.
- `Tree.IsForest`: the records agree and every way up ends.
- `Tree.IsForest.apply`, `Tree.IsForest.perform`: admissible edits keep the forest.
- `Tree.perform_links_agree`: what this says about every run from the empty tree.
-/

namespace DocQuery

/-! ## Admissible edits -/

/-- The edit finds the nodes that it names, and what it attaches has no parent yet and is neither
the new parent nor one of its ancestors. -/
def Edit.IsAdmissible (t : Tree) : Edit → Prop
  | create _ => True
  | attach parent child =>
    parent < t.size ∧ child < t.size ∧ t.parent? child = none ∧ child ≠ parent ∧
      child ∉ t.ancestors parent
  | appendElement parent _ => parent < t.size
  | appendText parent _ => parent < t.size
  | appendComment parent _ => parent < t.size

instance (t : Tree) : (e : Edit) → Decidable (e.IsAdmissible t)
  | .create _ => inferInstanceAs (Decidable True)
  | .attach parent child =>
    inferInstanceAs (Decidable (parent < t.size ∧ child < t.size ∧ t.parent? child = none ∧
      child ≠ parent ∧ child ∉ t.ancestors parent))
  | .appendElement parent _ => inferInstanceAs (Decidable (parent < t.size))
  | .appendText parent _ => inferInstanceAs (Decidable (parent < t.size))
  | .appendComment parent _ => inferInstanceAs (Decidable (parent < t.size))

/-- An admissible edit misses no node. -/
theorem Edit.IsAdmissible.result_eq_ok {t : Tree} {e : Edit} (h : e.IsAdmissible t) :
    ∃ made, e.result t = .ok made := by
  have happended : ∀ {parent : NodeId}, parent < t.size → appended t parent = .ok (some t.size) :=
    fun hp => if_neg (Nat.not_lt.2 (Nat.le_of_lt hp))
  cases e with
  | create content => exact ⟨_, rfl⟩
  | attach parent child =>
    obtain ⟨hp, hc, _⟩ := h
    have hlacks : t.lacksFor parent child = none := by
      rw [Tree.lacksFor, if_neg (Nat.not_le.2 hp), if_neg (Nat.not_le.2 hc)]
    exact ⟨none, by rw [result, hlacks]⟩
  | appendElement parent element => exact ⟨_, happended h⟩
  | appendText parent text => exact ⟨_, happended h⟩
  | appendComment parent text => exact ⟨_, happended h⟩

namespace Tree

/-- Each edit is admissible when its turn comes. -/
def Admits (t : Tree) : List Edit → Prop
  | [] => True
  | e :: rest => e.IsAdmissible t ∧ (e.apply t).Admits rest

instance decidableAdmits (t : Tree) : (edits : List Edit) → Decidable (t.Admits edits)
  | [] => inferInstanceAs (Decidable True)
  | e :: rest =>
    have := decidableAdmits (e.apply t) rest
    inferInstanceAs (Decidable (e.IsAdmissible t ∧ (e.apply t).Admits rest))

/-! ## The way up -/

/-- Different nodes of a tree are no more than the tree has. -/
theorem length_le_size {t : Tree} {nodes : List NodeId} (hnodup : nodes.Nodup)
    (hsize : ∀ a ∈ nodes, a < t.size) : nodes.length ≤ t.size := by
  have hsub : nodes ⊆ List.range t.size := fun a ha => List.mem_range.2 (hsize a ha)
  have hle := (List.subperm_of_subset hnodup hsub).length_le
  rwa [List.length_range] at hle

/-- The path leads from the node, parent by parent, up to a node without a parent. Nothing limits
its length. -/
inductive Climbs (t : Tree) : NodeId → List NodeId → Prop where
  | top {id : NodeId} (h : t.parent? id = none) : Climbs t id []
  | step {id parent : NodeId} {path : List NodeId} (h : t.parent? id = some parent)
      (hp : Climbs t parent path) : Climbs t id (parent :: path)

namespace Climbs

variable {t t' : Tree} {id a : NodeId} {path path' : List NodeId}

/-- There is one way up at most. -/
theorem unique (h : t.Climbs id path) (h' : t.Climbs id path') : path = path' := by
  induction h generalizing path' with
  | top hn =>
    cases h' with
    | top => rfl
    | step hs => exact absurd (hn.symm.trans hs) (by simp)
  | step hs _ ih =>
    cases h' with
    | top hn => exact absurd (hn.symm.trans hs) (by simp)
    | step hs' hp' =>
      obtain rfl := Option.some.inj (hs.symm.trans hs')
      rw [ih hp']

/-- The way up from an ancestor is a shorter one. -/
theorem exists_of_mem (h : t.Climbs id path) (ha : a ∈ path) :
    ∃ above, t.Climbs a above ∧ above.length < path.length := by
  induction h with
  | top => contradiction
  | step _ hp ih =>
    rcases List.mem_cons.1 ha with rfl | ha
    · exact ⟨_, hp, by simp⟩
    · obtain ⟨above, hc, hlt⟩ := ih ha
      exact ⟨above, hc, Nat.lt_succ_of_lt hlt⟩

/-- No way up comes back to where it started. -/
theorem not_mem (h : t.Climbs id path) : id ∉ path := by
  intro hmem
  obtain ⟨above, hc, hlt⟩ := h.exists_of_mem hmem
  rw [h.unique hc] at hlt
  exact Nat.lt_irrefl _ hlt

theorem nodup (h : t.Climbs id path) : path.Nodup := by
  induction h with
  | top => exact List.nodup_nil
  | step _ hp ih => exact List.nodup_cons.2 ⟨hp.not_mem, ih⟩

/-- A limit that the path keeps to does not show. -/
theorem ancestorsUpTo_eq (h : t.Climbs id path) {limit : Nat} (hl : path.length ≤ limit) :
    t.ancestorsUpTo limit id = path := by
  induction h generalizing limit with
  | top hn => cases limit <;> simp [ancestorsUpTo, hn]
  | step hs _ ih =>
    cases limit with
    | zero => exact absurd hl (by simp)
    | succ limit =>
      simp only [ancestorsUpTo, hs]
      rw [ih (Nat.le_of_succ_le_succ hl)]

/-- A way up depends on nothing but the parents of the nodes on it. -/
theorem of_parent?_eq (h : t.Climbs id path)
    (heq : ∀ a ∈ id :: path, t'.parent? a = t.parent? a) : t'.Climbs id path := by
  induction h with
  | top hn => exact .top ((heq _ List.mem_cons_self).trans hn)
  | step hs _ ih =>
    refine .step ((heq _ List.mem_cons_self).trans hs) (ih fun a ha => ?_)
    exact heq a (List.mem_cons_of_mem _ ha)

end Climbs

/-! ## Forests -/

/-- The three records of who is whose child agree, and every way up ends. -/
structure IsForest (t : Tree) : Prop where
  /-- What a node lists at a position knows the node as its parent and knows the position. -/
  listed : ∀ {p k c}, (t.children p)[k]? = some c →
    c < t.size ∧ t.parent? c = some p ∧ t.index c = k
  /-- What knows a node as its parent is listed there, at the position that it knows. -/
  placed : ∀ {p c}, t.parent? c = some p → (t.children p)[t.index c]? = some c
  /-- Every way up ends. -/
  grounded : ∀ id, ∃ path, t.Climbs id path

namespace IsForest

variable {t : Tree} {id p c : NodeId} {path : List NodeId}

theorem parent?_of_mem (h : t.IsForest) (hc : c ∈ t.children p) : t.parent? c = some p := by
  obtain ⟨k, hk⟩ := List.mem_iff_getElem?.1 hc
  exact (h.listed hk).2.1

theorem mem_of_parent? (h : t.IsForest) (hp : t.parent? c = some p) : c ∈ t.children p :=
  List.mem_iff_getElem?.2 ⟨_, h.placed hp⟩

/-- A child is listed once, and by one node. -/
theorem listed_once (h : t.IsForest) (hp : t.parent? c = some p) {q : NodeId} {k : Nat}
    (hk : (t.children q)[k]? = some c) : q = p ∧ k = t.index c := by
  obtain ⟨_, hq, hi⟩ := h.listed hk
  exact ⟨Option.some.inj (hq.symm.trans hp), hi.symm⟩

theorem not_mem_of_parent? (h : t.IsForest) (hn : t.parent? c = none) (q : NodeId) :
    c ∉ t.children q := by
  intro hc
  have hq := h.parent?_of_mem hc
  rw [hn] at hq
  contradiction

theorem lt_size_of_climbs (h : t.IsForest) (hc : t.Climbs id path) : ∀ a ∈ path, a < t.size := by
  induction hc with
  | top => simp
  | step hs _ ih =>
    intro a ha
    rcases List.mem_cons.1 ha with rfl | ha
    · exact lt_size_of_mem_children (h.mem_of_parent? hs)
    · exact ih a ha

/-- The way up from a node passes through other nodes only, each one once, and so it has fewer
steps than there are nodes. -/
theorem length_lt (h : t.IsForest) (hid : id < t.size) (hc : t.Climbs id path) :
    path.length < t.size := by
  -- the node and those on its way up are different numbers below the size
  have hnodup : (id :: path).Nodup := List.nodup_cons.2 ⟨hc.not_mem, hc.nodup⟩
  exact length_le_size hnodup (List.forall_mem_cons.2 ⟨hid, h.lt_size_of_climbs hc⟩)

/-- The computed ancestors are the way up. -/
theorem ancestors_eq (h : t.IsForest) (hc : t.Climbs id path) : t.ancestors id = path := by
  refine hc.ancestorsUpTo_eq ?_
  -- a number without a node has no way to go, whatever the size
  cases hc with
  | top => exact Nat.zero_le _
  | step hs hp => exact Nat.le_of_lt (h.length_lt (lt_size_of_parent? hs) (.step hs hp))

theorem climbs_ancestors (h : t.IsForest) (id : NodeId) : t.Climbs id (t.ancestors id) := by
  obtain ⟨path, hc⟩ := h.grounded id
  rw [h.ancestors_eq hc]
  exact hc

/-! ## What admissible edits keep -/

theorem empty : Tree.empty.IsForest := by
  have hparent : ∀ id, Tree.empty.parent? id = none := by
    rintro (_ | id) <;> rfl
  have hchildren : ∀ id, Tree.empty.children id = [] := by
    rintro (_ | id) <;> rfl
  refine ⟨fun {p k c} hk => ?_, fun {p c} hp => ?_, fun id => ⟨[], .top (hparent id)⟩⟩
  · simp [hchildren p] at hk
  · simp [hparent c] at hp

/-- A new node has no parent and nothing lists it, which changes no record. -/
theorem create (h : t.IsForest) (content : Content) : (t.create content).IsForest := by
  refine ⟨fun {p k c} hk => ?_, fun {p c} hp => ?_, fun id => ?_⟩
  · rw [children_create] at hk
    obtain ⟨hlt, hp, hi⟩ := h.listed hk
    refine ⟨?_, by rw [parent?_create, hp], by rw [index_create, hi]⟩
    rw [size_create]
    exact Nat.lt_succ_of_lt hlt
  · rw [parent?_create] at hp
    rw [children_create, index_create]
    exact h.placed hp
  · obtain ⟨path, hc⟩ := h.grounded id
    exact ⟨path, hc.of_parent?_eq fun a _ => parent?_create t content a⟩

/-- Attaching lists one child more and leaves what was listed where it was. -/
theorem getElem?_children_attach (hp : p < t.size) {q a : NodeId} {k : Nat} :
    ((t.attach p c).children q)[k]? = some a ↔
      (t.children q)[k]? = some a ∨ q = p ∧ k = (t.children p).length ∧ a = c := by
  rw [children_attach t c hp]
  by_cases hq : q = p
  · subst hq
    rw [if_pos rfl, List.getElem?_append]
    by_cases hk : k < (t.children q).length
    · rw [if_pos hk]
      simp [Nat.ne_of_lt hk]
    · rw [if_neg hk, List.getElem?_singleton, List.getElem?_eq_none (Nat.not_lt.1 hk)]
      by_cases hz : k - (t.children q).length = 0
      · have hk' : k = (t.children q).length := by omega
        simp [hk', eq_comm]
      · have hk' : k ≠ (t.children q).length := by omega
        simp [hz, hk']
  · simp [hq]

/-- A way up that does not pass through the child goes on as before. -/
theorem climbs_attach (hp : p < t.size) (hpath : t.Climbs id path) (hid : id ≠ c)
    (hc : c ∉ path) : (t.attach p c).Climbs id path := by
  refine hpath.of_parent?_eq fun a ha => t.parent?_attach_of_ne hp ?_
  rintro rfl
  exact (List.mem_cons.1 ha).elim (Ne.symm hid) hc

/-- After attaching, too, every way up ends: up to the child it is as before, and from the child
on it is the parent's, which does not pass through the child. -/
theorem exists_climbs_attach (h : t.IsForest) {above : List NodeId} (hp : p < t.size)
    (hc : c < t.size) (hn : t.parent? c = none) (hne : c ≠ p) (hup : t.Climbs p above)
    (habove : c ∉ above) (id : NodeId) : ∃ path, (t.attach p c).Climbs id path := by
  obtain ⟨path, hpath⟩ := h.grounded id
  -- by induction on the way up before: it ends at the child, or as it did, or takes one more step
  induction hpath with
  | @top id htop =>
    by_cases hid : id = c
    · subst hid
      have hclimbs := climbs_attach hp hup (Ne.symm hne) habove
      exact ⟨p :: above, .step (t.parent?_attach_self hp hc) hclimbs⟩
    · exact ⟨[], .top ((t.parent?_attach_of_ne hp hid).trans htop)⟩
  | @step id q _ hs _ ih =>
    obtain ⟨path, hpath⟩ := ih
    have hid : id ≠ c := by
      rintro rfl
      rw [hn] at hs
      contradiction
    exact ⟨q :: path, .step ((t.parent?_attach_of_ne hp hid).trans hs) hpath⟩

/-- Attaching a node without a parent joins its subtree to the parent's. -/
theorem attach (h : t.IsForest) {above : List NodeId} (hp : p < t.size) (hc : c < t.size)
    (hn : t.parent? c = none) (hne : c ≠ p) (hup : t.Climbs p above) (habove : c ∉ above) :
    (t.attach p c).IsForest := by
  refine ⟨fun {q k a} hk => ?_, fun {q a} hq => ?_,
    h.exists_climbs_attach hp hc hn hne hup habove⟩
  · rw [size_attach]
    rcases (getElem?_children_attach hp).1 hk with hk | ⟨rfl, rfl, rfl⟩
    · obtain ⟨hlt, hq, hi⟩ := h.listed hk
      -- what has been listed before has a parent, and so it is another node than the child
      have ha : a ≠ c := by
        rintro rfl
        rw [hn] at hq
        contradiction
      rw [t.parent?_attach_of_ne hp ha, t.index_attach_of_ne hp ha]
      exact ⟨hlt, hq, hi⟩
    · exact ⟨hc, t.parent?_attach_self hp hc, t.index_attach_self hp hc⟩
  · refine (getElem?_children_attach hp).2 ?_
    by_cases ha : a = c
    · subst ha
      rw [t.parent?_attach_self hp hc] at hq
      exact .inr ⟨(Option.some.inj hq).symm, t.index_attach_self hp hc, rfl⟩
    · rw [t.parent?_attach_of_ne hp ha] at hq
      rw [t.index_attach_of_ne hp ha]
      exact .inl (h.placed hq)

/-- A node that has just been created has no parent, and no way up passes through it. -/
theorem append (h : t.IsForest) (content : Content) (hp : p < t.size) :
    (t.append p content).IsForest := by
  have hparent : t.parent? t.size = none := by simp [parent?]
  have hclimbs := h.climbs_ancestors p
  have hup : (t.create content).Climbs p (t.ancestors p) :=
    hclimbs.of_parent?_eq fun a _ => parent?_create t content a
  refine (h.create content).attach ?_ ?_ ?_ (Nat.ne_of_gt hp) hup ?_
  · rw [size_create]
    exact Nat.lt_succ_of_lt hp
  · rw [size_create]
    exact Nat.lt_succ_self _
  · rw [parent?_create, hparent]
  · intro hmem
    exact Nat.lt_irrefl _ (h.lt_size_of_climbs hclimbs _ hmem)

/-- **One admissible edit turns a forest into a forest.** -/
theorem apply (h : t.IsForest) {e : Edit} (he : e.IsAdmissible t) : (e.apply t).IsForest := by
  cases e with
  | create content => exact h.create content
  | attach p c =>
    obtain ⟨hp, hc, hn, hne, hanc⟩ := he
    exact h.attach hp hc hn hne (h.climbs_ancestors p) hanc
  | appendElement p element => exact h.append _ he
  | appendText p text => exact h.append _ he
  | appendComment p text => exact h.append _ he

/-- **A run of admissible edits turns a forest into a forest.** -/
theorem perform (h : t.IsForest) {edits : List Edit} (hedits : t.Admits edits) :
    (t.perform edits).IsForest := by
  induction edits generalizing t with
  | nil => exact h
  | cons e rest ih => exact ih (h.apply hedits.1) hedits.2

end IsForest

/-- **After every run of admissible edits from the empty tree the records agree and there is no
cycle.** What a node lists knows the node as its parent and knows its position in the list; what
has a parent is listed there at its position and nowhere else, and what has none is listed
nowhere; and the way up from every node comes to a node without a parent in fewer steps than there
are nodes, passes no node twice, and does not come back to its start. -/
theorem perform_links_agree (edits : List Edit) (h : Tree.empty.Admits edits) :
    let t := Tree.empty.perform edits
    (∀ p k c, (t.children p)[k]? = some c → c < t.size ∧ t.parent? c = some p ∧ t.index c = k) ∧
    (∀ p c, t.parent? c = some p → (t.children p)[t.index c]? = some c ∧
      ∀ q k, (t.children q)[k]? = some c → q = p ∧ k = t.index c) ∧
    (∀ c, t.parent? c = none → ∀ q, c ∉ t.children q) ∧
    (∀ id, id < t.size → ∃ path, t.Climbs id path ∧ t.ancestors id = path ∧
      path.length < t.size ∧ path.Nodup ∧ id ∉ path) := by
  intro t
  have hf : t.IsForest := IsForest.empty.perform h
  refine ⟨fun p k c hk => hf.listed hk, fun p c hp => ⟨hf.placed hp, fun q k hk => ?_⟩,
    fun c hn => hf.not_mem_of_parent? hn, fun id hid => ?_⟩
  · exact hf.listed_once hp hk
  · have hc := hf.climbs_ancestors id
    exact ⟨_, hc, rfl, hf.length_lt hid hc, hc.nodup, hc.not_mem⟩

/-- A subtree is built first and joined to the document afterwards. -/
theorem perform_links_agree_joined :
    let edits : List Edit :=
      [.create (.element ⟨.ofName "ul", []⟩), .create (.element ⟨.ofName "li", []⟩), .attach 1 2,
        .appendText 2 "one", .attach 0 1, .appendComment 1 "two"]
    Tree.empty.Admits edits ∧ (Tree.empty.perform edits).Climbs 3 [2, 1, 0] := by
  intro edits
  have h : Tree.empty.Admits edits := by decide
  have hup : (Tree.empty.perform edits).ancestors 3 = [2, 1, 0] := by decide
  obtain ⟨_, _, _, hclimbs⟩ := perform_links_agree edits h
  obtain ⟨path, hc, hpath, _⟩ := hclimbs 3 (by decide)
  rw [← hup, hpath]
  exact ⟨h, hc⟩

end Tree

end DocQuery
