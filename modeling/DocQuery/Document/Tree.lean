import DocQuery.Document.Node

/-!
# Document trees

A tree keeps its nodes in a table; parents and children are numbers in that table.

- `Tree`: the table of nodes. `Tree.empty` holds the document alone.
- `Tree.node?`, `Tree.parent?`, `Tree.children`, `Tree.index`, `Tree.content?`, `Tree.element?`,
  `Tree.text?`: what the tree says of a number. A number without a node has no parent, no children,
  no content, and index 0.
- `Tree.create`: a new node without a parent.
- `Tree.attach`: a node added at the end of another's children.
-/

namespace DocQuery

/-- A table of nodes, looked up by number. -/
structure Tree where
  nodes : Array Node

namespace Tree

/-- The tree that holds nothing but the document. -/
def empty : Tree := ⟨#[{ content := .document }]⟩

/-- The number of the document. -/
def root : NodeId := 0

/-! ## Reading -/

/-- The number of nodes, and the number that the next node will have. -/
def size (t : Tree) : Nat := t.nodes.size

/-- The node of this number. -/
def node? (t : Tree) (id : NodeId) : Option Node := t.nodes[id]?

/-- The parent that the node was attached to last. -/
def parent? (t : Tree) (id : NodeId) : Option NodeId := (t.node? id).bind (·.parent)

/-- The children of the node, in the order in which they were attached. -/
def children (t : Tree) (id : NodeId) : List NodeId :=
  match t.node? id with
  | some node => node.children
  | none => []

/-- The position that the node took among the children of its parent. -/
def index (t : Tree) (id : NodeId) : Nat :=
  match t.node? id with
  | some node => node.index
  | none => 0

/-- What the node is. -/
def content? (t : Tree) (id : NodeId) : Option Content := (t.node? id).map (·.content)

/-- The element that the node is, if it is one. -/
def element? (t : Tree) (id : NodeId) : Option Element := (t.node? id).bind (·.content.element?)

/-- Whether the node is an element. -/
def isElement (t : Tree) (id : NodeId) : Bool := (t.element? id).isSome

/-- The text of the node, if it is a text node with more than white space. -/
def text? (t : Tree) (id : NodeId) : Option String := (t.node? id).bind (·.content.text?)

/-- The first element among the children of the document. -/
def documentElement? (t : Tree) : Option NodeId := (t.children root).find? t.isElement

/-! ## Building -/

/-- The tree with one more node, which has no parent. Its number is the old size. -/
def create (t : Tree) (content : Content) : Tree := ⟨t.nodes.push { content }⟩

/-- The child added at the end of the parent's children.

The child's number enters the list first, then the child records its parent and its position.
A parent that is not in the tree leaves the tree as it is; a child that is not in the tree leaves
its number behind in the list. -/
def attach (t : Tree) (parent child : NodeId) : Tree :=
  let listed := t.nodes.modify parent fun node => { node with children := node.children ++ [child] }
  if parent < t.size then
    ⟨listed.modify child fun node =>
      { node with parent := some parent, index := (t.children parent).length }⟩
  else t

/-! ## What building does to each node -/

@[simp] theorem size_empty : empty.size = 1 := rfl

@[simp] theorem size_create (t : Tree) (content : Content) :
    (t.create content).size = t.size + 1 := by
  simp [size, create]

@[simp] theorem size_attach (t : Tree) (parent child : NodeId) :
    (t.attach parent child).size = t.size := by
  unfold attach
  split <;> simp [size]

/-- A number has a node exactly below the size. -/
theorem node?_isSome (t : Tree) (id : NodeId) : (t.node? id).isSome = decide (id < t.size) := by
  by_cases h : id < t.nodes.size <;> simp [node?, size, h]

theorem node?_eq_none {t : Tree} {id : NodeId} (h : t.size ≤ id) : t.node? id = none :=
  Array.getElem?_eq_none h

theorem node?_create (t : Tree) (content : Content) (id : NodeId) :
    (t.create content).node? id = if id = t.size then some { content } else t.node? id := by
  exact Array.getElem?_push

/-- Attaching changes the children of the parent and the link and position of the child. -/
theorem node?_attach (t : Tree) {parent : NodeId} (child : NodeId) (h : parent < t.size)
    (id : NodeId) :
    (t.attach parent child).node? id = (t.node? id).map fun node =>
      { node with
        children := if id = parent then node.children ++ [child] else node.children
        parent := if id = child then some parent else node.parent
        index := if id = child then (t.children parent).length else node.index } := by
  simp only [attach, h, if_true, node?, Array.getElem?_modify]
  by_cases hp : parent = id <;> by_cases hc : child = id <;>
    cases t.nodes[id]? <;> simp [hp, hc, eq_comm]

theorem attach_of_size_le (t : Tree) {parent : NodeId} (child : NodeId) (h : t.size ≤ parent) :
    t.attach parent child = t := by
  simp [attach, Nat.not_lt.2 h]

/-! ## What building does to links

A number without a node reads like a fresh node, so that creating one changes no link at all. -/

theorem lt_size_iff {t : Tree} {id : NodeId} : id < t.size ↔ (t.node? id).isSome = true := by
  rw [node?_isSome, decide_eq_true_iff]

@[simp] theorem node?_size (t : Tree) : t.node? t.size = none := by
  have h := t.node?_isSome t.size
  simpa using h

@[simp] theorem parent?_create (t : Tree) (content : Content) (id : NodeId) :
    (t.create content).parent? id = t.parent? id := by
  unfold parent?
  rw [node?_create]
  by_cases h : id = t.size
  · subst h
    simp
  · rw [if_neg h]

@[simp] theorem children_create (t : Tree) (content : Content) (id : NodeId) :
    (t.create content).children id = t.children id := by
  unfold children
  rw [node?_create]
  by_cases h : id = t.size
  · subst h
    simp
  · rw [if_neg h]

@[simp] theorem index_create (t : Tree) (content : Content) (id : NodeId) :
    (t.create content).index id = t.index id := by
  unfold index
  rw [node?_create]
  by_cases h : id = t.size
  · subst h
    simp
  · rw [if_neg h]

theorem parent?_attach (t : Tree) {parent : NodeId} (child : NodeId) (h : parent < t.size)
    (id : NodeId) :
    (t.attach parent child).parent? id =
      if id = child ∧ id < t.size then some parent else t.parent? id := by
  unfold parent?
  simp only [node?_attach t child h, lt_size_iff]
  cases t.node? id with
  | none => simp
  | some node => by_cases hc : id = child <;> simp [hc]

theorem children_attach (t : Tree) {parent : NodeId} (child : NodeId) (h : parent < t.size)
    (id : NodeId) :
    (t.attach parent child).children id =
      if id = parent then t.children id ++ [child] else t.children id := by
  rw [lt_size_iff] at h
  unfold children
  rw [node?_attach t child (lt_size_iff.2 h)]
  cases hn : t.node? id with
  | none =>
    have hp : id ≠ parent := by
      rintro rfl
      simp [hn] at h
    simp [hp]
  | some node => by_cases hp : id = parent <;> simp [hp]

theorem index_attach (t : Tree) {parent : NodeId} (child : NodeId) (h : parent < t.size)
    (id : NodeId) :
    (t.attach parent child).index id =
      if id = child ∧ id < t.size then (t.children parent).length else t.index id := by
  unfold index
  simp only [node?_attach t child h, lt_size_iff]
  cases t.node? id with
  | none => simp
  | some node => by_cases hc : id = child <;> simp [hc]

/-! Attaching changes the link and the position of the child alone. -/

theorem parent?_attach_self (t : Tree) {parent child : NodeId} (h : parent < t.size)
    (hc : child < t.size) : (t.attach parent child).parent? child = some parent := by
  rw [parent?_attach t child h, if_pos ⟨rfl, hc⟩]

theorem parent?_attach_of_ne (t : Tree) {parent child id : NodeId} (h : parent < t.size)
    (hne : id ≠ child) : (t.attach parent child).parent? id = t.parent? id := by
  rw [parent?_attach t child h, if_neg fun hi => hne hi.1]

theorem index_attach_self (t : Tree) {parent child : NodeId} (h : parent < t.size)
    (hc : child < t.size) :
    (t.attach parent child).index child = (t.children parent).length := by
  rw [index_attach t child h, if_pos ⟨rfl, hc⟩]

theorem index_attach_of_ne (t : Tree) {parent child id : NodeId} (h : parent < t.size)
    (hne : id ≠ child) : (t.attach parent child).index id = t.index id := by
  rw [index_attach t child h, if_neg fun hi => hne hi.1]

/-! What a node is stays, once it is made. -/

theorem element?_eq (t : Tree) (id : NodeId) :
    t.element? id = (t.content? id).bind (·.element?) := by
  unfold element? content?
  cases t.node? id <;> rfl

theorem text?_eq (t : Tree) (id : NodeId) : t.text? id = (t.content? id).bind (·.text?) := by
  unfold text? content?
  cases t.node? id <;> rfl

@[simp] theorem content?_size (t : Tree) : t.content? t.size = none := by
  simp [content?]

@[simp] theorem content?_create_size (t : Tree) (content : Content) :
    (t.create content).content? t.size = some content := by
  simp [content?, node?_create]

theorem content?_create (t : Tree) (content : Content) {id : NodeId} (h : id ≠ t.size) :
    (t.create content).content? id = t.content? id := by
  unfold content?
  rw [node?_create, if_neg h]

@[simp] theorem content?_attach (t : Tree) (parent child id : NodeId) :
    (t.attach parent child).content? id = t.content? id := by
  by_cases hp : parent < t.size
  · unfold content?
    rw [node?_attach t child hp]
    cases t.node? id <;> rfl
  · rw [attach_of_size_le t child (Nat.not_lt.1 hp)]

/-! Only a node of the tree has a parent or children, or is an element. -/

theorem lt_size_of_parent? {t : Tree} {id parent : NodeId} (h : t.parent? id = some parent) :
    id < t.size := by
  rw [lt_size_iff]
  cases hn : t.node? id with
  | none => simp [parent?, hn] at h
  | some node => rfl

theorem lt_size_of_mem_children {t : Tree} {id child : NodeId} (h : child ∈ t.children id) :
    id < t.size := by
  rw [lt_size_iff]
  cases hn : t.node? id with
  | none => simp [children, hn] at h
  | some node => rfl

theorem lt_size_of_isElement {t : Tree} {id : NodeId} (h : t.isElement id = true) :
    id < t.size := by
  rw [lt_size_iff]
  cases hn : t.node? id with
  | none => simp [isElement, element?, hn] at h
  | some node => rfl

end Tree

end DocQuery
