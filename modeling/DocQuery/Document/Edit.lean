import DocQuery.Document.Tree

/-!
# Edits of a document tree

- `Edit`: the ways to change a tree.
- `Edit.apply`: the changed tree. An edit that meets a missing node keeps what it did before.
- `Edit.result`: the number of the node that the edit made, if it makes one, or the number that
  has no node.
- `Tree.perform`: a list of edits, one after the other.
-/

namespace DocQuery

/-- A change to a tree. -/
inductive Edit where
  /-- Make a node without a parent. -/
  | create (content : Content)
  /-- Add a node to the end of another's children. -/
  | attach (parent child : NodeId)
  /-- Make an element and attach it. -/
  | appendElement (parent : NodeId) (element : Element)
  /-- Make a node of running text and attach it. -/
  | appendText (parent : NodeId) (text : String)
  /-- Make a comment and attach it. -/
  | appendComment (parent : NodeId) (text : String)
  deriving DecidableEq

/-- A number without a node where an edit needs one. -/
structure MissingNode where
  id : NodeId
  deriving DecidableEq

namespace Tree

/-- The tree with a new node, attached to the parent. If the parent is missing, the new node stays
without one. -/
def append (t : Tree) (parent : NodeId) (content : Content) : Tree :=
  (t.create content).attach parent t.size

/-- What attaching lacks: the parent is looked up first, then the child. -/
def lacksFor (t : Tree) (parent child : NodeId) : Option MissingNode :=
  if t.size ≤ parent then some ⟨parent⟩
  else if t.size ≤ child then some ⟨child⟩
  else none

@[simp] theorem size_append (t : Tree) (parent : NodeId) (content : Content) :
    (t.append parent content).size = t.size + 1 := by
  simp [append]

end Tree

namespace Edit

/-- The tree after the edit. -/
def apply (t : Tree) : Edit → Tree
  | create content => t.create content
  | attach parent child => t.attach parent child
  | appendElement parent element => t.append parent (.element element)
  | appendText parent text => t.append parent (.ofText text)
  | appendComment parent text => t.append parent (.comment text)

/-- The number of the node that appending makes, unless the parent is missing once the new node
is there. -/
def appended (t : Tree) (parent : NodeId) : Except MissingNode (Option NodeId) :=
  if t.size < parent then .error ⟨parent⟩ else .ok (some t.size)

/-- What the edit answers: the number of a new node, nothing, or the node that it misses. -/
def result (t : Tree) : Edit → Except MissingNode (Option NodeId)
  | create _ => .ok (some t.size)
  | attach parent child =>
    match t.lacksFor parent child with
    | some missing => .error missing
    | none => .ok none
  | appendElement parent _ => appended t parent
  | appendText parent _ => appended t parent
  | appendComment parent _ => appended t parent

/-- No edit takes a node away. -/
theorem size_le_size_apply (t : Tree) (e : Edit) : t.size ≤ (e.apply t).size := by
  cases e <;> simp [apply]

end Edit

/-- The tree after the edits, in their order. -/
def Tree.perform (t : Tree) (edits : List Edit) : Tree := edits.foldl Edit.apply t

end DocQuery
