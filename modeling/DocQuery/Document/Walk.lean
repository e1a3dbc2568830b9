import DocQuery.Document.Tree

/-!
# Walks over a document tree

- `Tree.ancestors`: from the parent up to the node that has none.
- `Tree.precedingSiblings`: from the nearest sibling back to the first.
- `Tree.textContent`: the text below a node in document order.

Attaching does not rule out that a node is made its own ancestor. A walk along distinct nodes is
never longer than the tree has nodes, so each walk here ends after that many steps; in a tree
without cycles this limit is never met.
-/

namespace DocQuery

namespace Tree

/-- At most the given number of ancestors, nearest first. -/
def ancestorsUpTo (t : Tree) : Nat → NodeId → List NodeId
  | 0, _ => []
  | limit + 1, id =>
    match t.parent? id with
    | some parent => parent :: ancestorsUpTo t limit parent
    | none => []

/-- The ancestors of the node, from its parent up. -/
def ancestors (t : Tree) (id : NodeId) : List NodeId := t.ancestorsUpTo t.size id

/-- Whether the first node lies below the second. -/
def isDescendantOf (t : Tree) (descendant ancestor : NodeId) : Bool :=
  (t.ancestors descendant).contains ancestor

/-- The siblings before the node, nearest first: the children of its parent that stand before
its position, backwards. -/
def precedingSiblings (t : Tree) (id : NodeId) : List NodeId :=
  match t.parent? id with
  | some parent => ((t.children parent).take (t.index id)).reverse
  | none => []

/-- The text of the node and of what lies below it, down to the given depth. A text node ends the
walk with its own text. -/
def textUpTo (t : Tree) : Nat → NodeId → List Char
  | 0, _ => []
  | depth + 1, id =>
    match t.text? id with
    | some s => s.toList
    | none => (t.children id).flatMap (textUpTo t depth)

/-- The text of all text nodes at or below the node, in document order. White space, comments and
character data add nothing of their own. -/
def textContent (t : Tree) (id : NodeId) : String := String.ofList (t.textUpTo t.size id)

end Tree

end DocQuery
