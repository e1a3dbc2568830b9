import DocQuery.Document.Tree

/-!
# Level order

A walk down from a node that keeps the nodes still to be visited in a queue. Elements put their
children at the end of the queue; every other node is a leaf of the walk, even the document.

- `Tree.below`: what a node adds to the queue.
- `Tree.walkLimit`: a number of visits that a walk over a tree without cycles never exceeds.
- `Tree.levelOrder`: all visits, in order.
- `Tree.firstInLevelOrder?`: the first visit that passes a test; the walk ends there.

A node that sits in several lists of children is visited once for each way that leads to it, and
a number without a node is visited like any other.
-/

namespace DocQuery

namespace Tree

/-- The nodes that a visit adds to the queue: the children of an element, and none otherwise. -/
def below (t : Tree) (id : NodeId) : List NodeId := if t.isElement id then t.children id else []

/-- The number of entries in all lists of children. -/
def childEntries (t : Tree) : Nat := t.nodes.foldr (fun node n => node.children.length + n) 0

/-- Without cycles, no way down is longer than the tree has nodes, and each step of it chooses one
of the entries in the lists of children. -/
def walkLimit (t : Tree) : Nat := (t.childEntries + 1).pow (t.size + 1)

/-- The visits that follow from a queue, at most as many as the limit says. -/
def visitsFrom (t : Tree) : Nat → List NodeId → List NodeId
  | 0, _ => []
  | _ + 1, [] => []
  | limit + 1, id :: queue => id :: visitsFrom t limit (queue ++ t.below id)

/-- The nodes at and below the given one, level by level. -/
def levelOrder (t : Tree) (start : NodeId) : List NodeId := t.visitsFrom t.walkLimit [start]

/-- The first visit from a queue that passes the test. -/
def firstFrom? (t : Tree) (test : NodeId → Bool) : Nat → List NodeId → Option NodeId
  | 0, _ => none
  | _ + 1, [] => none
  | limit + 1, id :: queue =>
    if test id then some id else firstFrom? t test limit (queue ++ t.below id)

/-- The first node at or below the given one, level by level, that passes the test. -/
def firstInLevelOrder? (t : Tree) (test : NodeId → Bool) (start : NodeId) : Option NodeId :=
  t.firstFrom? test t.walkLimit [start]

end Tree

end DocQuery
