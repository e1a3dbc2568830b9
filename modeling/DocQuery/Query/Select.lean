import DocQuery.Query.LevelOrder
import DocQuery.Selector.Matching
import DocQuery.Selector.Parser

/-!
# Queries

The nodes at and below a starting node that a selector accepts, level by level.

- `Tree.findAll`, `Tree.findFirst?`: all of them, or the first one.
- `Tree.selectAll`, `Tree.selectFirst`: the same for selector text. Text that is no selector is
  an error, and the tree is not visited.
-/

namespace DocQuery

namespace Tree

/-- The nodes at and below the start that the selector accepts, in level order. -/
def findAll (t : Tree) (start : NodeId) (s : Selector) : List NodeId :=
  (t.levelOrder start).filter (s.accepts t)

/-- The first node at or below the start that the selector accepts, in level order. -/
def findFirst? (t : Tree) (start : NodeId) (s : Selector) : Option NodeId :=
  t.firstInLevelOrder? (s.accepts t) start

/-- The nodes at and below the start that the selector text asks for. -/
def selectAll (t : Tree) (start : NodeId) (text : String) :
    Except (ParseError Nat) (List NodeId) :=
  (Selector.parse text).map (t.findAll start)

/-- The first node at or below the start that the selector text asks for. -/
def selectFirst (t : Tree) (start : NodeId) (text : String) :
    Except (ParseError Nat) (Option NodeId) :=
  (Selector.parse text).map (t.findFirst? start)

end Tree

end DocQuery
