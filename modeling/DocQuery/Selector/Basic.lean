import DocQuery.Document.Tag

/-!
# Selectors

A selector is a predicate on the nodes of a document tree, closed under the set operations and
under the combinators, which say how a node stands to another one.

- `Combinator`: the four relations between nodes.
- `Comparison`: the six ways to compare the value of an attribute.
- `AttributeTest`: a condition on the first attribute of a name.
- `Selector`: the predicates.
-/

namespace DocQuery

/-- How the node on the left of a combinator stands to the node on its right. -/
inductive Combinator where
  /-- `a > b`: the left node is the parent. -/
  | child
  /-- `a b`: the left node is an ancestor. -/
  | descendant
  /-- `a + b`: the left node is the nearest element before the right one among its siblings. -/
  | adjacent
  /-- `a ~ b`: the left node is an element before the right one among its siblings. -/
  | sibling
  deriving DecidableEq

/-- How the value of an attribute is compared with the expected value. -/
inductive Comparison where
  /-- `[name]`: any value will do. -/
  | present
  /-- `[name="value"]` -/
  | equals
  /-- `[name~="value"]`: one of the pieces between white-space characters. -/
  | listed
  /-- `[name^="value"]` -/
  | startsWith
  /-- `[name$="value"]` -/
  | endsWith
  /-- `[name*="value"]` -/
  | contains
  deriving DecidableEq

/-- A condition on the first attribute of a name. -/
structure AttributeTest where
  comparison : Comparison
  name : String
  /-- The expected value; selector text leaves it empty for `present`. -/
  value : String
  deriving DecidableEq

/-- A predicate on the nodes of a document tree. -/
inductive Selector where
  /-- Any element. -/
  | universal
  /-- The elements with this tag. -/
  | tag (tag : Tag)
  /-- The elements with an attribute that passes the test. -/
  | test (condition : AttributeTest)
  /-- The elements that the inner selector leaves out. -/
  | not (inner : Selector)
  /-- The nodes of either side. -/
  | union (left right : Selector)
  /-- The nodes of both sides. -/
  | intersection (left right : Selector)
  /-- The nodes of the right side that stand in the relation to a node of the left side. -/
  | combine (combinator : Combinator) (left right : Selector)
  deriving DecidableEq

end DocQuery
