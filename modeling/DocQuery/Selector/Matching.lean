import DocQuery.Document.Walk
import DocQuery.Selector.Basic

/-!
# What a selector accepts

- `AttributeTest.accepts`: the six comparisons of attribute values.
- `Selector.accepts`: whether a node of a tree satisfies a selector.

The node in question is the one on the right of every combinator; the left side is looked for
upwards, among the ancestors, or backwards, among the siblings before the node.
-/

namespace DocQuery

/-- Whether the second text holds the first as an unbroken part. -/
def occursIn (part : List Char) : List Char → Bool
  | [] => part.isEmpty
  | c :: rest => part.isPrefixOf (c :: rest) || occursIn part rest

/-- Whether an attribute value compares as it should with the expected one. The expected text of
`startsWith`, `endsWith` and `contains` has to hold something. -/
def Comparison.holds (comparison : Comparison) (actual expected : List Char) : Bool :=
  match comparison with
  | present => true
  | equals => actual == expected
  | listed => (Text.splitAtBlanks actual).any (· == expected)
  | startsWith => !expected.isEmpty && expected.isPrefixOf actual
  | endsWith => !expected.isEmpty && expected.isSuffixOf actual
  | contains => !expected.isEmpty && occursIn expected actual

/-- Whether the first attribute of the name has a value that passes. -/
def AttributeTest.accepts (a : AttributeTest) (e : Element) : Bool :=
  match e.attribute? a.name with
  | some actual => a.comparison.holds actual.toList a.value.toList
  | none => false

namespace Selector

/-- Whether the node satisfies the selector. -/
def accepts (t : Tree) : Selector → NodeId → Bool
  | universal, id => t.isElement id
  | tag g, id => (t.element? id).any (·.tag == g)
  | test a, id => (t.element? id).any a.accepts
  | not inner, id => t.isElement id && !inner.accepts t id
  | union left right, id => left.accepts t id || right.accepts t id
  | intersection left right, id => left.accepts t id && right.accepts t id
  | combine .child left right, id =>
    match t.parent? id with
    | some parent => left.accepts t parent && right.accepts t id
    | none => false
  | combine .descendant left right, id =>
    right.accepts t id && (t.ancestors id).any (left.accepts t)
  | combine .adjacent left right, id =>
    right.accepts t id && ((t.precedingSiblings id).find? t.isElement).any (left.accepts t)
  | combine .sibling left right, id =>
    right.accepts t id && ((t.precedingSiblings id).filter t.isElement).any (left.accepts t)

end Selector

end DocQuery
