import DocQuery.Selector.Basic

/-!
# Selector text

A selector is written without parentheses, so text stands for the selector alone that nests as
selector text does: combinators and commas to the left, and nothing looser inside something
tighter except within `:not(…)`.

- `Selector.render`: the characters of a selector.
- `Selector.text`: the same as a string.

Values of attributes are always quoted: with double quotation marks, or with single ones if the
value holds a double one.
-/

namespace DocQuery

/-- The combinator between its two sides. -/
def Combinator.render : Combinator → List Char
  | child => [' ', '>', ' ']
  | descendant => [' ']
  | adjacent => [' ', '+', ' ']
  | sibling => [' ', '~', ' ']

/-- The operator between the name and the value of an attribute. -/
def Comparison.render : Comparison → List Char
  | present => []
  | equals => ['=']
  | listed => ['~', '=']
  | startsWith => ['^', '=']
  | endsWith => ['$', '=']
  | contains => ['*', '=']

/-- The quotation mark for a value: single if the value holds a double one. -/
def AttributeTest.quoteMark (value : List Char) : Char :=
  if '"' ∈ value then '\'' else '"'

/-- The test in brackets. A test for presence shows no value. -/
def AttributeTest.render (a : AttributeTest) : List Char :=
  let mark := quoteMark a.value.toList
  match a.comparison with
  | .present => '[' :: a.name.toList ++ [']']
  | comparison =>
    '[' :: a.name.toList ++ comparison.render ++ mark :: a.value.toList ++ [mark, ']']

namespace Selector

/-- The characters of the selector. -/
def render : Selector → List Char
  | universal => ['*']
  | tag t => t.name.toList
  | test a => a.render
  | not inner => ":not(".toList ++ inner.render ++ [')']
  | union left right => left.render ++ [',', ' '] ++ right.render
  | intersection left right => left.render ++ right.render
  | combine combinator left right => left.render ++ combinator.render ++ right.render

/-- The selector as text. -/
def text (s : Selector) : String := String.ofList s.render

/-! ## How each selector is written -/

@[simp] theorem render_universal : universal.render = ['*'] := rfl

@[simp] theorem render_tag (t : Tag) : (tag t).render = t.name.toList := rfl

@[simp] theorem render_test (a : AttributeTest) : (test a).render = a.render := rfl

@[simp] theorem render_not (inner : Selector) :
    (not inner).render = ":not(".toList ++ inner.render ++ [')'] := rfl

@[simp] theorem render_union (left right : Selector) :
    (union left right).render = left.render ++ [',', ' '] ++ right.render := rfl

@[simp] theorem render_intersection (left right : Selector) :
    (intersection left right).render = left.render ++ right.render := rfl

@[simp] theorem render_combine (combinator : Combinator) (left right : Selector) :
    (combine combinator left right).render =
      left.render ++ combinator.render ++ right.render := rfl

end Selector

end DocQuery
