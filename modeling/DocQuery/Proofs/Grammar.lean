import DocQuery.Selector.Draft

/-!
# The grammar of selector text

What selector text stands for, as a relation that reads no text itself. Every relation here takes
a text and what is left of it, up to the very end of the input: two rules of the grammar depend on
where the whole input ends (an open comment, and the empty compound), and a text with its rest is
the least that says so.

- `Grammar.Comment`, `Grammar.Blank`: spacing.
- `Grammar.IsName`, `IsIdentifier`, `Grammar.Value`, `Grammar.Operator`: the words.
- `Grammar.Sign`, `Grammar.Joint`: what may stand between two compounds.
- `Grammar.Derives`: the five kinds of phrases and the selectors that they stand for. Nothing in
  it asks for the longest reading: names, spacing and compounds may stop anywhere, and it is the
  rules around them that leave one way to read a whole text.
-/

namespace DocQuery

namespace Grammar

/-! ## Spacing -/

/-- A comment runs from `/*` to the first `*/` after these two characters; if none follows, it
runs to the end of the input. -/
inductive Comment : List Char → List Char → Prop where
  | closed {body rest : List Char} (first : ¬ ['*', '/'] <:+: body ++ ['*']) :
      Comment ('/' :: '*' :: (body ++ '*' :: '/' :: rest)) rest
  | unclosed {body : List Char} (never : ¬ ['*', '/'] <:+: body) :
      Comment ('/' :: '*' :: body) []

/-- Any sequence of white-space characters and comments. -/
inductive Blank : List Char → List Char → Prop where
  | nil {rest : List Char} : Blank rest rest
  | space {c : Char} {cs rest : List Char} (hc : Text.isBlank c = true) (h : Blank cs rest) :
      Blank (c :: cs) rest
  | comment {cs mid rest : List Char} (hc : Comment cs mid) (h : Blank mid rest) : Blank cs rest

/-! ## Words -/

/-- One or more characters of names. -/
def IsName (name : List Char) : Prop := name ≠ [] ∧ ∀ c ∈ name, isNameChar c = true

/-- Whether a text quoted by `mark` may hold the value: neither the mark, nor a backslash, nor a
line terminator. -/
def IsQuotable (mark : Char) (value : List Char) : Prop :=
  ∀ c ∈ value, c ≠ mark ∧ c ≠ '\\' ∧ isLineBreak c = false

/-- The value of an attribute test: an identifier, or any text in quotation marks that may hold
it. -/
inductive Value : List Char → List Char → List Char → Prop where
  | bare {name rest : List Char} (h : IsIdentifier name) : Value (name ++ rest) name rest
  | quoted {mark : Char} {value rest : List Char} (hm : mark = '"' ∨ mark = '\'')
      (h : IsQuotable mark value) : Value (mark :: (value ++ mark :: rest)) value rest

/-- The operators of attribute tests. -/
inductive Operator : List Char → Comparison → Prop where
  | equals : Operator ['='] .equals
  | listed : Operator ['~', '='] .listed
  | startsWith : Operator ['^', '='] .startsWith
  | endsWith : Operator ['$', '='] .endsWith
  | contains : Operator ['*', '='] .contains

/-! ## Combinators -/

/-- The combinators that have a character of their own. -/
inductive Sign : Char → Combinator → Prop where
  | child : Sign '>' .child
  | adjacent : Sign '+' .adjacent
  | sibling : Sign '~' .sibling

/-- What stands between two compounds: a sign with any spacing around it, or spacing alone for the
descendant combinator. Spacing alone has to hold something, and a compound has to follow it; the
text after a sign may be empty. -/
inductive Joint : List Char → Combinator → List Char → Prop where
  | sign {cs mid right : List Char} {c : Char} {k : Combinator} (hl : Blank cs (c :: mid))
      (hs : Sign c k) (hr : Blank mid right) : Joint cs k right
  | blank {cs right : List Char} (h : Blank cs right) (hne : cs ≠ right) (hr : right ≠ []) :
      Joint cs .descendant right

/-! ## Phrases -/

/-- The kinds of phrases, from the tightest to the loosest. -/
inductive Phrase where
  /-- One condition behind the tag name: `#id`, `.class`, `[test]` or `:not(group)`. -/
  | qualifier
  /-- A tag name or a qualifier, and the qualifiers after it. -/
  | parts
  /-- What stands between two combinators. -/
  | compound
  /-- Compounds joined by combinators. -/
  | chain
  /-- Chains separated by commas. -/
  | group

/-- `Derives phrase cs s rest`: a phrase of this kind stands in front of `rest` in the text `cs`,
and the selector `s` is what it stands for. -/
inductive Derives : Phrase → List Char → Selector → List Char → Prop where
  | hasId {name rest : List Char} (h : IsName name) :
      Derives .qualifier ('#' :: (name ++ rest)) (.test ⟨.equals, "id", String.ofList name⟩) rest
  | hasClass {name rest : List Char} (h : IsIdentifier name) :
      Derives .qualifier ('.' :: (name ++ rest))
        (.test ⟨.listed, "class", String.ofList name⟩) rest
  | present {cs name mid rest : List Char} (hn : Blank cs (name ++ mid)) (h : IsIdentifier name)
      (hb : Blank mid (']' :: rest)) :
      Derives .qualifier ('[' :: cs) (.test ⟨.present, String.ofList name, ""⟩) rest
  | compare {cs name mid operator right value after rest : List Char} {comparison : Comparison}
      {valueText : List Char} (hn : Blank cs (name ++ mid)) (h : IsIdentifier name)
      (ho : Blank mid (operator ++ right)) (hc : Operator operator comparison)
      (hr : Blank right valueText) (hv : Value valueText value after)
      (hb : Blank after (']' :: rest)) :
      Derives .qualifier ('[' :: cs)
        (.test ⟨comparison, String.ofList name, String.ofList value⟩) rest
  | negation {name inner rest : List Char} {s : Selector} (h : IsIdentifier name)
      (hl : Text.lowerCase name = "not".toList) (hi : Derives .group inner s (')' :: rest)) :
      Derives .qualifier (':' :: (name ++ '(' :: inner)) (.not s) rest
  | tag {name rest : List Char} (h : IsIdentifier name) :
      Derives .parts (name ++ rest) (.tag (.ofName (String.ofList name))) rest
  | first {cs rest : List Char} {q : Selector} (h : Derives .qualifier cs q rest) :
      Derives .parts cs q rest
  | starred {cs rest : List Char} {q : Selector} (h : Derives .qualifier cs q rest) :
      Derives .parts ('*' :: cs) q rest
  | more {cs mid rest : List Char} {s q : Selector} (h : Derives .parts cs s mid)
      (hq : Derives .qualifier mid q rest) : Derives .parts cs (.intersection s q) rest
  | parts {cs rest : List Char} {s : Selector} (h : Derives .parts cs s rest) :
      Derives .compound cs s rest
  | star {rest : List Char} : Derives .compound ('*' :: rest) .universal rest
  /-- The empty compound stands at the end of the input and nowhere else. -/
  | nothing : Derives .compound [] .universal []
  | start {cs mid rest : List Char} {s : Selector} (hb : Blank cs mid)
      (h : Derives .compound mid s rest) : Derives .chain cs s rest
  | combine {cs mid right rest : List Char} {k : Combinator} {left s : Selector}
      (hl : Derives .chain cs left mid) (hj : Joint mid k right)
      (hr : Derives .compound right s rest) : Derives .chain cs (.combine k left s) rest
  | single {cs mid rest : List Char} {s : Selector} (h : Derives .chain cs s mid)
      (hb : Blank mid rest) : Derives .group cs s rest
  | union {cs mid after rest : List Char} {left s : Selector}
      (hl : Derives .group cs left (',' :: mid)) (hr : Derives .chain mid s after)
      (hb : Blank after rest) : Derives .group cs (.union left s) rest

end Grammar

end DocQuery
