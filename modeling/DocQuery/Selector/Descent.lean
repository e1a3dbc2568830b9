import DocQuery.Selector.Cursor

/-!
# Reading by descent

A selector is read with a cursor by readings that call one another as the parts of a selector lie
in one another: a list reads members, a member compounds, a compound parts, and a negation among
these parts reads a list. Each of the first three is a loop. Nothing in the text bounds how long
the loops go on or how deep the negations are, so that a limit is set from outside, behind which a
reading is broken off: the turns of each loop within a list, and the lists within each other.

- `Scan.readName`, `Scan.readIdentifier`, `Scan.readQuoted`, `Scan.readTest`: words and tests.
- `Scan.negation`, `Scan.parts`, `Scan.compounds`, `Scan.members`: negations, compounds, members
  and lists.
- `Selector.scan`: a selector from text.
-/

namespace DocQuery

namespace Scan

/-! ## Words -/

/-- A name. -/
def readName : Scan (List Char) := do
  let name ← takeWhile isNameChar
  if (← peek) = some '\\' then refuseEscape
  else if name = [] then refuse .emptyName
  else return name

/-- A name that starts with a letter or an underscore. -/
def readPlainIdentifier : Scan (List Char) := do
  match ← peek with
  | none => refuse .unexpectedEnd
  | some c =>
    if isNameStart c || c == '\\' then readName else refuse (.unexpectedCharacter c)

/-- An identifier. -/
def readIdentifier : Scan (List Char) := do
  let hyphen ← eat '-'
  let name ← readPlainIdentifier
  return if hyphen then '-' :: name else name

/-- A quoted text, with its marks. -/
def readQuoted (mark : Char) : Scan (List Char) := do
  advance
  let value ← takeWhile (isQuotable mark)
  match ← peek with
  | none => refuse .unterminatedString
  | some c =>
    if c = mark then
      advance
      return value
    else if c = '\\' then refuseEscape
    else refuse .lineBreakInString

/-! ## Attribute tests -/

/-- The operator of two characters. -/
def operatorOf? : Char → Char → Option Comparison
  | '~', '=' => some .listed
  | '^', '=' => some .startsWith
  | '$', '=' => some .endsWith
  | '*', '=' => some .contains
  | _, _ => none

/-- The operator of an attribute test. -/
def readOperator : Scan Comparison := do
  match ← peek, ← peekAt 1 with
  | some first, some second =>
    if first = '=' then
      advance
      return .equals
    else
      match operatorOf? first second with
      | some comparison =>
        advance
        advance
        return comparison
      | none => refuse (.unknownOperator (String.ofList [first, second]))
  | _, _ => refuse .unexpectedEnd

/-- The value of an attribute test. -/
def readValue : Scan (List Char) := do
  match ← peek with
  | none => refuse .unexpectedEnd
  | some c => if c = '"' ∨ c = '\'' then readQuoted c else readIdentifier

/-- What follows the name of an attribute test. -/
def readTestOf (name : String) : Scan AttributeTest := do
  if ← isAtEnd then refuse .unexpectedEnd
  else if ← eat ']' then return ⟨.present, name, ""⟩
  else
    let comparison ← readOperator
    let _ ← skipBlank
    let value ← readValue
    let _ ← skipBlank
    if ← eat ']' then return ⟨comparison, name, String.ofList value⟩
    else refuse .missingClosingBracket

/-- An attribute test, with its brackets. -/
def readTest : Scan AttributeTest := do
  advance
  let _ ← skipBlank
  let name ← readIdentifier
  let _ ← skipBlank
  readTestOf (String.ofList name)

/-! ## Combinators -/

/-- The combinator in front of the next compound, at the character `c`; `spaced` tells whether
spacing has been read before it. -/
def readSign (spaced : Bool) (c : Char) : Scan Combinator := do
  match Combinator.ofChar? c with
  | some combinator =>
    advance
    let _ ← skipBlank
    return combinator
  | none => if spaced then return .descendant else refuse (.unexpectedCharacter c)

/-- The combinator in front of the next compound, if one follows. -/
def readCombinator (spaced : Bool) : Scan (Option Combinator) := do
  match ← peek with
  | none => return none
  | some c => if c = ',' ∨ c = ')' then return none else return some (← readSign spaced c)

/-! ## Lists, members and compounds -/

/-- A name behind the mark of an id. -/
def readId : Scan Selector := do
  advance
  let name ← readName
  return .test ⟨.equals, "id", String.ofList name⟩

/-- An identifier behind the mark of a class. -/
def readClass : Scan Selector := do
  advance
  let name ← readIdentifier
  return .test ⟨.listed, "class", String.ofList name⟩

/-- An attribute test as a part. -/
def readAttribute : Scan Selector := return .test (← readTest)

/-- The closing parenthesis of a negation. -/
def closeNegation (inner : Selector) : Scan Selector := do
  let _ ← skipBlank
  if ← eat ')' then return .not inner else refuse .missingClosingParenthesis

section

-- the reading of a list, which a negation goes back to
variable (list : Scan Selector)

/-- A negation, from behind its name. -/
def negation (colon : Nat) : Scan Selector := do
  if ← eat '(' then
    let _ ← skipBlank
    turn .negation colon
    let inner ← list
    closeNegation inner
  else refuse .missingOpeningParenthesis

/-- A pseudo-class, with its colon. -/
def pseudoClass : Scan Selector := do
  let colon ← position
  advance
  let start ← position
  let name := String.ofList (Text.lowerCase (← readIdentifier))
  if name = "not" then negation list colon
  else if name ∈ unsupportedPseudoClasses then throw (.refused (.unsupported name))
  else throw (.refused (.malformed start (.unknownPseudoClass name)))

/-- One part, if there is one. -/
def readPart : Scan (Option Selector) := do
  match ← peek with
  | some '#' => return some (← readId)
  | some '.' => return some (← readClass)
  | some '[' => return some (← readAttribute)
  | some ':' => return some (← pseudoClass list)
  | _ => return none

/-- The parts that follow. -/
def partTurns : Nat → Option Selector → Scan Selector
  | 0, _ => breakOff
  | limit + 1, found => do
    let start ← position
    match ← readPart list with
    | none => return found.getD .universal
    | some part =>
      turn .parts start
      partTurns limit (some (joinPart found part))

/-- A compound: a star or a tag name, and parts behind it. -/
def parts (limit : Nat) : Scan Selector := do
  match ← peek with
  | none => return .universal
  | some c =>
    if c = '*' then
      advance
      partTurns list limit none
    else if c ∈ ['#', '.', '[', ':'] then partTurns list limit none
    else
      let name ← readIdentifier
      partTurns list limit (some (.tag (.ofName (String.ofList name))))

/-- The compounds that follow, each behind a combinator. -/
def compoundTurns : Nat → Selector → Scan Selector
  | 0, _ => breakOff
  | limit + 1, s => do
    let start ← position
    let spaced ← skipBlank
    match ← readCombinator spaced with
    | none => return s
    | some combinator =>
      let next ← parts list limit
      turn .compounds start
      compoundTurns limit (.combine combinator s next)

/-- A member: compounds with combinators between them. -/
def compounds (limit : Nat) : Scan Selector := do
  let _ ← skipBlank
  compoundTurns list limit (← parts list limit)

/-- The members that follow, each behind a comma. -/
def memberTurns : Nat → Selector → Scan Selector
  | 0, _ => breakOff
  | limit + 1, s => do
    let start ← position
    if ← eat ',' then
      let next ← compounds list limit
      turn .members start
      memberTurns limit (.union s next)
    else return s

end

/-- A list: members with commas between them. The lists of its negations are read within a lower
limit. -/
def members : Nat → Scan Selector
  | 0 => breakOff
  | limit + 1 => do
    memberTurns (members limit) (limit + 1) (← compounds (members limit) (limit + 1))

/-! ## Whole texts -/

/-- A list, and nothing behind it. -/
def whole (limit : Nat) : Scan Selector := do
  let s ← members limit
  match ← peek with
  | none => return s
  | some c => refuse (.trailing c)

end Scan

/-- A selector from text, with a cursor that starts in front of it, and the cursor at the end. -/
def Selector.scan (limit : Nat) (text : String) : Option (Except Halt Selector × Cursor) :=
  Scan.whole limit |>.run text.toList |>.run |>.run {}

end DocQuery
