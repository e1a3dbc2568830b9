import DocQuery.Text.Quoted

/-!
# Errors in selector text

Reading stops at the first error, and an error gives no selector.

- `Fault`: what is wrong with malformed text.
- `ParseError`: a fault, an escape sequence, or a pseudo-class known by name alone. The place of
  an error is what is left of the text while it is read, and a byte offset afterwards.
- `ParseError.message`: the error in words. What the text held is quoted, so that it cannot break
  the line.
-/

namespace DocQuery

/-- What is wrong with malformed selector text. -/
inductive Fault where
  /-- The text ends where more is needed. -/
  | unexpectedEnd
  /-- A character that cannot stand where it does. -/
  | unexpectedCharacter (c : Char)
  /-- A name without characters. -/
  | emptyName
  /-- Two characters that are no operator on attribute values. -/
  | unknownOperator (operator : String)
  /-- A quoted value that is not closed. -/
  | unterminatedString
  /-- A line break inside a quoted value. -/
  | lineBreakInString
  /-- An attribute test that is not closed. -/
  | missingClosingBracket
  /-- A negation without its opening parenthesis. -/
  | missingOpeningParenthesis
  /-- A negation that is not closed. -/
  | missingClosingParenthesis
  /-- A pseudo-class of no known name. -/
  | unknownPseudoClass (name : String)
  /-- Text after the end of the selector. -/
  | trailing (c : Char)
  deriving DecidableEq

/-- The fault in words. -/
def Fault.message : Fault → String
  | unexpectedEnd => "unexpected end of input"
  | unexpectedCharacter c => "unexpected character " ++ Text.Quoted.quotedChar c
  | emptyName => "expected an identifier"
  | unknownOperator operator => "unknown attribute operator " ++ Text.Quoted.quotedText operator
  | unterminatedString => "unterminated string"
  | lineBreakInString => "line break inside string"
  | missingClosingBracket => "expected ']'"
  | missingOpeningParenthesis => "expected '('"
  | missingClosingParenthesis => "expected ')'"
  | unknownPseudoClass name => "unknown pseudo-class ':" ++ name ++ "'"
  | trailing c => "unexpected " ++ Text.Quoted.quotedChar c ++ " after selector"

/-- Why selector text gives no selector, and at which place. -/
inductive ParseError (Place : Type) where
  /-- The text breaks the grammar. -/
  | malformed (place : Place) (fault : Fault)
  /-- A backslash in a name or a quoted value. -/
  | escape (place : Place)
  /-- A pseudo-class that is known and has no implementation, by its lower-case name. -/
  | unsupported (pseudoClass : String)
  deriving DecidableEq

namespace ParseError

/-- The error with its place written in another way. -/
def map {α β : Type} (f : α → β) : ParseError α → ParseError β
  | malformed place fault => malformed (f place) fault
  | escape place => escape (f place)
  | unsupported pseudoClass => unsupported pseudoClass

/-- The error in words, with the byte offset of its place. -/
def message : ParseError Nat → String
  | malformed offset fault =>
    "invalid selector at offset " ++ toString offset ++ ": " ++ fault.message
  | escape offset => "escape sequences are not supported (offset " ++ toString offset ++ ")"
  | unsupported pseudoClass => "pseudo-class ':" ++ pseudoClass ++ "' is not supported"

end ParseError

/-! ## Comparing outcomes -/

/-- Outcomes are the same if both are errors or both are results, and these are the same. -/
instance decidableEqExcept {ε α : Type} [DecidableEq ε] [DecidableEq α] :
    DecidableEq (Except ε α)
  | .error e, .error e' => decidable_of_iff (e = e') ⟨congrArg _, Except.error.inj⟩
  | .ok a, .ok a' => decidable_of_iff (a = a') ⟨congrArg _, Except.ok.inj⟩
  | .error _, .ok _ => .isFalse (by simp)
  | .ok _, .error _ => .isFalse (by simp)

end DocQuery
