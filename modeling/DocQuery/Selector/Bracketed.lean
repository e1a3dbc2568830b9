import DocQuery.Selector.Basic
import DocQuery.Selector.Identifier

/-!
# Attribute tests in brackets

An attribute test is written `[name]`, or `[name=value]` with one of five operators, where the
value is an identifier or a quoted text. Spacing may stand between all its parts. A quoted text is
taken as it stands; it ends at its quotation mark and may hold neither a backslash nor a line
break.

- `readQuoted`: a quoted text, from behind its opening mark.
- `readOperator`: an operator; `=` alone is enough for it, all others have two characters.
- `readTest`: an attribute test, from behind its opening bracket.
-/

namespace DocQuery

/-- Line feed, carriage return, the two vertical moves, and the three line ends beyond ASCII. -/
def isLineBreak (c : Char) : Bool :=
  c ∈ ['\n', '\r', '\x0b', '\x0c', '\u0085', '\u2028', '\u2029']

/-- Whether a text quoted by the mark may hold the character. -/
def isQuotable (mark c : Char) : Bool := !(c == mark || c == '\\' || isLineBreak c)

/-- A quoted text, from behind its opening mark. -/
def readQuoted (mark : Char) (cs : List Char) : Except Stop (List Char × List Char) :=
  match cs.dropWhile (isQuotable mark) with
  | [] => .error (.malformed [] .unterminatedString)
  | c :: rest =>
    if c = mark then .ok (cs.takeWhile (isQuotable mark), rest)
    else if c = '\\' then .error (.escape (c :: rest))
    else .error (.malformed (c :: rest) .lineBreakInString)

/-- The value of an attribute test: a quoted text or an identifier. -/
def readValue (cs : List Char) : Except Stop (List Char × List Char) :=
  match cs with
  | [] => .error (.malformed [] .unexpectedEnd)
  | '"' :: rest => readQuoted '"' rest
  | '\'' :: rest => readQuoted '\'' rest
  | _ => readIdentifier cs

/-- The operator of an attribute test. Two characters are looked at, also for `=`, which is one
character long. -/
def readOperator (cs : List Char) : Except Stop (Comparison × List Char) :=
  match cs with
  | '=' :: c :: rest => .ok (.equals, c :: rest)
  | '~' :: '=' :: rest => .ok (.listed, rest)
  | '^' :: '=' :: rest => .ok (.startsWith, rest)
  | '$' :: '=' :: rest => .ok (.endsWith, rest)
  | '*' :: '=' :: rest => .ok (.contains, rest)
  | c :: d :: _ => .error (.malformed cs (.unknownOperator (String.ofList [c, d])))
  | _ => .error (.malformed cs .unexpectedEnd)

/-- The closing bracket of an attribute test. -/
def closeBracket (cs : List Char) : Except Stop (List Char) :=
  match cs with
  | ']' :: rest => .ok rest
  | _ => .error (.malformed cs .missingClosingBracket)

/-- What follows the name of an attribute test. -/
def readTestOf (name : String) (cs : List Char) : Except Stop (AttributeTest × List Char) :=
  match cs with
  | [] => .error (.malformed [] .unexpectedEnd)
  | ']' :: rest => .ok (⟨.present, name, ""⟩, rest)
  | _ => do
    let (comparison, rest) ← readOperator cs
    let (value, rest) ← readValue (skipBlank rest)
    let rest ← closeBracket (skipBlank rest)
    return (⟨comparison, name, String.ofList value⟩, rest)

/-- An attribute test, from behind its opening bracket. -/
def readTest (cs : List Char) : Except Stop (AttributeTest × List Char) := do
  let (name, rest) ← readIdentifier (skipBlank cs)
  readTestOf (String.ofList name) (skipBlank rest)

/-! ## Reading an attribute test moves on -/

theorem readQuoted_suffix {mark : Char} {cs value rest : List Char}
    (h : readQuoted mark cs = .ok (value, rest)) : rest <:+ cs := by
  unfold readQuoted at h
  split at h
  · contradiction
  · rename_i c r hr
    split at h
    · simp only [Except.ok.injEq, Prod.mk.injEq] at h
      have hs : c :: r <:+ cs := hr ▸ List.dropWhile_suffix _
      exact h.2 ▸ (List.suffix_cons c r).trans hs
    · split at h <;> contradiction

theorem readValue_suffix {cs value rest : List Char}
    (h : readValue cs = .ok (value, rest)) : rest <:+ cs := by
  unfold readValue at h
  split at h
  · contradiction
  · exact (readQuoted_suffix h).trans (List.suffix_cons _ _)
  · exact (readQuoted_suffix h).trans (List.suffix_cons _ _)
  · exact (advances_readIdentifier h).suffix

theorem readOperator_suffix {cs rest : List Char} {comparison : Comparison}
    (h : readOperator cs = .ok (comparison, rest)) : rest <:+ cs := by
  unfold readOperator at h
  split at h <;> simp only [Except.ok.injEq, Prod.mk.injEq, reduceCtorEq] at h
  · exact h.2 ▸ List.suffix_cons _ _
  all_goals exact h.2 ▸ (List.suffix_cons _ _).trans (List.suffix_cons _ _)

theorem closeBracket_suffix {cs rest : List Char} (h : closeBracket cs = .ok rest) :
    rest <:+ cs := by
  unfold closeBracket at h
  split at h
  · simp only [Except.ok.injEq] at h
    exact h ▸ List.suffix_cons _ _
  · contradiction

theorem readTestOf_suffix {name : String} {cs rest : List Char} {test : AttributeTest}
    (h : readTestOf name cs = .ok (test, rest)) : rest <:+ cs := by
  unfold readTestOf at h
  split at h
  · contradiction
  · simp only [Except.ok.injEq, Prod.mk.injEq] at h
    exact h.2 ▸ List.suffix_cons _ _
  · obtain ⟨⟨comparison, r₁⟩, ho, h⟩ := exists_of_bind_eq_ok h
    obtain ⟨⟨value, r₂⟩, hv, h⟩ := exists_of_bind_eq_ok h
    obtain ⟨r₃, hc, h⟩ := exists_of_bind_eq_ok h
    obtain ⟨-, rfl⟩ := Prod.mk.inj (Except.ok.inj h)
    have h₁ := readOperator_suffix ho
    have h₂ := (readValue_suffix hv).trans (skipBlank_suffix r₁)
    have h₃ := (closeBracket_suffix hc).trans (skipBlank_suffix r₂)
    exact (h₃.trans h₂).trans h₁

theorem advances_readTest {cs rest : List Char} {test : AttributeTest}
    (h : readTest cs = .ok (test, rest)) : Advances cs rest := by
  obtain ⟨⟨name, after⟩, hn, h⟩ := exists_of_bind_eq_ok h
  have hread := Advances.suffix_trans (skipBlank_suffix cs) (advances_readIdentifier hn)
  exact hread.trans_suffix ((readTestOf_suffix h).trans (skipBlank_suffix after))

end DocQuery
