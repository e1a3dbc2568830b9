import DocQuery.Selector.Error
import DocQuery.Selector.Spacing
import DocQuery.Text.Alphabetic
import DocQuery.Text.Numeric

/-!
# Names in selector text

A name is an unbroken run of letters, numerals, underscores and hyphens. An identifier is a name
that starts with a letter or an underscore, perhaps after one hyphen. Backslash escapes are
recognized and refused.

- `isNameStart`, `isNameChar`: the characters of names.
- `readName`, `readIdentifier`: a name or an identifier read from the front of a text, and what is
  left of the text.
- `IsIdentifier`: the identifiers.
-/

namespace DocQuery

/-- Where reading stops, the place is what is left of the text. -/
abbrev Stop := ParseError (List Char)

/-- A letter or an underscore. -/
def isNameStart (c : Char) : Bool := Text.isAlphabetic c || c == '_'

/-- A letter, a numeral, an underscore or a hyphen. -/
def isNameChar (c : Char) : Bool := isNameStart c || Text.isNumeric c || c == '-'

/-- A letter or an underscore, perhaps after one hyphen, and then any characters of names. -/
def IsIdentifier : List Char → Prop
  | '-' :: c :: rest => isNameStart c = true ∧ ∀ d ∈ rest, isNameChar d = true
  | c :: rest => isNameStart c = true ∧ ∀ d ∈ rest, isNameChar d = true
  | [] => False

/-- A name: the longest run of its characters. A backslash after them is an escape sequence. -/
def readName (cs : List Char) : Except Stop (List Char × List Char) :=
  let name := cs.takeWhile isNameChar
  let rest := cs.dropWhile isNameChar
  if rest.head? = some '\\' then .error (.escape rest)
  else if name = [] then .error (.malformed rest .emptyName)
  else .ok (name, rest)

/-- A name that starts with a letter or an underscore. -/
def readPlainIdentifier (cs : List Char) : Except Stop (List Char × List Char) :=
  match cs with
  | [] => .error (.malformed [] .unexpectedEnd)
  | c :: _ =>
    if isNameStart c || c == '\\' then readName cs
    else .error (.malformed cs (.unexpectedCharacter c))

/-- An identifier: a name that starts with a letter or an underscore, perhaps after one hyphen. -/
def readIdentifier (cs : List Char) : Except Stop (List Char × List Char) :=
  match cs with
  | '-' :: after => (readPlainIdentifier after).map fun (name, rest) => ('-' :: name, rest)
  | _ => readPlainIdentifier cs

/-! ## Reading in steps -/

/-- A reading in two steps that succeeds has succeeded in both. -/
theorem exists_of_bind_eq_ok {ε α β : Type} {r : Except ε α} {f : α → Except ε β} {b : β}
    (h : (r >>= f) = .ok b) : ∃ a, r = .ok a ∧ f a = .ok b := by
  cases r with
  | error e => contradiction
  | ok a => exact ⟨a, rfl, h⟩

/-- Once the first step has succeeded, the second one goes on from there. -/
theorem ok_bind {ε α β : Type} (a : α) (f : α → Except ε β) : (Except.ok a >>= f) = f a := rfl

theorem exists_of_map_eq_ok {ε α β : Type} {r : Except ε α} {f : α → β} {b : β}
    (h : r.map f = .ok b) : ∃ a, r = .ok a ∧ f a = b := by
  cases r with
  | error e => contradiction
  | ok a => exact ⟨a, rfl, Except.ok.inj h⟩

/-! ## Reading a name moves on -/

theorem readName_eq_ok {cs name rest : List Char} (h : readName cs = .ok (name, rest)) :
    name = cs.takeWhile isNameChar ∧ rest = cs.dropWhile isNameChar ∧ name ≠ [] := by
  simp only [readName] at h
  split at h
  · contradiction
  · split at h
    · contradiction
    · rename_i hne
      simp only [Except.ok.injEq, Prod.mk.injEq] at h
      exact ⟨h.1.symm, h.2.symm, h.1 ▸ hne⟩

theorem readName_eq_append {cs name rest : List Char} (h : readName cs = .ok (name, rest)) :
    cs = name ++ rest := by
  obtain ⟨rfl, rfl, -⟩ := readName_eq_ok h
  exact List.takeWhile_append_dropWhile.symm

theorem advances_readName {cs name rest : List Char} (h : readName cs = .ok (name, rest)) :
    Advances cs rest := by
  have hne := (readName_eq_ok h).2.2
  rw [readName_eq_append h]
  cases name with
  | nil => exact absurd rfl hne
  | cons c name => exact .of_cons c (List.suffix_append name rest)

theorem readName_of_readPlainIdentifier {cs name rest : List Char}
    (h : readPlainIdentifier cs = .ok (name, rest)) : readName cs = .ok (name, rest) := by
  unfold readPlainIdentifier at h
  split at h
  · contradiction
  · split at h
    · exact h
    · contradiction

theorem advances_readIdentifier {cs name rest : List Char}
    (h : readIdentifier cs = .ok (name, rest)) : Advances cs rest := by
  unfold readIdentifier at h
  split at h
  · obtain ⟨⟨plain, after⟩, hp, he⟩ := exists_of_map_eq_ok h
    obtain ⟨-, rfl⟩ := Prod.mk.inj he
    exact .of_cons _ (advances_readName (readName_of_readPlainIdentifier hp)).suffix
  · exact advances_readName (readName_of_readPlainIdentifier h)

end DocQuery
