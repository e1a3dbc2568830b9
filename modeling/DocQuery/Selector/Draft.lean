import DocQuery.Selector.Bracketed
import DocQuery.Text.LowerCase

/-!
# A selector under way

Selector text is read from left to right in one pass. A compound (`a#b.c[d]:not(e)`) grows part by
part; a combinator or a comma closes it and opens the next one; `:not(` sets aside what is under
way until its `)`.

- `Pending`: the finished members of a comma list, and what stands left of the compound that is
  being read.
- `Draft`: everything under way, with the negations that are still open.
- `Draft.step`: one part of a compound, or the end of a compound together with what follows it.
- `Draft.advances_step`: a step that goes on has read something.
-/

namespace DocQuery

/-! ## What is under way -/

/-- A comma list under way: its finished members, joined, and of the member that is being read,
what stands left of the last combinator. -/
structure Pending where
  members : Option Selector := none
  left : Option (Selector × Combinator) := none

/-- A negation under way: the list that it stands in, and the parts of its compound before it. -/
structure Negation where
  outer : Pending
  parts : Option Selector

/-- What has been read: the open negations, innermost first, the innermost list, and the parts of
its last compound. A compound of no parts, and one of `*` alone, has none. -/
structure Draft where
  negations : List Negation := []
  pending : Pending := {}
  parts : Option Selector := none

/-- Either the whole selector, or what is under way and the text still to be read. -/
inductive Progress where
  | finished (s : Selector)
  | reading (draft : Draft) (rest : List Char)

/-- What is under way after something has been read from the front of the text. -/
def continueWith {α : Type} (read : Except Stop (α × List Char)) (next : α → Draft) :
    Except Stop Progress :=
  read.map fun (a, rest) => .reading (next a) rest

namespace Pending

/-- The member under way, once its last compound is known. -/
def member (p : Pending) (compound : Selector) : Selector :=
  match p.left with
  | some (left, combinator) => .combine combinator left compound
  | none => compound

/-- The list up to its last compound. -/
def close (p : Pending) (compound : Selector) : Selector :=
  match p.members with
  | some members => .union members (p.member compound)
  | none => p.member compound

/-- The list with a comma after its last compound. -/
def comma (p : Pending) (compound : Selector) : Pending :=
  { members := some (p.close compound) }

/-- The list with a combinator after its last compound. -/
def combinator (p : Pending) (compound : Selector) (c : Combinator) : Pending :=
  { p with left := some (p.member compound, c) }

end Pending

/-- The compound of the parts and one more. -/
def joinPart (parts : Option Selector) (part : Selector) : Selector :=
  match parts with
  | some parts => .intersection parts part
  | none => part

/-! ## Compounds -/

/-- The start of a compound: `*`, a tag name, or nothing where a part without a tag name follows or
the text ends. -/
def openCompound (cs : List Char) : Except Stop (Option Selector × List Char) :=
  match cs with
  | [] => .ok (none, [])
  | '*' :: rest => .ok (none, rest)
  | c :: _ =>
    if c ∈ ['#', '.', '[', ':'] then .ok (none, cs)
    else
      (readIdentifier cs).map fun (name, rest) =>
        (some (.tag (.ofName (String.ofList name))), rest)

/-- The combinator of a character that stands for one. -/
def Combinator.ofChar? : Char → Option Combinator
  | '>' => some .child
  | '+' => some .adjacent
  | '~' => some .sibling
  | _ => none

/-- The pseudo-classes on the position of a node, which are known and not supported. -/
def unsupportedPseudoClasses : List String :=
  ["nth-child", "nth-last-child", "nth-of-type", "nth-last-of-type", "first-child", "last-child",
   "first-of-type", "last-of-type", "only-child", "only-of-type"]

namespace Draft

/-- One more part for the compound. -/
def addPart (draft : Draft) (part : Selector) : Draft :=
  { draft with parts := some (joinPart draft.parts part) }

/-- The compound as far as it has been read. -/
def compound (draft : Draft) : Selector := draft.parts.getD .universal

/-- The next compound of the same list or of another one. -/
def nextCompound (draft : Draft) (cs : List Char) : Except Stop Progress :=
  continueWith (openCompound cs) fun parts => { draft with parts }

/-- An opening parenthesis and the first compound of the negation. -/
def openNegation (draft : Draft) (cs : List Char) : Except Stop Progress :=
  match cs with
  | '(' :: rest =>
    { negations := ⟨draft.pending, draft.parts⟩ :: draft.negations : Draft }.nextCompound
      (skipBlank rest)
  | _ => .error (.malformed cs .missingOpeningParenthesis)

/-- A pseudo-class, from behind its colon. Its name counts in lower case. -/
def pseudoClass (draft : Draft) (cs : List Char) : Except Stop Progress := do
  let (name, rest) ← readIdentifier cs
  let name := String.ofList (Text.lowerCase name)
  if name = "not" then draft.openNegation rest
  else if name ∈ unsupportedPseudoClasses then .error (.unsupported name)
  else .error (.malformed cs (.unknownPseudoClass name))

/-- The end of the text: it ends the selector, unless a negation is open. -/
def endText (draft : Draft) : Except Stop Progress :=
  match draft.negations with
  | [] => .ok (.finished (draft.pending.close draft.compound))
  | _ :: _ => .error (.malformed [] .missingClosingParenthesis)

/-- A closing parenthesis: the innermost negation becomes a part of the compound that it stands
in. The text from the parenthesis on is `cs`, and `rest` follows it. -/
def closeNegation (draft : Draft) (cs rest : List Char) : Except Stop Progress :=
  match draft.negations with
  | [] => .error (.malformed cs (.trailing ')'))
  | negation :: others =>
    let inner := Selector.not (draft.pending.close draft.compound)
    .ok (.reading ⟨others, negation.outer, some (joinPart negation.parts inner)⟩ rest)

/-- A combinator and the next compound. -/
def combinator (draft : Draft) (c : Combinator) (cs : List Char) : Except Stop Progress :=
  { draft with pending := draft.pending.combinator draft.compound c }.nextCompound cs

/-- What follows a compound: the end of the text or of a negation, a comma, or a combinator.
Spacing before any other character stands for the descendant combinator. -/
def endCompound (draft : Draft) (cs : List Char) : Except Stop Progress :=
  match skipBlank cs with
  | [] => draft.endText
  | ',' :: rest =>
    { draft with pending := draft.pending.comma draft.compound }.nextCompound (skipBlank rest)
  | ')' :: rest => draft.closeNegation (')' :: rest) rest
  | c :: rest =>
    match Combinator.ofChar? c with
    | some combinator => draft.combinator combinator (skipBlank rest)
    | none =>
      if startsBlank cs then draft.combinator .descendant (c :: rest)
      else .error (.malformed (c :: rest) (.unexpectedCharacter c))

/-- One more part of the compound, or its end. -/
def step (draft : Draft) (cs : List Char) : Except Stop Progress :=
  match cs with
  | '#' :: rest =>
    continueWith (readName rest) fun name =>
      draft.addPart (.test ⟨.equals, "id", String.ofList name⟩)
  | '.' :: rest =>
    continueWith (readIdentifier rest) fun name =>
      draft.addPart (.test ⟨.listed, "class", String.ofList name⟩)
  | '[' :: rest => continueWith (readTest rest) fun test => draft.addPart (.test test)
  | ':' :: rest => draft.pseudoClass rest
  | _ => draft.endCompound cs

end Draft

/-! ## A step moves on -/

theorem openCompound_suffix {cs rest : List Char} {parts : Option Selector}
    (h : openCompound cs = .ok (parts, rest)) : rest <:+ cs := by
  unfold openCompound at h
  split at h
  · simp only [Except.ok.injEq, Prod.mk.injEq] at h
    exact h.2 ▸ List.suffix_rfl
  · simp only [Except.ok.injEq, Prod.mk.injEq] at h
    exact h.2 ▸ List.suffix_cons _ _
  · split at h
    · simp only [Except.ok.injEq, Prod.mk.injEq] at h
      exact h.2 ▸ List.suffix_rfl
    · obtain ⟨name, hn, he⟩ := exists_of_map_eq_ok h
      exact (Prod.mk.inj he).2 ▸ (advances_readIdentifier hn).suffix

/-- When a part read from the front takes the draft further, the part has been read and the rest
is what it leaves. -/
theorem exists_of_continueWith {α : Type} {read : Except Stop (α × List Char)} {f : α → Draft}
    {next : Draft} {rest : List Char}
    (h : continueWith read f = .ok (.reading next rest)) :
    ∃ a, read = .ok (a, rest) ∧ next = f a := by
  obtain ⟨⟨a, after⟩, hr, he⟩ := exists_of_map_eq_ok h
  obtain ⟨rfl, rfl⟩ := Progress.reading.inj he
  exact ⟨a, hr, rfl⟩

namespace Draft

theorem nextCompound_suffix {draft next : Draft} {cs rest : List Char}
    (h : draft.nextCompound cs = .ok (.reading next rest)) : rest <:+ cs := by
  obtain ⟨parts, ho, -⟩ := exists_of_continueWith h
  exact openCompound_suffix ho

theorem advances_openNegation {draft next : Draft} {cs rest : List Char}
    (h : draft.openNegation cs = .ok (.reading next rest)) : Advances cs rest := by
  unfold openNegation at h
  split at h
  · exact .of_cons _ ((nextCompound_suffix h).trans (skipBlank_suffix _))
  · contradiction

theorem advances_pseudoClass {draft next : Draft} {cs rest : List Char}
    (h : draft.pseudoClass cs = .ok (.reading next rest)) : Advances cs rest := by
  obtain ⟨⟨name, after⟩, hn, h⟩ := exists_of_bind_eq_ok h
  dsimp only at h
  split at h
  · exact (advances_readIdentifier hn).trans (advances_openNegation h)
  · split at h <;> contradiction

theorem rest_of_closeNegation {draft next : Draft} {cs after rest : List Char}
    (h : draft.closeNegation cs after = .ok (.reading next rest)) : rest = after := by
  unfold closeNegation at h
  split at h
  · contradiction
  · simp only [Except.ok.injEq, Progress.reading.injEq] at h
    exact h.2.symm

theorem combinator_suffix {draft next : Draft} {c : Combinator} {cs rest : List Char}
    (h : draft.combinator c cs = .ok (.reading next rest)) : rest <:+ cs :=
  nextCompound_suffix h

theorem endText_ne_reading {draft next : Draft} {rest : List Char} :
    draft.endText ≠ .ok (.reading next rest) := by
  unfold endText
  split <;> simp

theorem advances_endCompound {draft next : Draft} {cs rest : List Char}
    (h : draft.endCompound cs = .ok (.reading next rest)) : Advances cs rest := by
  unfold endCompound at h
  have hs := skipBlank_suffix cs
  split at h
  · exact absurd h endText_ne_reading
  · rename_i after he
    rw [he] at hs
    exact .suffix_trans hs (.of_cons _ ((nextCompound_suffix h).trans (skipBlank_suffix _)))
  · rename_i after he
    rw [he] at hs
    exact .suffix_trans hs (.of_cons _ (rest_of_closeNegation h ▸ List.suffix_rfl))
  · rename_i c after _ _ he
    rw [he] at hs
    split at h
    · exact .suffix_trans hs (.of_cons _ ((combinator_suffix h).trans (skipBlank_suffix _)))
    · split at h
      · rename_i hb
        exact (advances_skipBlank hb).trans_suffix (he ▸ combinator_suffix h)
      · contradiction

/-- A step that goes on has read something. -/
theorem advances_step {draft next : Draft} {cs rest : List Char}
    (h : draft.step cs = .ok (.reading next rest)) : Advances cs rest := by
  unfold step at h
  split at h
  · obtain ⟨name, hn, -⟩ := exists_of_continueWith h
    exact .of_cons _ (advances_readName hn).suffix
  · obtain ⟨name, hn, -⟩ := exists_of_continueWith h
    exact .of_cons _ (advances_readIdentifier hn).suffix
  · obtain ⟨test, hn, -⟩ := exists_of_continueWith h
    exact .of_cons _ (advances_readTest hn).suffix
  · exact .of_cons _ (advances_pseudoClass h).suffix
  · exact advances_endCompound h

end Draft

end DocQuery
