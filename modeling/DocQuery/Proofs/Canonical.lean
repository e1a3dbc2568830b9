import DocQuery.Proofs.Grammar.Completeness
import DocQuery.Selector.Printer

/-!
# Canonical selectors

Not every selector has a text: without parentheses there is no way to write a combinator below
the right side of another one, or a comma below a combinator. Those that have one are the
canonical selectors. They nest as the phrases of the grammar do, and their names, tags and values
are such as selector text can hold.

- `IsWritableValue`, `Tag.IsWritable`: the values and tags that text can hold.
- `Selector.IsCanonical`: the canonical selectors, by the kind of phrase that they fill.
- `Grammar.Derives.isCanonical`: a phrase stands for a canonical selector.
-/

namespace DocQuery

open Grammar

/-! ## What text can hold -/

/-- Some quotation mark can hold the value: there is no backslash, no line terminator, and not
both marks. -/
def IsWritableValue (value : List Char) : Prop :=
  (∀ c ∈ value, c ≠ '\\' ∧ isLineBreak c = false) ∧ ¬ ('"' ∈ value ∧ '\'' ∈ value)

/-- The tag is known, or its text is an identifier that no known name resolves to. -/
def Tag.IsWritable : Tag → Prop
  | .known _ => True
  | .unknown text => IsIdentifier text.toList ∧ asciiLower text ∉ knownTagNames

/-- The selectors that fill a phrase of the given kind. -/
inductive Selector.IsCanonical : Phrase → Selector → Prop where
  | present {name : String} (h : IsIdentifier name.toList) :
      IsCanonical .qualifier (.test ⟨.present, name, ""⟩)
  | compare {comparison : Comparison} {name value : String} (hc : comparison ≠ .present)
      (h : IsIdentifier name.toList) (hv : IsWritableValue value.toList) :
      IsCanonical .qualifier (.test ⟨comparison, name, value⟩)
  | negation {s : Selector} (h : IsCanonical .group s) : IsCanonical .qualifier (.not s)
  | tag {t : Tag} (h : t.IsWritable) : IsCanonical .parts (.tag t)
  | first {q : Selector} (h : IsCanonical .qualifier q) : IsCanonical .parts q
  | more {s q : Selector} (h : IsCanonical .parts s) (hq : IsCanonical .qualifier q) :
      IsCanonical .parts (.intersection s q)
  | parts {s : Selector} (h : IsCanonical .parts s) : IsCanonical .compound s
  | universal : IsCanonical .compound .universal
  | start {s : Selector} (h : IsCanonical .compound s) : IsCanonical .chain s
  | combine {k : Combinator} {left s : Selector} (hl : IsCanonical .chain left)
      (hs : IsCanonical .compound s) : IsCanonical .chain (.combine k left s)
  | single {s : Selector} (h : IsCanonical .chain s) : IsCanonical .group s
  | union {left s : Selector} (hl : IsCanonical .group left) (hs : IsCanonical .chain s) :
      IsCanonical .group (.union left s)

/-! ## Names as values and tags -/

/-- A line terminator is white space. -/
theorem isBlank_of_isLineBreak {c : Char} (h : isLineBreak c = true) : Text.isBlank c = true := by
  have hall : ['\n', '\r', '\x0b', '\x0c', '\u0085', '\u2028', '\u2029'].all Text.isBlank = true :=
    by decide
  exact List.all_eq_true.1 hall c (by simpa [isLineBreak] using h)

theorem isWritableValue_of_isName {name : List Char} (h : IsName name) : IsWritableValue name := by
  refine ⟨fun c hc => ⟨?_, ?_⟩, fun hboth => ?_⟩
  · rintro rfl
    exact absurd (h.2 _ hc) (by decide)
  · cases hb : isLineBreak c with
    | false => rfl
    | true =>
      -- a line terminator is white space, which no name holds
      have hname := isNameChar_of_isBlank (isBlank_of_isLineBreak hb)
      exact absurd (h.2 c hc) (by simp [hname])
  · exact not_mem_marks_of_isNameChar (h.2 _ hboth.1) (by decide)

theorem isIdentifier_id : IsIdentifier "id".toList :=
  isIdentifier_of_all (by decide) (by decide)

theorem isIdentifier_class : IsIdentifier "class".toList :=
  isIdentifier_of_all (by decide) (by decide)

/-- A value that is read is one that can be written again: an identifier holds no mark, and a
quoted value lacks the mark that it was quoted with. -/
theorem isWritableValue_of_value {cs value rest : List Char} (h : Value cs value rest) :
    IsWritableValue value := by
  cases h with
  | bare hname => exact isWritableValue_of_isName (isName_of_isIdentifier hname)
  | quoted hm hvalue =>
    refine ⟨fun c hc => (hvalue c hc).2, fun hboth => ?_⟩
    -- one of the two marks is the one that quotes the value
    rcases hm with rfl | rfl
    · exact (hvalue _ hboth.1).1 rfl
    · exact (hvalue _ hboth.2).1 rfl

theorem isWritable_ofName {name : String} (h : IsIdentifier name.toList) :
    (Tag.ofName name).IsWritable := by
  by_cases hk : Tag.asciiLower name ∈ knownTagNames
  · rw [Tag.ofName_of_mem hk]
    trivial
  · rw [Tag.ofName_of_not_mem hk]
    exact ⟨h, hk⟩

theorem Grammar.Operator.ne_present {operator : List Char} {comparison : Comparison}
    (h : Operator operator comparison) : comparison ≠ .present := by
  cases h
  all_goals decide

/-! ## Phrases stand for canonical selectors -/

/-- **A phrase stands for a canonical selector** of its kind. -/
theorem Grammar.Derives.isCanonical {phrase : Phrase} {cs rest : List Char} {s : Selector}
    (h : Derives phrase cs s rest) : s.IsCanonical phrase := by
  induction h with
  | hasId hname =>
    refine .compare (by decide) isIdentifier_id ?_
    rw [String.toList_ofList]
    exact isWritableValue_of_isName hname
  | hasClass hname =>
    refine .compare (by decide) isIdentifier_class ?_
    rw [String.toList_ofList]
    exact isWritableValue_of_isName (isName_of_isIdentifier hname)
  | present _ hname _ => exact .present (by rwa [String.toList_ofList])
  | compare _ hname _ hc _ hv _ =>
    refine .compare hc.ne_present ?_ ?_
    · rwa [String.toList_ofList]
    · rw [String.toList_ofList]
      exact isWritableValue_of_value hv
  | negation _ _ _ ih => exact .negation ih
  | tag hname => exact .tag (isWritable_ofName (by rwa [String.toList_ofList]))
  | first _ ih => exact .first ih
  | starred _ ih => exact .first ih
  | more _ _ ih ihq => exact .more ih ihq
  | parts _ ih => exact .parts ih
  | star => exact .universal
  | nothing => exact .universal
  | start _ _ ih => exact .start ih
  | combine _ _ _ ihl ihs => exact .combine ihl ihs
  | single _ _ ih => exact .single ih
  | union _ _ _ ihl ihs => exact .union ihl ihs

end DocQuery
