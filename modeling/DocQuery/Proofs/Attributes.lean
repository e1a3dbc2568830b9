import DocQuery.Selector.Matching
import Mathlib.Data.List.Basic

/-!
# What attribute tests ask

An attribute test looks at one attribute, the first of its name, and compares its value with the
expected one. What the six comparisons compute, by cutting texts into pieces and by searching them,
is said here by how the one text is composed: a listed value is what stands between two pieces of
white space, or between one of them and an end of the text, and empty values may stand there as
well.

- `Text.mem_splitAtBlanks_iff`: the pieces of a text, by what stands before and behind them.
- `occursIn_iff`: what occurs in a text.
- `Comparison.Says`: the six comparisons as statements on texts.
- `AttributeTest.accepts_iff_says`: what attribute tests accept.
-/

namespace DocQuery

/-! ## Pieces -/

namespace Text

variable {piece cs : List Char}

/-- Nothing, or text with white space at its end. -/
def EndsInBlank (cs : List Char) : Prop := cs = [] ∨ ∃ front c, cs = front ++ [c] ∧ isBlank c = true

/-- Nothing, or text with white space at its start. -/
def StartsInBlank (cs : List Char) : Prop := cs = [] ∨ ∃ c rest, cs = c :: rest ∧ isBlank c = true

/-- A text is one piece, or white space ends its first piece, and what stands behind it is a shorter
text of the same kind. -/
theorem cut_induction {P : List Char → Prop}
    (one : ∀ cs, (∀ c ∈ cs, isBlank c = false) → P cs)
    (cut : ∀ front c rest, (∀ d ∈ front, isBlank d = false) → isBlank c = true → P rest →
      P (front ++ c :: rest)) (cs : List Char) : P cs := by
  induction hlength : cs.length using Nat.strongRecOn generalizing cs with
  | _ length ih =>
    cases hfind : cs.find? isBlank with
    | none => exact one cs fun c hc => by simpa using List.find?_eq_none.1 hfind c hc
    | some c =>
      obtain ⟨hc, front, rest, rfl, hfront⟩ := List.find?_eq_some_iff_append.1 hfind
      have hlt : rest.length < length := by
        rw [← hlength, List.length_append, List.length_cons]
        omega
      exact cut front c rest (fun d hd => by simpa using hfront d hd) hc (ih _ hlt rest rfl)

/-- What is cut out of a text has been between white space or an end of the text on either side. -/
theorem exists_of_mem_splitAtBlanks (h : piece ∈ splitAtBlanks cs) :
    (∀ c ∈ piece, isBlank c = false) ∧
      ∃ x y, cs = x ++ piece ++ y ∧ EndsInBlank x ∧ StartsInBlank y := by
  induction cs using cut_induction with
  | one cs hone =>
    rw [splitAtBlanks_of_forall hone] at h
    obtain rfl := List.mem_singleton.1 h
    exact ⟨hone, [], [], by simp, .inl rfl, .inl rfl⟩
  | cut front c rest hfront hc ih =>
    rw [splitAtBlanks_append front rest hc, splitAtBlanks_of_forall hfront] at h
    rcases List.mem_cons.1 h with rfl | h
    · exact ⟨hfront, [], c :: rest, rfl, .inl rfl, .inr ⟨c, rest, rfl, hc⟩⟩
    · obtain ⟨hpiece, x, y, rfl, hx, hy⟩ := ih h
      refine ⟨hpiece, front ++ c :: x, y, by simp, .inr ?_, hy⟩
      rcases hx with rfl | ⟨inner, d, rfl, hd⟩
      · exact ⟨front, c, rfl, hc⟩
      · exact ⟨front ++ c :: inner, d, by simp, hd⟩

/-- Text without white space that white space or the end follows is the first piece. -/
theorem mem_splitAtBlanks_of_startsInBlank {rest : List Char}
    (h : ∀ c ∈ piece, isBlank c = false) (hrest : StartsInBlank rest) :
    piece ∈ splitAtBlanks (piece ++ rest) := by
  rcases hrest with rfl | ⟨c, after, rfl, hc⟩
  · rw [List.append_nil, splitAtBlanks_of_forall h]
    exact List.mem_singleton_self piece
  · rw [splitAtBlanks_append piece after hc, splitAtBlanks_of_forall h]
    exact List.mem_cons_self

/-- What stands behind white space is cut on its own. -/
theorem mem_splitAtBlanks_of_endsInBlank {front : List Char} (hfront : EndsInBlank front)
    (h : piece ∈ splitAtBlanks cs) : piece ∈ splitAtBlanks (front ++ cs) := by
  rcases hfront with rfl | ⟨before, c, rfl, hc⟩
  · exact h
  · rw [List.append_assoc, List.singleton_append, splitAtBlanks_append before cs hc]
    exact List.mem_append_right _ h

/-- **The pieces of a text** are its parts without white space that stand between white space or
an end of the text on either side. -/
theorem mem_splitAtBlanks_iff : piece ∈ splitAtBlanks cs ↔ (∀ c ∈ piece, isBlank c = false) ∧
    ∃ x y, cs = x ++ piece ++ y ∧ EndsInBlank x ∧ StartsInBlank y := by
  refine ⟨exists_of_mem_splitAtBlanks, ?_⟩
  rintro ⟨hpiece, x, y, rfl, hx, hy⟩
  rw [List.append_assoc]
  exact mem_splitAtBlanks_of_endsInBlank hx (mem_splitAtBlanks_of_startsInBlank hpiece hy)

/-- An empty piece stands at an end of the text where there is white space, or between two white
spaces, or is all of the text. -/
theorem nil_mem_splitAtBlanks_iff : [] ∈ splitAtBlanks cs ↔ cs = [] ∨
    (∃ c rest, cs = c :: rest ∧ isBlank c = true) ∨
    (∃ front c, cs = front ++ [c] ∧ isBlank c = true) ∨
    ∃ x c d y, cs = x ++ c :: d :: y ∧ isBlank c = true ∧ isBlank d = true := by
  rw [mem_splitAtBlanks_iff]
  constructor
  · rintro ⟨-, x, y, rfl, hx, hy⟩
    rw [List.append_nil]
    rcases hx with rfl | ⟨front, c, rfl, hc⟩
    · exact hy.imp_right .inl
    · rcases hy with rfl | ⟨d, rest, rfl, hd⟩
      · exact .inr (.inr (.inl ⟨front, c, List.append_nil _, hc⟩))
      · exact .inr (.inr (.inr ⟨front, c, d, rest, by simp, hc, hd⟩))
  · have hpiece : ∀ c ∈ ([] : List Char), isBlank c = false := fun _ hc => nomatch hc
    rintro (rfl | ⟨c, rest, rfl, hc⟩ | ⟨front, c, rfl, hc⟩ | ⟨x, c, d, y, rfl, hc, hd⟩)
    · exact ⟨hpiece, [], [], rfl, .inl rfl, .inl rfl⟩
    · exact ⟨hpiece, [], c :: rest, rfl, .inl rfl, .inr ⟨c, rest, rfl, hc⟩⟩
    · exact ⟨hpiece, front ++ [c], [], by simp, .inr ⟨front, c, rfl, hc⟩, .inl rfl⟩
    · exact ⟨hpiece, x ++ [c], d :: y, by simp, .inr ⟨x, c, rfl, hc⟩, .inr ⟨d, y, rfl, hd⟩⟩

end Text

/-! ## Comparisons -/

theorem occursIn_iff {part cs : List Char} :
    occursIn part cs = true ↔ ∃ x y, cs = x ++ part ++ y := by
  have hwithin : occursIn part cs = true ↔ part <:+: cs := by
    induction cs with
    | nil => simp [occursIn]
    | cons c rest ih =>
      rw [occursIn, Bool.or_eq_true, List.isPrefixOf_iff_prefix, ih, List.infix_cons_iff]
  rw [hwithin]
  exact exists_congr fun x => exists_congr fun y => eq_comm

/-- What a comparison says of the actual value and the expected one. -/
def Comparison.Says : Comparison → List Char → List Char → Prop
  | present, _, _ => True
  | equals, actual, expected => actual = expected
  | listed, actual, expected => (∀ c ∈ expected, Text.isBlank c = false) ∧
      ∃ x y, actual = x ++ expected ++ y ∧ Text.EndsInBlank x ∧ Text.StartsInBlank y
  | startsWith, actual, expected => expected ≠ [] ∧ ∃ y, actual = expected ++ y
  | endsWith, actual, expected => expected ≠ [] ∧ ∃ x, actual = x ++ expected
  | contains, actual, expected => expected ≠ [] ∧ ∃ x y, actual = x ++ expected ++ y

/-- A value is listed if it is one of the pieces. -/
theorem Comparison.holds_listed_iff {actual expected : List Char} :
    listed.holds actual expected = true ↔ expected ∈ Text.splitAtBlanks actual := by
  show (Text.splitAtBlanks actual).any (· == expected) = true ↔ _
  rw [List.any_beq', List.contains_iff_mem]

/-- **A comparison computes what it says.** -/
theorem Comparison.holds_iff (comparison : Comparison) (actual expected : List Char) :
    comparison.holds actual expected = true ↔ comparison.Says actual expected := by
  have hne : (!expected.isEmpty) = true ↔ expected ≠ [] := by simp
  cases comparison with
  | present => exact iff_of_true rfl trivial
  | equals => exact beq_iff_eq
  | listed => exact holds_listed_iff.trans Text.mem_splitAtBlanks_iff
  | startsWith =>
    show (!expected.isEmpty && expected.isPrefixOf actual) = true ↔ _
    rw [Bool.and_eq_true, hne, List.isPrefixOf_iff_prefix]
    exact and_congr_right fun _ => exists_congr fun y => eq_comm
  | endsWith =>
    show (!expected.isEmpty && expected.isSuffixOf actual) = true ↔ _
    rw [Bool.and_eq_true, hne, List.isSuffixOf_iff_suffix]
    exact and_congr_right fun _ => exists_congr fun x => eq_comm
  | contains =>
    show (!expected.isEmpty && occursIn expected actual) = true ↔ _
    rw [Bool.and_eq_true, hne, occursIn_iff]
    rfl

/-! ## Attributes -/

/-- The first attribute with exactly this name has this value. What comes behind it, under the same
name or another one, does not count. -/
def Element.HasFirst (e : Element) (name value : String) : Prop :=
  ∃ before after, e.attributes = before ++ ⟨name, value⟩ :: after ∧ ∀ a ∈ before, a.name ≠ name

theorem Element.attribute?_eq_some_iff {e : Element} {name value : String} :
    e.attribute? name = some value ↔ e.HasFirst name value := by
  rw [attribute?, Option.map_eq_some_iff]
  constructor
  · rintro ⟨⟨found, value⟩, hfind, rfl⟩
    obtain ⟨hname, before, after, hattributes, hbefore⟩ := List.find?_eq_some_iff_append.1 hfind
    obtain rfl : found = name := beq_iff_eq.1 hname
    exact ⟨before, after, hattributes, fun a ha => by simpa using hbefore a ha⟩
  · rintro ⟨before, after, hattributes, hbefore⟩
    refine ⟨⟨name, value⟩, List.find?_eq_some_iff_append.2 ?_, rfl⟩
    refine ⟨beq_self_eq_true name, before, after, hattributes, fun a ha => ?_⟩
    simpa using hbefore a ha

namespace AttributeTest

theorem accepts_eq_true_iff {test : AttributeTest} {e : Element} : test.accepts e = true ↔
    ∃ actual, e.HasFirst test.name actual ∧
      test.comparison.holds actual.toList test.value.toList = true := by
  rw [accepts]
  simp only [← Element.attribute?_eq_some_iff]
  cases e.attribute? test.name with
  | none => simp
  | some actual => simp

/-- **An attribute test accepts what it says.** It accepts an element if the first attribute of
exactly its name has a value of which the comparison says so, and no element without such an
attribute. In particular the empty text is listed in a value that is empty, starts or ends with
white space, or has two white-space characters in a row, and in no other. -/
theorem accepts_iff_says (e : Element) :
    (∀ test : AttributeTest, test.accepts e = true ↔ ∃ actual, e.HasFirst test.name actual ∧
      test.comparison.Says actual.toList test.value.toList) ∧
    ∀ name : String, accepts ⟨.listed, name, ""⟩ e = true ↔
      ∃ actual, e.HasFirst name actual ∧ (actual = "" ∨
        (∃ c rest, actual.toList = c :: rest ∧ Text.isBlank c = true) ∨
        (∃ front c, actual.toList = front ++ [c] ∧ Text.isBlank c = true) ∨
        ∃ x c d y, actual.toList = x ++ c :: d :: y ∧ Text.isBlank c = true ∧
          Text.isBlank d = true) := by
  constructor
  · intro test
    rw [accepts_eq_true_iff]
    refine exists_congr fun actual => and_congr_right fun _ => ?_
    exact test.comparison.holds_iff actual.toList test.value.toList
  · intro name
    rw [accepts_eq_true_iff]
    refine exists_congr fun actual => and_congr_right fun _ => ?_
    rw [← String.toList_eq_nil_iff, ← Text.nil_mem_splitAtBlanks_iff]
    exact Comparison.holds_listed_iff

/-- The empty text stands between the two spaces; of the names only the exact one counts, and of
its values only the first. -/
example :
    let e : Element := ⟨.ofName "p", [⟨"Class", ""⟩, ⟨"class", "a  b"⟩, ⟨"class", "a b"⟩]⟩
    accepts ⟨.listed, "class", ""⟩ e = true ∧ accepts ⟨.listed, "class", "a b"⟩ e = false ∧
      accepts ⟨.contains, "class", "a b"⟩ e = false := by
  decide

end AttributeTest

end DocQuery
