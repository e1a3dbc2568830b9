import DocQuery.Proofs.Grammar.Words

/-!
# Attribute tests are read as they are written

The readers of quoted texts, operators and whole attribute tests against the grammar.

- `Grammar.readQuoted_eq_ok_iff`: a quoted text holds what its marks allow, and ends at its mark.
- `Grammar.value_of_readValue`, `Grammar.Value.readValue_eq`: values.
- `Grammar.operator_of_readOperator`, `Grammar.Operator.readOperator_eq`: operators.
- `Grammar.derives_of_readTest`: a test that is read is a qualifier of the grammar.
- `Grammar.readTest_present`, `Grammar.readTest_compare`: both forms of a test are read.
-/

namespace DocQuery

namespace Grammar

/-! ## Quoted texts -/

theorem isQuotable_eq_true_iff {mark c : Char} :
    isQuotable mark c = true ↔ c ≠ mark ∧ c ≠ '\\' ∧ isLineBreak c = false := by
  simp [isQuotable, and_assoc]

/-- A quoted text is what its marks allow, up to the next mark. -/
theorem readQuoted_eq_ok_iff {mark : Char} {cs value rest : List Char} :
    readQuoted mark cs = .ok (value, rest) ↔
      IsQuotable mark value ∧ cs = value ++ mark :: rest := by
  constructor
  · intro h
    unfold readQuoted at h
    split at h
    · contradiction
    · rename_i c after hdrop
      split at h
      · rename_i hc
        obtain ⟨rfl, rfl⟩ := Prod.mk.inj (Except.ok.inj h)
        refine ⟨fun d hd => isQuotable_eq_true_iff.1 ?_, ?_⟩
        · exact List.all_eq_true.mp List.all_takeWhile d hd
        · subst hc
          rw [← hdrop, List.takeWhile_append_dropWhile]
      · split at h <;> contradiction
  · rintro ⟨hvalue, rfl⟩
    have hall : ∀ c ∈ value, isQuotable mark c = true :=
      fun c hc => isQuotable_eq_true_iff.2 (hvalue c hc)
    have hmark : ¬ isQuotable mark mark = true := by simp [isQuotable]
    rw [readQuoted, List.dropWhile_append_of_pos hall, List.takeWhile_append_of_pos hall,
      List.dropWhile_cons_of_neg hmark, List.takeWhile_cons_of_neg hmark, List.append_nil]
    simp

/-! ## Values -/

theorem value_of_readValue {cs value rest : List Char} (h : readValue cs = .ok (value, rest)) :
    Value cs value rest := by
  unfold readValue at h
  split at h
  · contradiction
  · obtain ⟨hvalue, rfl⟩ := readQuoted_eq_ok_iff.1 h
    exact .quoted (.inl rfl) hvalue
  · obtain ⟨hvalue, rfl⟩ := readQuoted_eq_ok_iff.1 h
    exact .quoted (.inr rfl) hvalue
  · obtain ⟨hname, rfl⟩ := isIdentifier_of_readIdentifier h
    exact .bare hname

/-- Identifiers start with no quotation mark, so that a value shows at its first character which
kind it is of. -/
theorem Value.readValue_eq {cs value rest : List Char} (h : Value cs value rest)
    (hr : Boundary rest) : readValue cs = .ok (value, rest) := by
  cases h with
  | bare hname =>
    obtain ⟨c, tail, rfl, hc⟩ := exists_cons_isNameChar hname
    have hmarks : c ∉ marks := not_mem_marks_of_isNameChar hc
    rw [List.cons_append, readValue, ← List.cons_append]
    · exact readIdentifier_append hname hr
    · exact List.cons_ne_nil _ _
    -- the cases of the two quotation marks come first, and neither is the one at hand
    · intro after heq
      obtain ⟨rfl, -⟩ := List.cons.inj heq
      exact absurd (by decide) hmarks
    · intro after heq
      obtain ⟨rfl, -⟩ := List.cons.inj heq
      exact absurd (by decide) hmarks
  | quoted hm hvalue =>
    rcases hm with rfl | rfl
    · exact readQuoted_eq_ok_iff.2 ⟨hvalue, rfl⟩
    · exact readQuoted_eq_ok_iff.2 ⟨hvalue, rfl⟩

/-- A value is not empty text, and no spacing stands in front of it. -/
theorem Value.not_startsBlank {cs value rest : List Char} (h : Value cs value rest) :
    cs ≠ [] ∧ startsBlank cs = false := by
  cases h with
  | @bare name rest hname =>
    refine ⟨?_, not_startsBlank_of_isIdentifier hname rest⟩
    exact List.append_ne_nil_of_left_ne_nil (isName_of_isIdentifier hname).1 rest
  | quoted hm _ =>
    refine ⟨List.cons_ne_nil _ _, ?_⟩
    rcases hm with rfl | rfl
    · rfl
    · rfl

/-! ## Operators -/

theorem operator_of_readOperator {cs rest : List Char} {comparison : Comparison}
    (h : readOperator cs = .ok (comparison, rest)) :
    ∃ operator, Operator operator comparison ∧ cs = operator ++ rest := by
  unfold readOperator at h
  split at h
  · obtain ⟨rfl, rfl⟩ := Prod.mk.inj (Except.ok.inj h)
    exact ⟨_, .equals, rfl⟩
  · obtain ⟨rfl, rfl⟩ := Prod.mk.inj (Except.ok.inj h)
    exact ⟨_, .listed, rfl⟩
  · obtain ⟨rfl, rfl⟩ := Prod.mk.inj (Except.ok.inj h)
    exact ⟨_, .startsWith, rfl⟩
  · obtain ⟨rfl, rfl⟩ := Prod.mk.inj (Except.ok.inj h)
    exact ⟨_, .endsWith, rfl⟩
  · obtain ⟨rfl, rfl⟩ := Prod.mk.inj (Except.ok.inj h)
    exact ⟨_, .contains, rfl⟩
  · contradiction
  · contradiction

/-- An operator is read where a value follows: it is the second character that is looked at even
for the operator of one character. -/
theorem Operator.readOperator_eq {operator rest : List Char} {comparison : Comparison}
    (h : Operator operator comparison) (hr : rest ≠ []) :
    readOperator (operator ++ rest) = .ok (comparison, rest) := by
  obtain ⟨c, rest, rfl⟩ := List.exists_cons_of_ne_nil hr
  cases h <;> rfl

/-- The first character of an operator neither belongs to names and spacing nor ends a test. -/
theorem Operator.exists_cons {operator : List Char} {comparison : Comparison}
    (h : Operator operator comparison) (rest : List Char) :
    ∃ c after, operator ++ rest = c :: after ∧ c ≠ ']' ∧ isNameChar c = false ∧ c ≠ '\\' ∧
      startsBlank (c :: after) = false := by
  cases h
  all_goals exact ⟨_, _, rfl, by decide, by decide, by decide, rfl⟩

/-! ## Tests -/

theorem boundary_bracket (rest : List Char) : Boundary (']' :: rest) :=
  boundary_mark (by decide) rest

/-- The name of a test is read, with the spacing around it. -/
theorem readTest_eq {cs name mid after : List Char} (hn : Blank cs (name ++ mid))
    (h : IsIdentifier name) (hb : Blank mid after) (ha : startsBlank after = false)
    (hr : Boundary after) : readTest cs = readTestOf (String.ofList name) after := by
  have hname : startsBlank (name ++ mid) = false := not_startsBlank_of_isIdentifier h mid
  rw [readTest, hn.skipBlank_eq_rest hname, readIdentifier_append h (hb.boundary hr)]
  show readTestOf (String.ofList name) (skipBlank mid) = _
  rw [hb.skipBlank_eq_rest ha]

theorem readTest_present {cs name mid rest : List Char} (hn : Blank cs (name ++ mid))
    (h : IsIdentifier name) (hb : Blank mid (']' :: rest)) :
    readTest cs = .ok (⟨.present, String.ofList name, ""⟩, rest) := by
  rw [readTest_eq hn h hb rfl (boundary_bracket rest)]
  rfl

theorem readTest_compare {cs name mid operator right valueText value after rest : List Char}
    {comparison : Comparison} (hn : Blank cs (name ++ mid)) (h : IsIdentifier name)
    (ho : Blank mid (operator ++ right)) (hc : Operator operator comparison)
    (hr : Blank right valueText) (hv : Value valueText value after)
    (hb : Blank after (']' :: rest)) :
    readTest cs = .ok (⟨comparison, String.ofList name, String.ofList value⟩, rest) := by
  obtain ⟨c, tail, heq, hbracket, hname, hslash, hblank⟩ := hc.exists_cons right
  -- the reader looks at two characters, so that something has to follow a one-character operator
  have hright : right ≠ [] := by
    rintro rfl
    cases hr with
    | nil => exact hv.not_startsBlank.1 rfl
    | comment hcomment _ => cases hcomment
  rw [heq] at ho
  rw [readTest_eq hn h ho hblank (boundary_cons hname hslash tail), readTestOf, ← heq,
    hc.readOperator_eq hright]
  · have hvalue : readValue (skipBlank right) = .ok (value, after) := by
      rw [hr.skipBlank_eq_rest hv.not_startsBlank.2]
      exact hv.readValue_eq (hb.boundary (boundary_bracket rest))
    have hclose : closeBracket (skipBlank after) = .ok rest := by
      rw [hb.skipBlank_eq_rest rfl]
      rfl
    simp only [ok_bind, hvalue, hclose]
    rfl
  · exact List.cons_ne_nil c tail
  · intro t ht
    exact hbracket (List.cons.inj ht).1

/-- A test that is read from behind its bracket is a qualifier. -/
theorem derives_of_readTest {cs rest : List Char} {test : AttributeTest}
    (h : readTest cs = .ok (test, rest)) :
    Derives .qualifier ('[' :: cs) (.test test) rest := by
  obtain ⟨⟨name, mid⟩, hname, h⟩ := exists_of_bind_eq_ok h
  obtain ⟨hid, hcs⟩ := isIdentifier_of_readIdentifier hname
  have hn : Blank cs (name ++ mid) := hcs ▸ blank_skipBlank cs
  have hb : Blank mid (skipBlank mid) := blank_skipBlank mid
  dsimp only at h
  unfold readTestOf at h
  split at h
  · contradiction
  · rename_i after heq
    obtain ⟨rfl, rfl⟩ := Prod.mk.inj (Except.ok.inj h)
    exact .present hn hid (heq ▸ hb)
  -- anything but a closing bracket: an operator, a value and the bracket, each of them read
  · obtain ⟨⟨comparison, right⟩, ho, h⟩ := exists_of_bind_eq_ok h
    obtain ⟨⟨value, after⟩, hv, h⟩ := exists_of_bind_eq_ok h
    obtain ⟨close, hc, h⟩ := exists_of_bind_eq_ok h
    obtain ⟨rfl, rfl⟩ := Prod.mk.inj (Except.ok.inj h)
    obtain ⟨operator, hop, heq⟩ := operator_of_readOperator ho
    have hclose : skipBlank after = ']' :: close := by
      unfold closeBracket at hc
      split at hc
      · rename_i heq
        rw [heq, Except.ok.inj hc]
      · contradiction
    exact .compare hn hid (heq ▸ hb) hop (blank_skipBlank right) (value_of_readValue hv)
      (hclose ▸ blank_skipBlank after)

end Grammar

end DocQuery
