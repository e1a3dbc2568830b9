import DocQuery.Proofs.Canonical

/-!
# Selector text reads back as its selector

The text of a canonical selector is derived by the grammar in front of any rest. That the rest is
arbitrary is what makes the induction go through: no part of a selector has to know what is
written after it, and that no two parts run together is left to the reader.

- `Selector.IsCanonical.derives_render`: the text of a canonical selector stands for it.
- `Selector.parse_text_eq_ok`: what has been read once is read again from its own text.
- `Selector.exists_parse_eq_ok_iff`: the selectors that some text stands for are the canonical ones.
-/

namespace DocQuery

open Grammar

/-! ## Tags and values -/

/-- The known names are identifiers. -/
theorem isIdentifier_of_mem_knownTagNames {name : String} (h : name ∈ knownTagNames) :
    IsIdentifier name.toList := by
  have hall : ∀ n ∈ knownTagNames,
      n.toList.head?.any isNameStart = true ∧ n.toList.all isNameChar = true := by
    decide +kernel
  exact isIdentifier_of_all (hall name h).1 (hall name h).2

/-- The name of a writable tag is an identifier that resolves to the tag. -/
theorem Tag.IsWritable.ofName_name {t : Tag} (h : t.IsWritable) :
    IsIdentifier t.name.toList ∧ Tag.ofName t.name = t := by
  cases t with
  | known n => exact ⟨isIdentifier_of_mem_knownTagNames n.property, Tag.ofName_known n⟩
  | unknown text => exact ⟨h.1, Tag.ofName_of_not_mem h.2⟩

/-- The mark that the printer chooses can hold the value. -/
theorem IsWritableValue.isQuotable {value : List Char} (h : IsWritableValue value) :
    IsQuotable (AttributeTest.quoteMark value) value := by
  intro c hc
  refine ⟨?_, h.1 c hc⟩
  rintro rfl
  unfold AttributeTest.quoteMark at hc
  split at hc
  · rename_i hdouble
    exact h.2 ⟨hdouble, hc⟩
  · contradiction

theorem quoteMark_eq (value : List Char) :
    AttributeTest.quoteMark value = '"' ∨ AttributeTest.quoteMark value = '\'' := by
  unfold AttributeTest.quoteMark
  split
  · exact .inr rfl
  · exact .inl rfl

theorem operator_render {comparison : Comparison} (h : comparison ≠ .present) :
    Operator comparison.render comparison := by
  cases comparison with
  | present => exact absurd rfl h
  | equals => exact .equals
  | listed => exact .listed
  | startsWith => exact .startsWith
  | endsWith => exact .endsWith
  | contains => exact .contains

/-- A test that compares is written as its name, the operator and the quoted value. -/
theorem render_compare {a : AttributeTest} (h : a.comparison ≠ .present) (rest : List Char) :
    a.render ++ rest = '[' :: (a.name.toList ++ (a.comparison.render ++
      AttributeTest.quoteMark a.value.toList ::
        (a.value.toList ++ AttributeTest.quoteMark a.value.toList :: ']' :: rest))) := by
  unfold AttributeTest.render
  split
  · rename_i heq
    exact absurd heq h
  · simp

/-! ## Selectors -/

theorem derives_render_present {name : String} (h : IsIdentifier name.toList) (rest : List Char) :
    Derives .qualifier ((Selector.test ⟨.present, name, ""⟩).render ++ rest)
      (.test ⟨.present, name, ""⟩) rest := by
  have htext : (Selector.test ⟨.present, name, ""⟩).render ++ rest =
      '[' :: (name.toList ++ ']' :: rest) := by
    simp [AttributeTest.render]
  have hname : String.ofList name.toList = name := String.ofList_toList
  have hd : Derives .qualifier ('[' :: (name.toList ++ ']' :: rest))
      (.test ⟨.present, String.ofList name.toList, ""⟩) rest := .present .nil h .nil
  rwa [hname, ← htext] at hd

theorem derives_render_compare {comparison : Comparison} {name value : String}
    (hc : comparison ≠ .present) (h : IsIdentifier name.toList)
    (hv : IsWritableValue value.toList) (rest : List Char) :
    Derives .qualifier ((Selector.test ⟨comparison, name, value⟩).render ++ rest)
      (.test ⟨comparison, name, value⟩) rest := by
  have hvalue : Value (AttributeTest.quoteMark value.toList ::
      (value.toList ++ AttributeTest.quoteMark value.toList :: ']' :: rest)) value.toList
      (']' :: rest) := .quoted (quoteMark_eq value.toList) hv.isQuotable
  have hd := Derives.compare .nil h .nil (operator_render hc) .nil hvalue .nil
  rw [String.ofList_toList, String.ofList_toList] at hd
  rw [Selector.render_test, render_compare hc]
  exact hd

/-- A group in parentheses behind the name of the negation. -/
theorem derives_negation {inner rest : List Char} {s : Selector}
    (h : Derives .group inner s (')' :: rest)) :
    Derives .qualifier (":not(".toList ++ inner) (.not s) rest := by
  have hname : IsIdentifier "not".toList :=
    isIdentifier_of_all (by decide) (by decide +kernel)
  have hlower : Text.lowerCase "not".toList = "not".toList := by decide
  have hopen : ":not(".toList = ':' :: ("not".toList ++ ['(']) := by decide
  have hd := Derives.negation hname hlower h
  rw [hopen]
  simp only [List.append_assoc, List.cons_append, List.nil_append]
  exact hd

theorem derives_render_negation {s : Selector}
    (h : ∀ rest, Derives .group (s.render ++ rest) s rest) (rest : List Char) :
    Derives .qualifier ((Selector.not s).render ++ rest) (.not s) rest := by
  have hd := derives_negation (h (')' :: rest))
  rw [Selector.render_not]
  simp only [List.append_assoc, List.cons_append, List.nil_append]
  exact hd

/-- The combinator stands between its two sides as the printer writes it. -/
theorem joint_render (k : Combinator) {right : List Char} (h : right ≠ []) :
    Joint (k.render ++ right) k right := by
  have hspace : Text.isBlank ' ' = true := by decide
  cases k with
  | child => exact .sign (.space hspace .nil) .child (.space hspace .nil)
  | descendant => exact .blank (.space hspace .nil) (List.cons_ne_self ' ' right) h
  | adjacent => exact .sign (.space hspace .nil) .adjacent (.space hspace .nil)
  | sibling => exact .sign (.space hspace .nil) .sibling (.space hspace .nil)

/-- A compound is written with at least one character: the empty text stands for the universal
selector, which is written otherwise. -/
theorem render_append_ne_nil {s : Selector} {rest : List Char}
    (h : Derives .compound (s.render ++ rest) s rest) : s.render ++ rest ≠ [] := by
  intro hnil
  rw [hnil] at h
  cases h with
  | parts hparts =>
    obtain ⟨c, tail, heq, -⟩ := hparts.head
    contradiction
  -- the derivation from the empty text would make the selector universal, and its text a star
  | nothing => contradiction

/-- **The text of a canonical selector stands for it**, whatever follows the text. -/
theorem Selector.IsCanonical.derives_render {phrase : Phrase} {s : Selector}
    (h : s.IsCanonical phrase) : ∀ rest, Derives phrase (s.render ++ rest) s rest := by
  induction h with
  | present hname => exact derives_render_present hname
  | compare hc hname hv => exact derives_render_compare hc hname hv
  | negation _ ih => exact derives_render_negation ih
  | @tag t ht =>
    intro rest
    obtain ⟨hname, heq⟩ := ht.ofName_name
    have hd : Derives .parts (t.name.toList ++ rest)
        (.tag (.ofName (String.ofList t.name.toList))) rest := .tag hname
    rwa [String.ofList_toList, heq] at hd
  | first _ ih => exact fun rest => .first (ih rest)
  | @more s q _ _ ih ihq =>
    intro rest
    rw [Selector.render_intersection, List.append_assoc]
    exact .more (ih (q.render ++ rest)) (ihq rest)
  | parts _ ih => exact fun rest => .parts (ih rest)
  | universal => exact fun rest => .star
  | start _ ih => exact fun rest => .start .nil (ih rest)
  | @combine k left s _ _ ihl ihs =>
    intro rest
    -- the right side is derived first: it has to start with something for the space before it
    have hright := ihs rest
    rw [Selector.render_combine, List.append_assoc, List.append_assoc]
    exact .combine (ihl _) (joint_render k (render_append_ne_nil hright)) hright
  | single _ ih => exact fun rest => .single (ih rest) .nil
  | @union left s _ _ ihl ihs =>
    intro rest
    have hspace : Blank (' ' :: (s.render ++ rest)) (s.render ++ rest) :=
      .space (by decide) .nil
    rw [Selector.render_union, List.append_assoc, List.append_assoc]
    exact .union (ihl _) ((ihs rest).of_blank hspace) .nil

namespace Selector

/-- **Selector text reads back as its selector**: whatever text a selector has been read from, the
selector's own text is read as the same selector. -/
theorem parse_text_eq_ok (text : String) (s : Selector) (h : parse text = .ok s) :
    parse s.text = .ok s := by
  have hs : s.IsCanonical .group := (parseChars_eq_ok_iff.1 (parse_eq_ok.1 h)).isCanonical
  have hd : Derives .group (s.render ++ []) s [] := hs.derives_render []
  rw [List.append_nil] at hd
  rw [parse_eq_ok, Selector.text, String.toList_ofList]
  exact parseChars_eq_ok_iff.2 hd

/-- A tag outside the known names, a negation in capitals, a value that holds a quotation mark and
a bracket, and a comma at the end. -/
theorem parse_text_eq_ok_mixed :
    let s : Selector := .union (.combine .child
      (.intersection (.tag (.unknown "-É")) (.test ⟨.listed, "class", "x"⟩))
      (.not (.test ⟨.equals, "a", "\"]"⟩))) .universal
    parse "-É.x > :NOT( [a='\"]'] ) , " = .ok s ∧ parse s.text = .ok s := by
  intro s
  have h : parse "-É.x > :NOT( [a='\"]'] ) , " = .ok s := by decide +kernel
  exact ⟨h, parse_text_eq_ok _ s h⟩

/-! ## What can be read at all -/

theorem isCanonical_of_parse {text : String} {s : Selector} (h : parse text = .ok s) :
    s.IsCanonical .group :=
  (parseChars_eq_ok_iff.1 (parse_eq_ok.1 h)).isCanonical

/-- A canonical selector is read from its own text, with no text that it was read from before. -/
theorem IsCanonical.parse_text {s : Selector} (h : s.IsCanonical .group) :
    parse s.text = .ok s := by
  have hd : Derives .group (s.render ++ []) s [] := h.derives_render []
  rw [List.append_nil] at hd
  rw [parse_eq_ok, Selector.text, String.toList_ofList]
  exact parseChars_eq_ok_iff.2 hd

/-- **What some text is read as are the canonical selectors**: commas outside of combinators, both
nested to the left, parts of compounds nested to the left with the tag first, no universal
selector among parts, and only names, tags, and values that text can hold. -/
theorem exists_parse_eq_ok_iff (s : Selector) :
    (∃ text, parse text = .ok s) ↔ s.IsCanonical .group := by
  constructor
  · rintro ⟨text, h⟩
    exact isCanonical_of_parse h
  · intro h
    exact ⟨s.text, h.parse_text⟩

end Selector

end DocQuery
