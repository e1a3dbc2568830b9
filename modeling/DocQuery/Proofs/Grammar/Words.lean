import DocQuery.Proofs.Grammar.Blank

/-!
# Names are read to their end

The readers of names and identifiers against the words of the grammar. A reader takes the longest
word that it can; a word of the grammar may stop earlier, so that it is only read as it stands if
no name goes on after it.

- `Grammar.Boundary`: a text in front of which a name ends.
- `Grammar.isNameChar_of_isBlank`, `Grammar.isNameChar_of_mem_marks`: the characters of names are
  apart from white space and from the marks of selector text.
- `Grammar.readName_append`, `Grammar.readIdentifier_append`: a word before a boundary is read.
- `Grammar.isName_of_readName`, `Grammar.isIdentifier_of_readIdentifier`: what is read is a word.
-/

namespace DocQuery

namespace Grammar

/-! ## Where names end -/

/-- The text begins with no character of names and with no backslash, so that a name in front of
it ends there. -/
def Boundary (rest : List Char) : Prop :=
  ∀ c ∈ rest.head?, isNameChar c = false ∧ c ≠ '\\'

theorem boundary_nil : Boundary [] := fun _ h => nomatch h

theorem boundary_cons {c : Char} (hc : isNameChar c = false) (hb : c ≠ '\\') (cs : List Char) :
    Boundary (c :: cs) := by
  intro d hd
  obtain rfl : c = d := by simpa using hd
  exact ⟨hc, hb⟩

/-- No white space meets the letters, the numerals, the underscore or the hyphen. -/
theorem blankCodes_apart : ∀ r ∈ Text.blankCodes,
    Text.alphabeticCodes.Apart r.1 r.2 ∧ Text.numericCodes.Apart r.1 r.2 ∧
      (r.2 < 0x5F ∨ 0x5F < r.1) ∧ (r.2 < 0x2D ∨ 0x2D < r.1) := by
  decide +kernel

/-- White space stands in no name. -/
theorem isNameChar_of_isBlank {c : Char} (h : Text.isBlank c = true) : isNameChar c = false := by
  obtain ⟨r, hr, hlo, hhi⟩ := Text.CodeTable.exists_range_of_covers h
  obtain ⟨hletter, hnumeral, hunderscore, hhyphen⟩ := blankCodes_apart r hr
  have ha : Text.isAlphabetic c = false := Text.CodeTable.not_covers_of_apart hletter hlo hhi
  have hn : Text.isNumeric c = false := Text.CodeTable.not_covers_of_apart hnumeral hlo hhi
  have hu : c ≠ '_' := by
    rintro rfl
    have : '_'.toNat = 0x5F := rfl
    omega
  have hh : c ≠ '-' := by
    rintro rfl
    have : '-'.toNat = 0x2D := rfl
    omega
  simp [isNameChar, isNameStart, ha, hn, hu, hh]

/-- A character of names is no white space. -/
theorem isBlank_of_isNameChar {c : Char} (h : isNameChar c = true) : Text.isBlank c = false := by
  cases hb : Text.isBlank c with
  | false => rfl
  | true => exact absurd h (by simp [isNameChar_of_isBlank hb])

theorem isNameChar_of_isNameStart {c : Char} (h : isNameStart c = true) : isNameChar c = true := by
  simp [isNameChar, h]

/-- The characters with a meaning of their own in selector text: those that open a qualifier,
those that end a compound, and the others. -/
def marks : List Char :=
  ['#', '.', '[', ':'] ++ ([',', ')', '>', '+', '~'] ++ ['*', '(', ']', '/', '"', '\''])

/-- No mark stands in a name. -/
theorem isNameChar_of_mem_marks {c : Char} (h : c ∈ marks) : isNameChar c = false := by
  have hall : marks.all (fun d => !isNameChar d) = true := by decide
  simpa using List.all_eq_true.1 hall c h

theorem not_mem_marks_of_isNameChar {c : Char} (h : isNameChar c = true) : c ∉ marks := by
  intro hmem
  rw [isNameChar_of_mem_marks hmem] at h
  contradiction

/-- A name in front of a mark ends there. -/
theorem boundary_mark {c : Char} (h : c ∈ marks) (cs : List Char) : Boundary (c :: cs) := by
  refine boundary_cons (isNameChar_of_mem_marks h) ?_ cs
  rintro rfl
  exact absurd h (by decide)

/-- A comment opens with a character that no name holds. -/
theorem not_startsBlank_of_isNameChar {c : Char} (h : isNameChar c = true) (cs : List Char) :
    startsBlank (c :: cs) = false := by
  unfold startsBlank
  split
  · rename_i heq
    obtain ⟨rfl, -⟩ := List.cons.inj heq
    exact absurd (by decide) (not_mem_marks_of_isNameChar h)
  · rename_i heq
    obtain ⟨rfl, -⟩ := List.cons.inj heq
    exact isBlank_of_isNameChar h
  · contradiction

/-- Spacing in front ends a name. -/
theorem boundary_of_startsBlank {cs : List Char} (h : startsBlank cs = true) : Boundary cs := by
  unfold startsBlank at h
  split at h
  · exact boundary_mark (by decide) _
  · refine boundary_cons (isNameChar_of_isBlank h) ?_ _
    rintro rfl
    exact absurd h (by decide)
  · exact boundary_nil

/-- Spacing before a boundary is a boundary itself. -/
theorem Blank.boundary {cs rest : List Char} (h : Blank cs rest) (hr : Boundary rest) :
    Boundary cs := by
  by_cases hne : cs = rest
  · exact hne ▸ hr
  · exact boundary_of_startsBlank (h.startsBlank_of_ne hne)

/-! ## Names -/

/-- The longest name in front of a boundary is all that stands there. -/
theorem takeWhile_append_of_boundary {name rest : List Char}
    (h : ∀ c ∈ name, isNameChar c = true) (hr : Boundary rest) :
    (name ++ rest).takeWhile isNameChar = name ∧ (name ++ rest).dropWhile isNameChar = rest := by
  rw [List.takeWhile_append_of_pos h, List.dropWhile_append_of_pos h]
  cases rest with
  | nil => simp
  | cons c rest =>
    have hc : isNameChar c = false := (hr c rfl).1
    simp [hc]

/-- A name before a boundary is read as it stands. -/
theorem readName_append {name rest : List Char} (h : IsName name) (hr : Boundary rest) :
    readName (name ++ rest) = .ok (name, rest) := by
  obtain ⟨htake, hdrop⟩ := takeWhile_append_of_boundary h.2 hr
  have hb : rest.head? ≠ some '\\' := fun hh => (hr '\\' hh).2 rfl
  simp only [readName, htake, hdrop, if_neg hb, if_neg h.1]

/-- What is read as a name is one. -/
theorem isName_of_readName {cs name rest : List Char} (h : readName cs = .ok (name, rest)) :
    IsName name ∧ cs = name ++ rest := by
  refine ⟨⟨(readName_eq_ok h).2.2, ?_⟩, readName_eq_append h⟩
  intro c hc
  rw [(readName_eq_ok h).1] at hc
  exact List.all_eq_true.mp List.all_takeWhile c hc

/-! ## Identifiers -/

theorem isNameStart_hyphen : isNameStart '-' = false := by decide

/-- An identifier without the hyphen is a name whose first character may start one. -/
theorem isIdentifier_cons_iff {c : Char} {rest : List Char} (hc : c ≠ '-') :
    IsIdentifier (c :: rest) ↔ isNameStart c = true ∧ ∀ d ∈ rest, isNameChar d = true := by
  unfold IsIdentifier
  split
  · rename_i heq
    exact absurd (List.cons.inj heq).1 hc
  · rename_i heq
    obtain ⟨rfl, rfl⟩ := List.cons.inj heq
    rfl
  · contradiction

theorem isIdentifier_of_all {name : List Char} (hs : name.head?.any isNameStart = true)
    (ha : name.all isNameChar = true) : IsIdentifier name := by
  cases name with
  | nil => contradiction
  | cons c rest =>
    have hc : isNameStart c = true := hs
    have hne : c ≠ '-' := by
      rintro rfl
      exact absurd hc (by simp [isNameStart_hyphen])
    refine (isIdentifier_cons_iff hne).2 ⟨hc, fun d hd => ?_⟩
    exact List.all_eq_true.mp ha d (List.mem_cons_of_mem c hd)

/-- An identifier with the hyphen has another one behind it that has none. -/
theorem isIdentifier_hyphen_iff {name : List Char} :
    IsIdentifier ('-' :: name) ↔
      ∃ c rest, name = c :: rest ∧ isNameStart c = true ∧ ∀ d ∈ rest, isNameChar d = true := by
  cases name with
  | nil => simp [IsIdentifier, isNameStart_hyphen]
  | cons c rest =>
    simp only [IsIdentifier, List.cons.injEq]
    exact ⟨fun h => ⟨c, rest, ⟨rfl, rfl⟩, h⟩, fun ⟨_, _, ⟨hc, hr⟩, h⟩ => hc ▸ hr ▸ h⟩

/-- An identifier starts with a hyphen or a character that may start a name. -/
theorem exists_cons_of_isIdentifier {name : List Char} (h : IsIdentifier name) :
    ∃ c rest, name = c :: rest ∧ (c = '-' ∨ isNameStart c = true) := by
  cases name with
  | nil => exact h.elim
  | cons c rest =>
    by_cases hc : c = '-'
    · exact ⟨c, rest, rfl, .inl hc⟩
    · exact ⟨c, rest, rfl, .inr ((isIdentifier_cons_iff hc).1 h).1⟩

/-- An identifier is a name. -/
theorem isName_of_isIdentifier {name : List Char} (h : IsIdentifier name) : IsName name := by
  obtain ⟨c, rest, rfl, -⟩ := exists_cons_of_isIdentifier h
  refine ⟨List.cons_ne_nil c rest, ?_⟩
  have hyphen : isNameChar '-' = true := by decide
  by_cases hc : c = '-'
  · subst hc
    obtain ⟨d, rest, rfl, hd, hrest⟩ := isIdentifier_hyphen_iff.1 h
    simpa [hyphen, isNameChar_of_isNameStart hd] using hrest
  · obtain ⟨hstart, hrest⟩ := (isIdentifier_cons_iff hc).1 h
    simpa [isNameChar_of_isNameStart hstart] using hrest

theorem exists_cons_isNameChar {name : List Char} (h : IsIdentifier name) :
    ∃ c rest, name = c :: rest ∧ isNameChar c = true := by
  obtain ⟨c, rest, rfl, -⟩ := exists_cons_of_isIdentifier h
  exact ⟨c, rest, rfl, (isName_of_isIdentifier h).2 c List.mem_cons_self⟩

/-- No spacing stands in front of an identifier. -/
theorem not_startsBlank_of_isIdentifier {name : List Char} (h : IsIdentifier name)
    (rest : List Char) : startsBlank (name ++ rest) = false := by
  obtain ⟨c, tail, rfl, hc⟩ := exists_cons_isNameChar h
  exact not_startsBlank_of_isNameChar hc (tail ++ rest)

theorem readPlainIdentifier_append {c : Char} {name rest : List Char} (hc : isNameStart c = true)
    (h : ∀ d ∈ name, isNameChar d = true) (hr : Boundary rest) :
    readPlainIdentifier (c :: name ++ rest) = .ok (c :: name, rest) := by
  have hname : IsName (c :: name) :=
    ⟨List.cons_ne_nil c name, by simpa [isNameChar_of_isNameStart hc] using h⟩
  rw [List.cons_append, readPlainIdentifier, if_pos (by simp [hc]), ← List.cons_append]
  exact readName_append hname hr

/-- An identifier before a boundary is read as it stands. -/
theorem readIdentifier_append {name rest : List Char} (h : IsIdentifier name)
    (hr : Boundary rest) : readIdentifier (name ++ rest) = .ok (name, rest) := by
  obtain ⟨c, tail, rfl, -⟩ := exists_cons_of_isIdentifier h
  by_cases hc : c = '-'
  · subst hc
    obtain ⟨d, tail, rfl, hd, htail⟩ := isIdentifier_hyphen_iff.1 h
    rw [List.cons_append, readIdentifier, readPlainIdentifier_append hd htail hr]
    rfl
  · obtain ⟨hstart, htail⟩ := (isIdentifier_cons_iff hc).1 h
    rw [List.cons_append, readIdentifier, ← List.cons_append]
    · exact readPlainIdentifier_append hstart htail hr
    · intro after heq
      exact hc (List.cons.inj heq).1

/-- What is read as an identifier without a hyphen starts as a name does. -/
theorem exists_cons_of_readPlainIdentifier {cs name rest : List Char}
    (h : readPlainIdentifier cs = .ok (name, rest)) :
    cs = name ++ rest ∧
      ∃ c tail, name = c :: tail ∧ isNameStart c = true ∧ ∀ d ∈ tail, isNameChar d = true := by
  obtain ⟨⟨hne, hall⟩, hcs⟩ := isName_of_readName (readName_of_readPlainIdentifier h)
  refine ⟨hcs, ?_⟩
  cases name with
  | nil => exact absurd rfl hne
  | cons c tail =>
    refine ⟨c, tail, rfl, ?_, fun d hd => hall d (List.mem_cons_of_mem c hd)⟩
    have hc : isNameChar c = true := hall c List.mem_cons_self
    rw [hcs, List.cons_append, readPlainIdentifier] at h
    split at h
    · rename_i hstart
      rcases (Bool.or_eq_true _ _).mp hstart with hstart | hb
      · exact hstart
      · obtain rfl : c = '\\' := by simpa using hb
        exact absurd hc (by decide)
    · contradiction

/-- What is read as an identifier is one. -/
theorem isIdentifier_of_readIdentifier {cs name rest : List Char}
    (h : readIdentifier cs = .ok (name, rest)) : IsIdentifier name ∧ cs = name ++ rest := by
  unfold readIdentifier at h
  split at h
  · obtain ⟨⟨plain, after⟩, hp, he⟩ := exists_of_map_eq_ok h
    obtain ⟨rfl, rfl⟩ := Prod.mk.inj he
    obtain ⟨rfl, c, tail, rfl, hc, htail⟩ := exists_cons_of_readPlainIdentifier hp
    exact ⟨isIdentifier_hyphen_iff.2 ⟨c, tail, rfl, hc, htail⟩, rfl⟩
  · obtain ⟨rfl, c, tail, rfl, hc, htail⟩ := exists_cons_of_readPlainIdentifier h
    have hne : c ≠ '-' := by
      rintro rfl
      exact absurd hc (by simp [isNameStart_hyphen])
    exact ⟨(isIdentifier_cons_iff hne).2 ⟨hc, htail⟩, rfl⟩

end Grammar

end DocQuery
