import DocQuery.Proofs.Grammar.Bracketed

/-!
# What phrases start with

The first characters of compounds and qualifiers are apart from spacing and from everything that
ends a compound, so that one character shows whether a compound goes on.

- `Grammar.StartsQualifier`, `Grammar.StartsCompound`: the texts and characters in question.
- `Grammar.Derives.head`: what qualifiers and compounds start with.
- `Grammar.Derives.not_startsBlank`, `Grammar.apart_of_startsCompound`: what they do not start with.
-/

namespace DocQuery

namespace Grammar

/-! ## Qualifiers -/

/-- The text goes on with a qualifier. -/
def StartsQualifier (cs : List Char) : Prop := ∃ c ∈ cs.head?, c ∈ ['#', '.', '[', ':']

theorem StartsQualifier.exists_cons {cs : List Char} (h : StartsQualifier cs) :
    ∃ c tail, cs = c :: tail ∧ c ∈ ['#', '.', '[', ':'] := by
  obtain ⟨c, hc, hmem⟩ := h
  obtain ⟨tail, rfl⟩ := List.head?_eq_some_iff.1 hc
  exact ⟨c, tail, rfl, hmem⟩

theorem boundary_of_startsQualifier {cs : List Char} (h : StartsQualifier cs) : Boundary cs := by
  obtain ⟨c, tail, rfl, hmem⟩ := h.exists_cons
  exact boundary_mark (List.mem_append_left _ hmem) tail

theorem not_startsQualifier_nil : ¬ StartsQualifier [] := fun ⟨_, hc, _⟩ => nomatch hc

theorem not_startsQualifier_cons {c : Char} (h : c ∉ ['#', '.', '[', ':']) (cs : List Char) :
    ¬ StartsQualifier (c :: cs) := by
  rintro ⟨d, hd, hmem⟩
  obtain rfl : c = d := by simpa using hd
  exact h hmem

/-- What opens a qualifier is no spacing. -/
theorem not_startsBlank_of_mem {c : Char} (h : c ∈ ['#', '.', '[', ':']) (cs : List Char) :
    startsBlank (c :: cs) = false := by
  simp only [List.mem_cons, List.not_mem_nil, or_false] at h
  rcases h with rfl | rfl | rfl | rfl
  · rfl
  · rfl
  · rfl
  · rfl

theorem not_startsQualifier_of_startsBlank {cs : List Char} (h : startsBlank cs = true) :
    ¬ StartsQualifier cs := by
  intro hq
  obtain ⟨c, tail, rfl, hmem⟩ := hq.exists_cons
  rw [not_startsBlank_of_mem hmem tail] at h
  contradiction

/-- Spacing before the end of a compound belongs to that end. -/
theorem Blank.not_startsQualifier {cs rest : List Char} (h : Blank cs rest)
    (hr : ¬ StartsQualifier rest) : ¬ StartsQualifier cs := by
  by_cases hne : cs = rest
  · exact hne ▸ hr
  · exact not_startsQualifier_of_startsBlank (h.startsBlank_of_ne hne)

/-- A character that opens no qualifier ends the compound. -/
theorem not_startsQualifier_of_ne {cs : List Char} (hid : ∀ rest, cs = '#' :: rest → False)
    (hclass : ∀ rest, cs = '.' :: rest → False) (htest : ∀ rest, cs = '[' :: rest → False)
    (hpseudo : ∀ rest, cs = ':' :: rest → False) : ¬ StartsQualifier cs := by
  intro hq
  obtain ⟨c, tail, rfl, hmem⟩ := hq.exists_cons
  simp only [List.mem_cons, List.not_mem_nil, or_false] at hmem
  rcases hmem with rfl | rfl | rfl | rfl
  · exact hid tail rfl
  · exact hclass tail rfl
  · exact htest tail rfl
  · exact hpseudo tail rfl

/-! ## Compounds -/

/-- A compound that is not empty starts with a name, a star or a qualifier. -/
def StartsCompound (c : Char) : Prop := isNameChar c = true ∨ c = '*' ∨ c ∈ ['#', '.', '[', ':']

/-- The first character of each kind of phrase up to the compound. -/
theorem Derives.head {phrase : Phrase} {cs rest : List Char} {s : Selector}
    (h : Derives phrase cs s rest) :
    match phrase with
    | .qualifier => StartsQualifier cs
    | .parts => ∃ c tail, cs = c :: tail ∧ StartsCompound c
    | .compound => cs = [] ∨ ∃ c tail, cs = c :: tail ∧ StartsCompound c
    | _ => True := by
  induction h with
  | hasId _ => exact ⟨'#', rfl, by decide⟩
  | hasClass _ => exact ⟨'.', rfl, by decide⟩
  | present _ _ _ => exact ⟨'[', rfl, by decide⟩
  | compare _ _ _ _ _ _ _ => exact ⟨'[', rfl, by decide⟩
  | negation _ _ _ _ => exact ⟨':', rfl, by decide⟩
  | tag hname =>
    obtain ⟨c, tail, rfl, -⟩ := exists_cons_of_isIdentifier hname
    exact ⟨c, _, rfl, .inl ((isName_of_isIdentifier hname).2 c List.mem_cons_self)⟩
  | first _ ih =>
    obtain ⟨c, hc, hmem⟩ := ih
    obtain ⟨tail, rfl⟩ := List.head?_eq_some_iff.1 hc
    exact ⟨c, tail, rfl, .inr (.inr hmem)⟩
  | starred _ _ => exact ⟨'*', _, rfl, .inr (.inl rfl)⟩
  | more _ _ ih _ => exact ih
  | parts _ ih => exact .inr ih
  | star => exact .inr ⟨'*', _, rfl, .inr (.inl rfl)⟩
  | nothing => exact .inl rfl
  | start _ _ _ => trivial
  | combine _ _ _ _ _ => trivial
  | single _ _ _ => trivial
  | union _ _ _ _ _ => trivial

/-- No spacing stands in front of a compound. -/
theorem not_startsBlank_of_startsCompound {c : Char} (h : StartsCompound c) (cs : List Char) :
    startsBlank (c :: cs) = false := by
  rcases h with hname | rfl | hmem
  · exact not_startsBlank_of_isNameChar hname cs
  · rfl
  · exact not_startsBlank_of_mem hmem cs

theorem Derives.not_startsBlank {cs rest : List Char} {s : Selector}
    (h : Derives .compound cs s rest) : startsBlank cs = false := by
  rcases h.head with rfl | ⟨c, tail, rfl, hc⟩
  · rfl
  · exact not_startsBlank_of_startsCompound hc tail

/-- A compound starts with nothing that could end another one. -/
theorem apart_of_startsCompound {c : Char} (h : StartsCompound c) :
    c ≠ ',' ∧ c ≠ ')' ∧ Combinator.ofChar? c = none := by
  have hne : ∀ d ∈ [',', ')', '>', '+', '~'], c ≠ d := by
    rintro d hd rfl
    rcases h with hname | rfl | hmem
    · exact not_mem_marks_of_isNameChar hname (List.mem_append_right _ (List.mem_append_left _ hd))
    · exact absurd hd (by decide)
    · simp only [List.mem_cons, List.not_mem_nil, or_false] at hmem
      rcases hmem with rfl | rfl | rfl | rfl
      all_goals exact absurd hd (by decide)
  refine ⟨hne _ (by decide), hne _ (by decide), ?_⟩
  unfold Combinator.ofChar?
  split
  · exact absurd rfl (hne '>' (by decide))
  · exact absurd rfl (hne '+' (by decide))
  · exact absurd rfl (hne '~' (by decide))
  · rfl

/-! ## Chains -/

/-- Spacing may be put in front of a chain. -/
theorem Derives.of_blank {cs mid rest : List Char} {s : Selector} (h : Derives .chain mid s rest)
    (hb : Blank cs mid) : Derives .chain cs s rest := by
  generalize hphrase : Phrase.chain = phrase at h
  induction h with
  | start hmid hs _ => exact .start (hb.trans hmid) hs
  | combine _ hj hr ih _ => exact .combine (ih hb hphrase) hj hr
  | _ => contradiction

end Grammar

end DocQuery
