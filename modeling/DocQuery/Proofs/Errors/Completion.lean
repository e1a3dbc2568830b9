import DocQuery.Proofs.Errors.Truth
import DocQuery.Proofs.Grammar.Completeness
import DocQuery.Proofs.Grammar.Exchange

/-!
# Errors are not reported late

Text before the place of an error is good: it is the beginning of some selector. A completion is
built in three parts. What has been read before the failing step leads to the same draft in front
of another rest; the phrase that the step was reading is finished; and the negations that are open
are closed, one parenthesis for each.

One kind of place is an exception. The name of a pseudo-class is read as a whole before it is
looked up, so that a text that breaks off in the name, or behind it, may already have a wrong name.

- `Grammar.closing`: the parentheses that close the open negations.
- `Grammar.Completes`: the rests from which a draft comes to the end of a selector.
- `Grammar.readTest_error`, `Grammar.pseudoClass_error`, `Grammar.qualifier_error`: a qualifier that
  is not read can be finished from the place of the error.
- `Grammar.Reaches.completable_of_run`: so can the text of a run.
- `Selector.exists_parse_eq_ok_of_error`: and every text.
-/

namespace DocQuery

namespace Grammar

/-! ## Closing what is open -/

/-- One parenthesis for every open negation. -/
def closing (negations : List Negation) : List Char := negations.map fun _ => ')'

theorem endsGroup_closing (negations : List Negation) : EndsGroup (closing negations) := by
  cases negations with
  | nil => exact .inl rfl
  | cons negation others => exact .inr (.inr ⟨closing others, rfl⟩)

/-- A group that stands in front of the closing parentheses completes the text, by induction on
the open negations: each makes the group a part of the compound around it. -/
theorem NegationsReach.exists_derives {text group : List Char} {negations : List Negation}
    {s : Selector} (h : NegationsReach text negations group)
    (hg : Derives .group group s (closing negations)) : ∃ t, Derives .group text t [] := by
  induction negations generalizing group s with
  | nil =>
    obtain rfl : text = group := h
    exact ⟨s, hg⟩
  | cons negation others ih =>
    obtain ⟨outer, right, name, hothers, houter, hparts, hid, hl⟩ := h
    have hq : Derives .qualifier (':' :: (name ++ '(' :: group)) (.not s) (closing others) :=
      .negation hid hl hg
    have hs := (hparts.joinPart hq).derives (endsGroup_closing others).not_startsQualifier
    exact ih hothers (houter.derives_close hs .nil)

/-- Whatever text has led to the draft, with the characters behind it it is a selector. -/
def Completes (draft : Draft) (cs : List Char) : Prop :=
  ∀ text, Reaches text draft cs → ∃ s, Derives .group text s []

theorem completes_of_blank {draft : Draft} {cs : List Char}
    (h : Blank cs (closing draft.negations)) : Completes draft cs := by
  rintro text ⟨group, right, hn, hp, hparts⟩
  have hcs := h.not_startsQualifier (endsGroup_closing draft.negations).not_startsQualifier
  exact hn.exists_derives (hp.derives_close (hparts.derives hcs) h)

theorem completes_of_qualifier {draft : Draft} {cs : List Char} {q : Selector}
    (h : Derives .qualifier cs q (closing draft.negations)) : Completes draft cs := by
  intro text hd
  have hcompletes : Completes (draft.addPart q) (closing draft.negations) :=
    completes_of_blank .nil
  exact hcompletes text (hd.addPart h)

/-- A comma and a name behind it complete the text. -/
theorem completes_of_comma {draft : Draft} {cs after name : List Char}
    (hb : Blank cs (',' :: after)) (ha : Blank after (name ++ closing draft.negations))
    (h : IsIdentifier name) : Completes draft cs := by
  rintro text ⟨group, right, hn, hp, hparts⟩
  have hcs := hb.not_startsQualifier (not_startsQualifier_cons (by decide) after)
  have hnext := hp.comma (hparts.derives hcs) hb ha
  exact hn.exists_derives (hnext.derives_close (.parts (.tag h)) .nil)

theorem Joint.not_startsQualifier {mid right : List Char} {k : Combinator}
    (h : Joint mid k right) : ¬ StartsQualifier mid := by
  cases h with
  | sign hl hs _ =>
    refine hl.not_startsQualifier (not_startsQualifier_cons ?_ _)
    cases hs
    all_goals decide
  | blank hb hne _ => exact not_startsQualifier_of_startsBlank (hb.startsBlank_of_ne hne)

/-- A combinator and a name behind it complete the text. -/
theorem completes_of_joint {draft : Draft} {cs name : List Char} {k : Combinator}
    (hj : Joint cs k (name ++ closing draft.negations)) (h : IsIdentifier name) :
    Completes draft cs := by
  rintro text ⟨group, right, hn, hp, hparts⟩
  have hnext := hp.combinator (hparts.derives hj.not_startsQualifier) hj
  exact hn.exists_derives (hnext.derives_close (.parts (.tag h)) .nil)

/-! ## Names behind spacing -/

/-- A name that breaks off behind spacing is completed by one letter; a comment that is still open
has to be closed first. -/
theorem exists_blank_of_isIdentifier {cs part place : List Char} (h : skipBlank cs = part ++ place)
    (hid : IsIdentifier (part ++ ['a'])) :
    ∃ front more name, cs = front ++ place ∧ IsIdentifier name ∧
      ∀ other, Blank (front ++ (more ++ other)) (name ++ other) := by
  obtain ⟨front, close, hfront, hblank⟩ := (h ▸ blank_skipBlank cs).exists_closing_append
  refine ⟨front, close ++ ['a'], part ++ ['a'], hfront, hid, fun other => ?_⟩
  simpa using hblank ('a' :: other)

theorem exists_blank_of_readIdentifier {cs place : List Char} {e : Stop}
    (h : readIdentifier (skipBlank cs) = .error e) (hp : e.place? = some place) :
    ∃ front more name, cs = front ++ place ∧ IsIdentifier name ∧
      ∀ other, Blank (front ++ (more ++ other)) (name ++ other) := by
  obtain ⟨part, rest, heq, htells, hident⟩ := readIdentifier_error h
  obtain rfl := htells.place?_eq hp
  exact exists_blank_of_isIdentifier heq hident

theorem exists_blank_of_openCompound {cs place : List Char} {e : Stop}
    (h : openCompound (skipBlank cs) = .error e) (hp : e.place? = some place) :
    ∃ front more name, cs = front ++ place ∧ IsIdentifier name ∧
      ∀ other, Blank (front ++ (more ++ other)) (name ++ other) := by
  obtain ⟨part, rest, heq, htells, hident, -⟩ := openCompound_error h
  obtain rfl := htells.place?_eq hp
  exact exists_blank_of_isIdentifier heq hident

/-- A name alone is a group. -/
theorem Blank.exists_derives_group {cs name rest : List Char} (hb : Blank cs (name ++ rest))
    (h : IsIdentifier name) : ∃ s, Derives .group cs s rest :=
  ⟨_, .single (.start hb (.parts (.tag h))) .nil⟩

/-! ## Attribute tests -/

/-- What may stand behind the name of a test and the spacing after it. -/
def EndsTest (cs rest : List Char) : Prop :=
  cs = ']' :: rest ∨ ∃ operator comparison right valueText value after,
    cs = operator ++ right ∧ Operator operator comparison ∧ Blank right valueText ∧
      Value valueText value after ∧ Blank after (']' :: rest)

theorem EndsTest.exists_derives {cs name mid after rest : List Char} (h : EndsTest after rest)
    (hn : Blank cs (name ++ mid)) (hname : IsIdentifier name) (hb : Blank mid after) :
    ∃ q, Derives .qualifier ('[' :: cs) q rest := by
  rcases h with rfl | ⟨operator, comparison, right, valueText, value, after, rfl, ho, hr, hv, ha⟩
  · exact ⟨_, .present hn hname hb⟩
  · exact ⟨_, .compare hn hname hb ho hr hv ha⟩

/-- The characters are the beginning of a qualifier. -/
def OpensQualifier (before : List Char) : Prop :=
  ∃ more, ∀ rest, ∃ q, Derives .qualifier (before ++ (more ++ rest)) q rest

/-- A test that breaks off behind its name can be finished there. -/
theorem readTestOf_error {name : String} {cs place : List Char} {e : Stop}
    (h : readTestOf name cs = .error e) (hp : e.place? = some place) :
    ∃ before more, cs = before ++ place ∧ ∀ rest, EndsTest (before ++ (more ++ rest)) rest := by
  have hstart : cs = place → ∃ before more, cs = before ++ place ∧
      ∀ rest, EndsTest (before ++ (more ++ rest)) rest :=
    fun heq => ⟨[], [']'], heq, fun rest => .inl rfl⟩
  unfold readTestOf at h
  split at h
  · obtain rfl := Except.error.inj h
    exact hstart (Option.some.inj hp)
  · contradiction
  · rcases error_or_exists_of_bind_eq_error h with ho | ⟨⟨comparison, right⟩, ho, hright⟩
    · exact hstart ((readOperator_error ho).place?_eq hp).symm
    · obtain ⟨operator, hop, rfl⟩ := operator_of_readOperator ho
      rcases error_or_exists_of_bind_eq_error hright with hv | ⟨⟨value, after⟩, hv, hafter⟩
      · obtain ⟨part, rest, heq, htells, more, value, hvalue⟩ := readValue_error hv
        obtain rfl := htells.place?_eq hp
        obtain ⟨space, close, rfl, hspace⟩ := (heq ▸ blank_skipBlank right).exists_closing_append
        refine ⟨operator ++ space, close ++ (more ++ [']']), by simp, fun rest => .inr ?_⟩
        refine ⟨operator, comparison, _, _, value, _, ?_, hop, hspace (more ++ ']' :: rest),
          hvalue (']' :: rest), .nil⟩
        simp
      · obtain ⟨quoted, heq, hquoted, hvalue⟩ := (value_of_readValue hv).exists_append
        obtain ⟨space, rfl, hspace⟩ := (heq ▸ blank_skipBlank right).exists_append
          (List.append_ne_nil_of_left_ne_nil hquoted after)
        rcases error_or_exists_of_bind_eq_error hafter with hc | ⟨_, -, hdone⟩
        · obtain rfl := (closeBracket_error hc).place?_eq hp
          obtain ⟨front, close, hfront, -, hblank⟩ := (blank_skipBlank after).exists_closing
          refine ⟨operator ++ (space ++ (quoted ++ front)), close ++ [']'], ?_,
            fun rest => .inr ?_⟩
          · rw [List.append_assoc, List.append_assoc, List.append_assoc, ← hfront]
          · refine ⟨operator, comparison, _, _, value, _, ?_, hop,
              hspace (quoted ++ (front ++ (close ++ ']' :: rest))), hvalue _, hblank (']' :: rest)⟩
            simp
        · contradiction

/-- A test that is not read can be finished from the place of the error. -/
theorem readTest_error {cs place : List Char} {e : Stop} (h : readTest cs = .error e)
    (hp : e.place? = some place) :
    ∃ before, cs = before ++ place ∧ OpensQualifier ('[' :: before) := by
  rcases error_or_exists_of_bind_eq_error h with hn | ⟨⟨name, mid⟩, hn, h⟩
  · obtain ⟨front, more, name, rfl, hname, hblank⟩ := exists_blank_of_readIdentifier hn hp
    refine ⟨front, rfl, more ++ [']'], fun rest => ?_⟩
    have hq := Derives.present (hblank (']' :: rest)) hname .nil
    exact ⟨_, by simpa using hq⟩
  · obtain ⟨hid, heq⟩ := isIdentifier_of_readIdentifier hn
    obtain ⟨part, more, hpart, htest⟩ := readTestOf_error h hp
    obtain ⟨between, close, rfl, hbetween⟩ := (hpart ▸ blank_skipBlank mid).exists_closing_append
    obtain ⟨front, rfl, hfront⟩ := (heq ▸ blank_skipBlank cs).exists_append
      (List.append_ne_nil_of_left_ne_nil (isName_of_isIdentifier hid).1 _)
    refine ⟨front ++ (name ++ between), by simp, close ++ more, fun rest => ?_⟩
    have hq := (htest rest).exists_derives (hfront _) hid (hbetween (more ++ rest))
    simpa using hq

/-! ## Pseudo-classes -/

/-- The text breaks off in the name of a pseudo-class or right behind it. -/
def EndsInPseudoClass (before : List Char) : Prop :=
  ∃ front name, before = front ++ ':' :: name ∧ IsName name

theorem EndsInPseudoClass.append_left {before : List Char} (h : EndsInPseudoClass before)
    (front : List Char) : EndsInPseudoClass (front ++ before) := by
  obtain ⟨start, name, rfl, hname⟩ := h
  exact ⟨front ++ start, name, (List.append_assoc _ _ _).symm, hname⟩

theorem opensQualifier_colon : OpensQualifier [':'] := by
  refine ⟨['n', 'o', 't', '(', 'a', ')'], fun rest => ?_⟩
  have hname : IsIdentifier ['a'] := isIdentifier_of_all (by decide) (by decide)
  have hblank : Blank ('a' :: ')' :: rest) (['a'] ++ ')' :: rest) := .nil
  obtain ⟨s, hs⟩ := hblank.exists_derives_group hname
  have hnot : IsIdentifier ['n', 'o', 't'] := isIdentifier_of_all (by decide) (by decide)
  exact ⟨_, .negation hnot (by decide) hs⟩

/-- A negation that does not open misses its parenthesis, or its first name is completed by one
letter. -/
theorem openNegation_error {draft : Draft} {name cs place : List Char} {e : Stop}
    (hid : IsIdentifier name) (hl : Text.lowerCase name = "not".toList)
    (h : draft.openNegation cs = .error e) (hp : e.place? = some place) :
    ∃ before, ':' :: (name ++ cs) = before ++ place ∧
      (EndsInPseudoClass before ∨ OpensQualifier before) := by
  unfold Draft.openNegation at h
  split at h
  · rename_i inner
    obtain ⟨front, more, first, rfl, hfirst, hblank⟩ :=
      exists_blank_of_openCompound (eq_error_of_map_eq_error h) hp
    refine ⟨':' :: (name ++ '(' :: front), by simp, .inr ⟨more ++ [')'], fun rest => ?_⟩⟩
    obtain ⟨s, hs⟩ := (hblank (')' :: rest)).exists_derives_group hfirst
    have hq := Derives.negation hid hl hs
    exact ⟨_, by simpa using hq⟩
  · obtain rfl := Except.error.inj h
    obtain rfl := Option.some.inj hp
    exact ⟨':' :: name, rfl, .inl ⟨[], name, rfl, isName_of_isIdentifier hid⟩⟩

/-- A pseudo-class that is not read breaks off in its name, or it can be finished from the place of
the error. -/
theorem pseudoClass_error {draft : Draft} {cs place : List Char} {e : Stop}
    (h : draft.pseudoClass cs = .error e) (hp : e.place? = some place) :
    ∃ before, ':' :: cs = before ++ place ∧
      (EndsInPseudoClass before ∨ OpensQualifier before) := by
  rcases error_or_exists_of_bind_eq_error h with hn | ⟨⟨name, after⟩, hn, hopen⟩
  · obtain ⟨part, rest, rfl, htells, hident⟩ := readIdentifier_error hn
    obtain rfl := htells.place?_eq hp
    refine ⟨':' :: part, rfl, ?_⟩
    by_cases hpart : part = []
    · subst hpart
      exact .inr opensQualifier_colon
    · refine .inl ⟨[], part, rfl, hpart, fun c hc => ?_⟩
      exact (isName_of_isIdentifier hident).2 c (List.mem_append_left _ hc)
  · obtain ⟨hid, rfl⟩ := isIdentifier_of_readIdentifier hn
    dsimp only at hopen
    split at hopen
    · rename_i hnot
      have hl : Text.lowerCase name = "not".toList := by rw [← hnot, String.toList_ofList]
      exact openNegation_error hid hl hopen hp
    · split at hopen
      · obtain rfl := Except.error.inj hopen
        contradiction
      -- a name that is not known is blamed where it begins
      · obtain rfl := Except.error.inj hopen
        obtain rfl := Option.some.inj hp
        exact ⟨[':'], rfl, .inr opensQualifier_colon⟩

/-! ## Steps -/

/-- A name that is not read is completed by one letter. -/
theorem exists_isName_of_readName {cs place : List Char} {e : Stop} (h : readName cs = .error e)
    (hp : e.place? = some place) : ∃ before, cs = before ++ place ∧ IsName (before ++ ['a']) := by
  have ha : isNameChar 'a' = true := by decide
  rcases readName_error h with ⟨name, after, rfl, hname, rfl⟩ | ⟨-, rfl⟩
  · obtain rfl := Option.some.inj hp
    refine ⟨name, rfl, by simp, ?_⟩
    simpa [or_imp, forall_and, ha] using hname
  · obtain rfl := Option.some.inj hp
    exact ⟨[], rfl, by simp, by simp [ha]⟩

/-- The errors of steps that read a qualifier. -/
theorem qualifier_error {draft : Draft} {cs place : List Char} {e : Stop}
    (hcs : StartsQualifier cs) (h : draft.step cs = .error e) (hp : e.place? = some place) :
    ∃ before, cs = before ++ place ∧ (EndsInPseudoClass before ∨ OpensQualifier before) := by
  unfold Draft.step at h
  split at h
  · obtain ⟨before, rfl, hname⟩ := exists_isName_of_readName (eq_error_of_map_eq_error h) hp
    refine ⟨'#' :: before, rfl, .inr ⟨['a'], fun rest => ?_⟩⟩
    have hq : Derives .qualifier ('#' :: ((before ++ ['a']) ++ rest)) _ rest := .hasId hname
    rw [List.append_assoc] at hq
    exact ⟨_, hq⟩
  · obtain ⟨before, rest, rfl, htells, hident⟩ :=
      readIdentifier_error (eq_error_of_map_eq_error h)
    obtain rfl := htells.place?_eq hp
    refine ⟨'.' :: before, rfl, .inr ⟨['a'], fun rest => ?_⟩⟩
    have hq : Derives .qualifier ('.' :: ((before ++ ['a']) ++ rest)) _ rest := .hasClass hident
    rw [List.append_assoc] at hq
    exact ⟨_, hq⟩
  · obtain ⟨before, rfl, hopens⟩ := readTest_error (eq_error_of_map_eq_error h) hp
    exact ⟨'[' :: before, rfl, .inr hopens⟩
  · exact pseudoClass_error h hp
  · rename_i hid hclass htest hpseudo
    exact absurd hcs (not_startsQualifier_of_ne hid hclass htest hpseudo)

/-- Where a compound ends and nothing that may follow it does, the selector could have ended. -/
theorem Blank.exists_completes {cs place : List Char} (h : Blank cs place) (draft : Draft) :
    ∃ before more, cs = before ++ place ∧ Completes draft (before ++ more) := by
  obtain ⟨front, close, rfl, -, hblank⟩ := h.exists_closing
  exact ⟨front, close ++ closing draft.negations, rfl, completes_of_blank (hblank _)⟩

/-- Spacing in front of a compound that is not read is still a combinator in front of another
one. -/
theorem exists_joint_of_nextCompound {draft : Draft} {cs place : List Char} {e : Stop}
    (hcs : startsBlank cs = true) (h : draft.nextCompound (skipBlank cs) = .error e)
    (hp : e.place? = some place) :
    ∃ front name, cs = front ++ place ∧ IsIdentifier name ∧
      ∀ other, Joint (front ++ 'a' :: other) .descendant (name ++ other) := by
  obtain ⟨part, rest, heq, htells, hident, hne⟩ :=
    openCompound_error (eq_error_of_map_eq_error h)
  obtain rfl := htells.place?_eq hp
  obtain ⟨front, hfront, hblank⟩ := (blank_skipBlank cs).exists_append hne
  have hspace : front ≠ [] := by
    rintro rfl
    have hshorter := (advances_skipBlank hcs).shorter
    rw [List.nil_append] at hfront
    rw [← hfront] at hshorter
    exact Nat.lt_irrefl _ hshorter
  refine ⟨front ++ part, part ++ ['a'], by rw [hfront, heq, List.append_assoc], hident,
    fun other => ?_⟩
  rw [List.append_assoc, List.append_assoc]
  exact .blank (hblank _) (by simpa using hspace) (by simp)

/-- The errors of steps at the end of a compound. -/
theorem endCompound_error {draft : Draft} {cs place : List Char} {e : Stop}
    (h : draft.endCompound cs = .error e) (hp : e.place? = some place) :
    ∃ before more, cs = before ++ place ∧ Completes draft (before ++ more) := by
  have hb : Blank cs (skipBlank cs) := blank_skipBlank cs
  unfold Draft.endCompound at h
  split at h
  · rename_i heq
    rw [heq] at hb
    unfold Draft.endText at h
    split at h
    · contradiction
    · obtain rfl := Except.error.inj h
      obtain rfl := Option.some.inj hp
      exact hb.exists_completes draft
  · rename_i rest heq
    rw [heq] at hb
    obtain ⟨front, rfl, hfront⟩ := hb.exists_append (List.cons_ne_nil _ _)
    obtain ⟨space, more, name, rfl, hname, hblank⟩ :=
      exists_blank_of_openCompound (eq_error_of_map_eq_error h) hp
    refine ⟨front ++ ',' :: space, more ++ closing draft.negations, by simp, ?_⟩
    rw [List.append_assoc]
    exact completes_of_comma (hfront _) (hblank _) hname
  · rename_i rest heq
    rw [heq] at hb
    unfold Draft.closeNegation at h
    split at h
    · obtain rfl := Except.error.inj h
      obtain rfl := Option.some.inj hp
      exact hb.exists_completes draft
    · contradiction
  · rename_i c rest _ _ heq
    rw [heq] at hb
    split at h
    · rename_i k hk
      obtain ⟨front, rfl, hfront⟩ := hb.exists_append (List.cons_ne_nil _ _)
      obtain ⟨space, more, name, rfl, hname, hblank⟩ :=
        exists_blank_of_openCompound (eq_error_of_map_eq_error h) hp
      refine ⟨front ++ c :: space, more ++ closing draft.negations, by simp, ?_⟩
      rw [List.append_assoc]
      exact completes_of_joint (.sign (hfront _) (sign_of_ofChar? hk) (hblank _)) hname
    · split at h
      · rename_i hspace
        obtain ⟨front, name, rfl, hname, hjoint⟩ :=
          exists_joint_of_nextCompound hspace (heq ▸ h) hp
        exact ⟨front, 'a' :: closing draft.negations, rfl, completes_of_joint (hjoint _) hname⟩
      · obtain rfl := Except.error.inj h
        obtain rfl := Option.some.inj hp
        exact hb.exists_completes draft

/-- **The errors of a step**: it breaks off in the name of a pseudo-class, or from the place of the
error the text can be completed. At the end of the text and in front of a qualifier the completion
goes on with a qualifier, too. -/
theorem step_error {draft : Draft} {cs place : List Char} {e : Stop}
    (h : draft.step cs = .error e) (hp : e.place? = some place) :
    ∃ before, cs = before ++ place ∧ (EndsInPseudoClass before ∨
      ∃ more, (cs = [] ∨ StartsQualifier cs → StartsQualifier (before ++ more)) ∧
        Completes draft (before ++ more)) := by
  have hqualifier : ∀ {before : List Char}, OpensQualifier before →
      ∃ more, StartsQualifier (before ++ more) ∧ Completes draft (before ++ more) := by
    rintro before ⟨more, hmore⟩
    obtain ⟨q, hq⟩ := hmore (closing draft.negations)
    exact ⟨more ++ closing draft.negations, hq.head, completes_of_qualifier hq⟩
  by_cases hcs : StartsQualifier cs
  · obtain ⟨before, heq, hends | hopens⟩ := qualifier_error hcs h hp
    · exact ⟨before, heq, .inl hends⟩
    · obtain ⟨more, hstarts, hcompletes⟩ := hqualifier hopens
      exact ⟨before, heq, .inr ⟨more, fun _ => hstarts, hcompletes⟩⟩
  · by_cases hnil : cs = []
    · subst hnil
      have hplace := List.suffix_nil.1 ((Draft.tells_of_step h).place?_suffix hp)
      obtain ⟨more, hstarts, hcompletes⟩ := hqualifier opensQualifier_colon
      exact ⟨[], hplace.symm, .inr ⟨':' :: more, fun _ => hstarts, hcompletes⟩⟩
    · rw [step_eq_endCompound hcs] at h
      obtain ⟨before, more, heq, hcompletes⟩ := endCompound_error h hp
      exact ⟨before, heq, .inr ⟨more, fun hor => absurd hor (not_or.2 ⟨hnil, hcs⟩), hcompletes⟩⟩

/-! ## Whole texts -/

/-- The characters are the beginning of a selector. -/
def Completable (before : List Char) : Prop := ∃ more s, Derives .group (before ++ more) s []

/-- A step is completed in the text that has led to it. -/
theorem Reaches.completable {text cs place before more : List Char} {draft : Draft}
    (hd : Reaches text draft cs) (heq : cs = before ++ place)
    (hstarts : cs = [] ∨ StartsQualifier cs → StartsQualifier (before ++ more))
    (hmore : Completes draft (before ++ more)) :
    ∃ front, text = front ++ place ∧ Completable front := by
  obtain ⟨front, close, rfl, hclose, hreaches⟩ := hd.exchange
  obtain ⟨s, hs⟩ := hmore _ (hreaches _ hstarts)
  subst heq
  by_cases hnil : before ++ place = []
  · obtain ⟨rfl, rfl⟩ := List.append_eq_nil_iff.1 hnil
    exact ⟨front, by simp, close ++ more, s, by simpa using hs⟩
  · obtain rfl := hclose hnil
    exact ⟨front ++ before, by simp, more, s, by simpa using hs⟩

/-- The errors of a run are those of its last step. -/
theorem Reaches.completable_of_run {text cs place : List Char} {draft : Draft} {e : Stop}
    (hd : Reaches text draft cs) (h : draft.run cs = .error e) (hp : e.place? = some place) :
    ∃ before, text = before ++ place ∧ (EndsInPseudoClass before ∨ Completable before) := by
  fun_induction Draft.run draft cs with
  | case1 draft cs e' hstep =>
    obtain rfl := Except.error.inj h
    obtain ⟨before, heq, hends | ⟨more, hstarts, hcompletes⟩⟩ := step_error hstep hp
    · obtain ⟨front, close, rfl, -, -⟩ := hd.exchange
      exact ⟨front ++ before, by rw [heq, List.append_assoc], .inl (hends.append_left front)⟩
    · obtain ⟨front, htext, hfront⟩ := hd.completable heq hstarts hcompletes
      exact ⟨front, htext, .inr hfront⟩
  | case2 draft cs s hstep => contradiction
  | case3 draft cs next rest hstep ih => exact ih (hd.step hstep) h

theorem completable_of_parseChars {text place : List Char} {e : Stop}
    (h : parseChars text = .error e) (hp : e.place? = some place) :
    ∃ before, text = before ++ place ∧ (EndsInPseudoClass before ∨ Completable before) := by
  rcases error_or_exists_of_bind_eq_error h with ho | ⟨⟨parts, rest⟩, ho, hrun⟩
  -- the text breaks off in the name at its very start
  · obtain ⟨front, more, name, rfl, hname, hblank⟩ := exists_blank_of_openCompound ho hp
    have hend : Blank (front ++ more) (name ++ []) := by simpa using hblank []
    exact ⟨front, rfl, .inr ⟨more, hend.exists_derives_group hname⟩⟩
  · exact (Reaches.openCompound ho).completable_of_run hrun hp

end Grammar

namespace Selector

open Grammar

/-- **No error is reported late**: the place of an error splits the text, and the part before it is
the beginning of a selector, unless it breaks off in the name of a pseudo-class or right behind
it. -/
theorem exists_parse_eq_ok_of_error (text : String) (e : ParseError Nat) (offset : Nat)
    (h : parse text = .error e) (hp : e.place? = some offset) :
    ∃ before rest : String, text = before ++ rest ∧ before.utf8ByteSize = offset ∧
      (¬ EndsInPseudoClass before.toList →
        ∃ (more : String) (s : Selector), parse (before ++ more) = .ok s) := by
  obtain ⟨stop, hstop, rfl⟩ := exists_of_parse_eq_error h
  rw [ParseError.place?_map] at hp
  obtain ⟨place, hplace, rfl⟩ := Option.map_eq_some_iff.1 hp
  obtain ⟨before, heq, hgood⟩ := completable_of_parseChars hstop hplace
  refine ⟨String.ofList before, String.ofList place, ?_, ?_, fun hname => ?_⟩
  · rw [← String.ofList_append, ← heq, String.ofList_toList]
  · rw [heq, offsetOf_append, ← byteLength_toList, String.toList_ofList]
  · rw [String.toList_ofList] at hname
    obtain ⟨more, s, hs⟩ := hgood.resolve_left hname
    refine ⟨String.ofList more, s, ?_⟩
    rw [parse_eq_ok_iff_derives, String.toList_append, String.toList_ofList, String.toList_ofList]
    exact hs

/-- A backslash in a quoted value, in a test and a negation that are both still open. -/
theorem exists_parse_eq_ok_of_error_escape :
    parse "é :not([b='/*\\a" = .error (.escape 14) ∧
      ∃ (more : String) (s : Selector), parse ("é :not([b='/*" ++ more) = .ok s := by
  have h : parse "é :not([b='/*\\a" = .error (.escape 14) := by decide +kernel
  refine ⟨h, ?_⟩
  obtain ⟨before, rest, htext, hsize, hmore⟩ := exists_parse_eq_ok_of_error _ _ 14 h rfl
  have hsplit : before.toList ++ rest.toList = "é :not([b='/*".toList ++ "\\a".toList := by
    rw [← String.toList_append, ← htext]
    rfl
  obtain rfl : before = "é :not([b='/*" := by
    refine String.toList_injective (append_inj_of_byteLength hsplit ?_).1
    rw [byteLength_toList, hsize]
    rfl
  refine hmore ?_
  rintro ⟨front, name, heq, hne, hall⟩
  -- the last character is in no name
  have hlast := congrArg List.getLast? heq
  rw [List.getLast?_append, List.getLast?_cons_of_ne_nil hne,
    List.getLast?_eq_some_getLast hne] at hlast
  have hstar : name.getLast hne = '*' := (Option.some.inj hlast).symm
  exact absurd (hall '*' (hstar ▸ List.getLast_mem hne)) (by decide)

end Selector

end DocQuery
