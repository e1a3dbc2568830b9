import DocQuery.Proofs.Grammar.Soundness

/-!
# What follows the grammar is read

A derivation may stop a word early or leave spacing behind, and it is the phrase after it that
shows where to stop. So each phrase is read as it stands under a condition on what follows it:
nothing that would make a longer word, and behind a group the end of the text, a comma or a
closing parenthesis.

- `Grammar.startRun`: the run from the start of a compound.
- `Grammar.IsRead`: what a run makes of a phrase, for each kind of phrase.
- `Grammar.Derives.isRead`: every phrase is read so, by induction on its derivation.
- `Grammar.parseChars_eq_ok_iff`: a text is read as a selector exactly if the grammar derives it.
-/

namespace DocQuery

namespace Grammar

/-! ## Runs from the start of a compound -/

/-- Reads from the start of a compound on. -/
def startRun (draft : Draft) (cs : List Char) : Except Stop Selector := do
  let (parts, rest) ← openCompound cs
  Draft.run { draft with parts } rest

theorem startRun_eq {cs rest : List Char} {parts : Option Selector}
    (h : openCompound cs = .ok (parts, rest)) (draft : Draft) :
    startRun draft cs = Draft.run { draft with parts } rest := by
  rw [startRun, h]
  rfl

/-- What a run does is decided by its next step. -/
theorem run_congr {draft draft' : Draft} {cs cs' : List Char}
    (h : draft.step cs = draft'.step cs') : draft.run cs = draft'.run cs' := by
  cases hs : draft'.step cs' with
  | error e => rw [Draft.run_of_error (h.trans hs), Draft.run_of_error hs]
  | ok progress =>
    cases progress with
    | finished s => rw [Draft.run_of_finished (h.trans hs), Draft.run_of_finished hs]
    | reading next rest => rw [Draft.run_of_reading (h.trans hs), Draft.run_of_reading hs]

theorem run_of_nextCompound {draft next : Draft} {cs right : List Char}
    (h : draft.step cs = next.nextCompound right) : draft.run cs = startRun next right := by
  cases ho : openCompound right with
  | error e =>
    rw [Draft.nextCompound, continueWith, ho] at h
    rw [Draft.run_of_error h, startRun, ho]
    rfl
  | ok pair =>
    rw [Draft.nextCompound, continueWith, ho] at h
    rw [Draft.run_of_reading h, startRun_eq ho]

/-! ## Steps where a compound ends -/

theorem step_eq_endCompound {cs : List Char} (h : ¬ StartsQualifier cs) (draft : Draft) :
    draft.step cs = draft.endCompound cs := by
  unfold Draft.step
  split
  · exact absurd ⟨'#', rfl, by decide⟩ h
  · exact absurd ⟨'.', rfl, by decide⟩ h
  · exact absurd ⟨'[', rfl, by decide⟩ h
  · exact absurd ⟨':', rfl, by decide⟩ h
  · rfl

/-- Between two compounds a run goes on with the right one. -/
theorem run_joint {mid right : List Char} {k : Combinator} (h : Joint mid k right)
    (hr : right = [] ∨ ∃ c tail, right = c :: tail ∧ StartsCompound c) (draft : Draft) :
    draft.run mid =
      startRun { draft with pending := draft.pending.combinator draft.compound k } right := by
  have hblank : startsBlank right = false := by
    rcases hr with rfl | ⟨c, tail, rfl, hc⟩
    · rfl
    · exact not_startsBlank_of_startsCompound hc tail
  apply run_of_nextCompound
  cases h with
  | sign hl hs hright =>
    -- the run skips the spacing behind the sign by itself, so that this is rewritten backwards
    have hskip := hright.skipBlank_eq_rest hblank
    cases hs
    all_goals
      rw [step_eq_endCompound (hl.not_startsQualifier (not_startsQualifier_cons (by decide) _)),
        Draft.endCompound, hl.skipBlank_eq_rest rfl, ← hskip]
      rfl
  | blank hb hne hnil =>
    have hmid := hb.startsBlank_of_ne hne
    rw [step_eq_endCompound (not_startsQualifier_of_startsBlank hmid), Draft.endCompound,
      hb.skipBlank_eq_rest hblank]
    obtain ⟨c, tail, rfl, hc⟩ := hr.resolve_left hnil
    -- no comma, parenthesis or sign takes the spacing over
    obtain ⟨hcomma, hparen, hsign⟩ := apart_of_startsCompound hc
    split
    · contradiction
    · rename_i heq
      exact absurd (List.cons.inj heq).1 hcomma
    · rename_i heq
      exact absurd (List.cons.inj heq).1 hparen
    · rename_i heq
      obtain ⟨rfl, rfl⟩ := List.cons.inj heq
      rw [hsign, hmid]
      rfl

/-- What may follow a group: the end of the text, a comma, or a closing parenthesis. -/
def EndsGroup (rest : List Char) : Prop :=
  rest = [] ∨ (∃ tail, rest = ',' :: tail) ∨ ∃ tail, rest = ')' :: tail

theorem EndsGroup.boundary {rest : List Char} (h : EndsGroup rest) : Boundary rest := by
  rcases h with rfl | ⟨tail, rfl⟩ | ⟨tail, rfl⟩
  · exact boundary_nil
  · exact boundary_mark (by decide) tail
  · exact boundary_mark (by decide) tail

theorem EndsGroup.not_startsQualifier {rest : List Char} (h : EndsGroup rest) :
    ¬ StartsQualifier rest := by
  rcases h with rfl | ⟨tail, rfl⟩ | ⟨tail, rfl⟩
  · exact not_startsQualifier_nil
  · exact not_startsQualifier_cons (by decide) tail
  · exact not_startsQualifier_cons (by decide) tail

/-- Spacing at the end of a group is passed over. -/
theorem run_of_blank {mid rest : List Char} (hb : Blank mid rest) (hr : EndsGroup rest)
    (draft : Draft) : draft.run mid = draft.run rest := by
  apply run_congr
  rw [step_eq_endCompound (hb.not_startsQualifier hr.not_startsQualifier),
    step_eq_endCompound hr.not_startsQualifier, Draft.endCompound, Draft.endCompound,
    hb.skipBlank_eq]
  rcases hr with rfl | ⟨tail, rfl⟩ | ⟨tail, rfl⟩
  · rw [skipBlank_of_not_startsBlank rfl]
  · rw [skipBlank_of_not_startsBlank rfl]
    rfl
  · rw [skipBlank_of_not_startsBlank rfl]
    rfl

theorem run_nil (pending : Pending) (parts : Option Selector) :
    Draft.run ⟨[], pending, parts⟩ [] = .ok (pending.close (parts.getD .universal)) := by
  apply Draft.run_of_finished
  rw [step_eq_endCompound not_startsQualifier_nil, Draft.endCompound,
    skipBlank_of_not_startsBlank rfl]
  rfl

/-- At a comma the group so far becomes the members of a new one. -/
theorem run_comma (negations : List Negation) (pending : Pending) (parts : Option Selector)
    (rest : List Char) :
    Draft.run ⟨negations, pending, parts⟩ (',' :: rest) =
      startRun ⟨negations, ⟨some (pending.close (parts.getD .universal)), none⟩, parts⟩
        (skipBlank rest) := by
  apply run_of_nextCompound
  rw [step_eq_endCompound (not_startsQualifier_cons (by decide) rest), Draft.endCompound,
    skipBlank_of_not_startsBlank rfl]
  rfl

/-- At a closing parenthesis the group so far becomes a part of the compound around it. -/
theorem run_paren (negation : Negation) (others : List Negation) (pending : Pending)
    (parts : Option Selector) (rest : List Char) :
    Draft.run ⟨negation :: others, pending, parts⟩ (')' :: rest) =
      (Draft.addPart ⟨others, negation.outer, negation.parts⟩
        (.not (pending.close (parts.getD .universal)))).run rest := by
  apply Draft.run_of_reading
  rw [step_eq_endCompound (not_startsQualifier_cons (by decide) rest), Draft.endCompound,
    skipBlank_of_not_startsBlank rfl]
  rfl

/-- A closing parenthesis with no negation open is refused as text behind the selector. -/
theorem run_paren_nil (pending : Pending) (parts : Option Selector) (rest : List Char) :
    Draft.run ⟨[], pending, parts⟩ (')' :: rest) =
      .error (.malformed (')' :: rest) (.trailing ')')) := by
  apply Draft.run_of_error
  rw [step_eq_endCompound (not_startsQualifier_cons (by decide) rest), Draft.endCompound,
    skipBlank_of_not_startsBlank rfl]
  rfl

/-! ## Every phrase is read -/

/-- What may follow a phrase, so that it is read as it stands. -/
def Follows : Phrase → List Char → Prop
  | .group, rest => EndsGroup rest
  | _, rest => Boundary rest

/-- What a run makes of a phrase. A qualifier is one more part of the draft. From the start of
any longer phrase the run comes to the place behind it, with a draft in which the last compound,
the member or the whole group is the selector of the phrase. -/
def IsRead : Phrase → List Char → Selector → List Char → Prop
  | .qualifier, cs, s, rest => ∀ draft : Draft, draft.run cs = (draft.addPart s).run rest
  | .parts, cs, s, rest =>
    ∀ draft : Draft, startRun draft cs = Draft.run { draft with parts := some s } rest
  | .compound, cs, s, rest =>
    ∃ parts : Option Selector, parts.getD .universal = s ∧
      ∀ draft : Draft, startRun draft cs = Draft.run { draft with parts } rest
  | .chain, cs, s, rest =>
    ∀ negations members, ∃ left parts,
      Pending.member ⟨members, left⟩ (parts.getD .universal) = s ∧
        startRun ⟨negations, ⟨members, none⟩, none⟩ (skipBlank cs) =
          Draft.run ⟨negations, ⟨members, left⟩, parts⟩ rest
  | .group, cs, s, rest =>
    ∀ negations, ∃ pending parts,
      Pending.close pending (parts.getD .universal) = s ∧
        startRun ⟨negations, {}, none⟩ (skipBlank cs) =
          Draft.run ⟨negations, pending, parts⟩ rest

theorem isRead_hasId {name rest : List Char} (h : IsName name) (hr : Boundary rest) :
    IsRead .qualifier ('#' :: (name ++ rest)) (.test ⟨.equals, "id", String.ofList name⟩) rest := by
  intro draft
  apply Draft.run_of_reading
  rw [Draft.step, readName_append h hr]
  rfl

theorem isRead_hasClass {name rest : List Char} (h : IsIdentifier name) (hr : Boundary rest) :
    IsRead .qualifier ('.' :: (name ++ rest))
      (.test ⟨.listed, "class", String.ofList name⟩) rest := by
  intro draft
  apply Draft.run_of_reading
  rw [Draft.step, readIdentifier_append h hr]
  rfl

theorem isRead_test {cs rest : List Char} {test : AttributeTest}
    (h : readTest cs = .ok (test, rest)) : IsRead .qualifier ('[' :: cs) (.test test) rest := by
  intro draft
  apply Draft.run_of_reading
  rw [Draft.step, h]
  rfl

/-- The group of a negation is read with the rest of the draft set aside. -/
theorem isRead_negation {name inner rest : List Char} {s : Selector} (h : IsIdentifier name)
    (hl : Text.lowerCase name = "not".toList) (hi : IsRead .group inner s (')' :: rest)) :
    IsRead .qualifier (':' :: (name ++ '(' :: inner)) (.not s) rest := by
  intro draft
  have hopen : draft.run (':' :: (name ++ '(' :: inner)) =
      startRun ⟨⟨draft.pending, draft.parts⟩ :: draft.negations, {}, none⟩ (skipBlank inner) := by
    apply run_of_nextCompound
    have hr : Boundary ('(' :: inner) := boundary_mark (by decide) inner
    rw [Draft.step, Draft.pseudoClass, readIdentifier_append h hr, ok_bind]
    show (if String.ofList (Text.lowerCase name) = "not" then _ else _) = _
    rw [hl, String.ofList_toList, if_pos rfl]
    rfl
  obtain ⟨pending, parts, hclose, hrun⟩ := hi (⟨draft.pending, draft.parts⟩ :: draft.negations)
  rw [hopen, hrun, run_paren, hclose]

theorem isRead_tag {name rest : List Char} (h : IsIdentifier name) (hr : Boundary rest) :
    IsRead .parts (name ++ rest) (.tag (.ofName (String.ofList name))) rest := by
  refine startRun_eq ?_
  obtain ⟨c, tail, rfl, hc⟩ := exists_cons_isNameChar h
  have hmarks : c ∉ marks := not_mem_marks_of_isNameChar hc
  have hstar : c ≠ '*' := by
    rintro rfl
    exact hmarks (by decide)
  have hmem : c ∉ ['#', '.', '[', ':'] := fun hmem => hmarks (List.mem_append_left _ hmem)
  rw [List.cons_append, openCompound, if_neg hmem, ← List.cons_append,
    readIdentifier_append h hr]
  · rfl
  · exact hstar

theorem openCompound_of_startsQualifier {cs : List Char} (h : StartsQualifier cs) :
    openCompound cs = .ok (none, cs) := by
  obtain ⟨c, tail, rfl, hmem⟩ := h.exists_cons
  rw [openCompound, if_pos hmem]
  rintro rfl
  exact absurd hmem (by decide)

theorem isRead_combine {cs mid right rest : List Char} {k : Combinator} {left s : Selector}
    (hl : IsRead .chain cs left mid) (hj : Joint mid k right)
    (hr : Derives .compound right s rest) (hs : IsRead .compound right s rest) :
    IsRead .chain cs (.combine k left s) rest := by
  intro negations members
  obtain ⟨before, leftParts, hmember, hrun⟩ := hl negations members
  obtain ⟨parts, hparts, hright⟩ := hs
  refine ⟨some (left, k), parts, ?_, ?_⟩
  · rw [Pending.member, hparts]
  · rw [hrun, run_joint hj hr.head, hright]
    show Draft.run ⟨_, ⟨_, some (Pending.member _ (leftParts.getD .universal), k)⟩, _⟩ _ = _
    rw [hmember]

theorem Joint.boundary {mid right : List Char} {k : Combinator} (h : Joint mid k right) :
    Boundary mid := by
  cases h with
  | sign hl hs _ =>
    refine hl.boundary ?_
    cases hs
    all_goals exact boundary_mark (by decide) _
  | blank hb hne _ => exact boundary_of_startsBlank (hb.startsBlank_of_ne hne)

/-- **Every phrase is read as it stands**, by induction on its derivation: each rule hands the
part before the last one on to a place where the last part begins. -/
theorem Derives.isRead {phrase : Phrase} {cs rest : List Char} {s : Selector}
    (h : Derives phrase cs s rest) (hr : Follows phrase rest) : IsRead phrase cs s rest := by
  induction h with
  | hasId hname => exact isRead_hasId hname hr
  | hasClass hname => exact isRead_hasClass hname hr
  | present hn hname hb => exact isRead_test (readTest_present hn hname hb)
  | compare hn hname ho hc hright hv hb =>
    exact isRead_test (readTest_compare hn hname ho hc hright hv hb)
  -- the inner group ends at a closing parenthesis
  | negation hname hl _ ih => exact isRead_negation hname hl (ih (.inr (.inr ⟨_, rfl⟩)))
  | tag hname => exact isRead_tag hname hr
  | first hq ih =>
    intro draft
    rw [startRun_eq (openCompound_of_startsQualifier hq.head), ih hr]
    rfl
  | starred _ ih =>
    intro draft
    rw [startRun_eq rfl, ih hr]
    rfl
  | more _ hq ih ihq =>
    -- no name goes on in front of a qualifier
    intro draft
    rw [ih (boundary_of_startsQualifier hq.head), ihq hr]
    rfl
  | parts _ ih => exact ⟨some _, rfl, ih hr⟩
  | star => exact ⟨none, rfl, startRun_eq rfl⟩
  | nothing => exact ⟨none, rfl, startRun_eq rfl⟩
  | start hb hs ih =>
    intro negations members
    obtain ⟨parts, hparts, hrun⟩ := ih hr
    refine ⟨none, parts, hparts, ?_⟩
    rw [hb.skipBlank_eq_rest hs.not_startsBlank, hrun]
  | combine _ hj hs ihl ihs => exact isRead_combine (ihl hj.boundary) hj hs (ihs hr)
  | single _ hb ih =>
    intro negations
    obtain ⟨left, parts, hmember, hrun⟩ := ih (hb.boundary (EndsGroup.boundary hr)) negations none
    exact ⟨⟨none, left⟩, parts, hmember, hrun.trans (run_of_blank hb hr _)⟩
  | union _ _ hb ihl ihr =>
    intro negations
    -- the left group ends at the comma, which makes it the members of the group at hand
    obtain ⟨pending, leftParts, hclose, hrun⟩ := ihl (.inr (.inl ⟨_, rfl⟩)) negations
    obtain ⟨left, parts, hmember, hchain⟩ :=
      ihr (hb.boundary (EndsGroup.boundary hr)) negations (some _)
    refine ⟨⟨some _, left⟩, parts, congrArg (Selector.union _) hmember, ?_⟩
    rw [hrun, run_comma, hclose]
    exact hchain.trans (run_of_blank hb hr _)

/-- **Reading is deriving**: a text is read as a selector exactly if the grammar derives the
selector from it. -/
theorem parseChars_eq_ok_iff {text : List Char} {s : Selector} :
    parseChars text = .ok s ↔ Derives .group text s [] := by
  refine ⟨derives_of_parseChars, fun h => ?_⟩
  obtain ⟨pending, parts, hclose, hrun⟩ := h.isRead (.inl rfl) []
  show startRun {} (skipBlank text) = .ok s
  rw [hrun, run_nil, hclose]

end Grammar

namespace Selector

/-- The place of an error is all that is written in another way for a text. -/
theorem parse_eq_ok {text : String} {s : Selector} :
    parse text = .ok s ↔ parseChars text.toList = .ok s := by
  rw [parse]
  cases parseChars text.toList with
  | error e =>
    constructor
    · intro h
      contradiction
    · intro h
      contradiction
  | ok t =>
    constructor
    · exact fun h => congrArg Except.ok (Except.ok.inj h)
    · exact fun h => congrArg Except.ok (Except.ok.inj h)

/-- **The accepted texts are those of the grammar**, and each is read as the selector that the
grammar builds for it. -/
theorem parse_eq_ok_iff_derives (text : String) (s : Selector) :
    parse text = .ok s ↔ Grammar.Derives .group text.toList s [] := by
  rw [parse_eq_ok, Grammar.parseChars_eq_ok_iff]

end Selector

end DocQuery
