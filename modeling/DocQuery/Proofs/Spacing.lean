import DocQuery.Proofs.Closed
import DocQuery.Proofs.Errors.Lookahead

/-!
# Spacing carries no meaning

Of white space and comments the reader sees that there is some, and then the text behind them. In
front of a text there is nothing that could ask for spacing, so it may as well be absent. Behind a
closed text the last compound has been read to its end as soon as spacing follows: the list under
way is the same in front of any rest, and from there on the spacing is one question that is
answered with yes. All that happens later happens in the text behind the spacing, errors and their
places included, and only the offsets of these know how long the spacing was.

- `Grammar.Spacing`: white space and closed comments, complete whatever follows.
- `Grammar.Stands.exists_run`: what is under way behind a group, in front of any rest.
- `Draft.ReadsAlike`: what the end of a compound asks of it.
- `Grammar.Stands.exists_parseChars`: the outcome behind the spacing.
- `Selector.parse_spacing`: spacing in front of texts and behind closed texts.
-/

namespace DocQuery

open Grammar

namespace Grammar

/-! ## Spacing as a text of its own -/

/-- A sequence of white-space characters and of comments, each from `/*` to the first `*/` after
these two characters. -/
inductive Spacing : List Char → Prop where
  | nil : Spacing []
  | space {c : Char} {cs : List Char} (hc : Text.isBlank c = true) (h : Spacing cs) :
      Spacing (c :: cs)
  | comment {body cs : List Char} (first : ¬ ['*', '/'] <:+: body ++ ['*']) (h : Spacing cs) :
      Spacing ('/' :: '*' :: (body ++ '*' :: '/' :: cs))

namespace Spacing

variable {w : List Char}

theorem blank (h : Spacing w) (rest : List Char) : Blank (w ++ rest) rest := by
  induction h with
  | nil => exact .nil
  | space hc _ ih => exact .space hc ih
  | @comment body cs first _ ih =>
    have hcomment : Comment ('/' :: '*' :: (body ++ '*' :: '/' :: (cs ++ rest))) (cs ++ rest) :=
      .closed first
    have hblank := Blank.comment hcomment ih
    simpa using hblank

/-- The reader comes to the same place with the spacing and without it. -/
theorem skipBlank_append (h : Spacing w) (rest : List Char) :
    skipBlank (w ++ rest) = skipBlank rest :=
  (h.blank rest).skipBlank_eq

/-- In front of a text spacing makes no difference. -/
theorem parseChars_append (h : Spacing w) (cs : List Char) :
    parseChars (w ++ cs) = parseChars cs := by
  rw [parseChars, parseChars, h.skipBlank_append]

end Spacing

/-! ## Behind a group -/

/-- A chain, and the spacing between it and something else. -/
theorem Derives.exists_chain_append {cs mid rest : List Char} {s : Selector}
    (h : Derives .chain cs s mid) (hb : Blank mid rest) (hr : rest ≠ []) :
    ∃ inner space, cs = (inner ++ space) ++ rest ∧ Stands .chain inner s ∧
      ∀ other, Blank (space ++ other) other := by
  obtain ⟨space, rfl, hspace⟩ := hb.exists_append hr
  obtain ⟨inner, rfl, hinner⟩ := h.stands (List.append_ne_nil_of_right_ne_nil space hr)
  exact ⟨inner, space, (List.append_assoc _ _ _).symm, hinner, hspace⟩

/-- Behind a group, up to the spacing at its end, the members before the last one and the last one
itself are under way, in front of whatever does not go on with a name. -/
theorem Stands.exists_run {front : List Char} {s : Selector} (h : Stands .group front s) :
    ∃ inner space members last, front = inner ++ space ∧
      (∀ rest, Blank (space ++ rest) rest) ∧ ∀ rest, Boundary rest → ∃ left parts,
        Pending.member ⟨members, left⟩ (parts.getD .universal) = last ∧
          parseChars (inner ++ rest) = Draft.run ⟨[], ⟨members, left⟩, parts⟩ rest := by
  -- the closing parenthesis stands for any rest
  cases h [')'] with
  | single hchain hb =>
    obtain ⟨inner, space, heq, hinner, hspace⟩ :=
      hchain.exists_chain_append hb (List.cons_ne_nil _ _)
    refine ⟨inner, space, none, s, List.append_cancel_right heq, hspace, fun rest hr => ?_⟩
    exact (hinner rest).isRead hr [] none
  | @union _ mid _ _ left last hgroup hchain hb =>
    obtain ⟨member, space, rfl, hmember, hspace⟩ :=
      hchain.exists_chain_append hb (List.cons_ne_nil _ _)
    obtain ⟨group, heq, hstands⟩ := hgroup.stands (List.cons_ne_nil _ _)
    have hfront : front = (group ++ ',' :: member) ++ space := by
      have hclosed : front ++ [')'] = ((group ++ ',' :: member) ++ space) ++ [')'] := by
        rw [heq]
        simp
      exact List.append_cancel_right hclosed
    refine ⟨_, space, some left, last, hfront, hspace, fun rest hr => ?_⟩
    -- at the comma, what has been read becomes the members
    obtain ⟨pending, before, hclose, hrun⟩ :=
      (hstands (',' :: (member ++ rest))).isRead (.inr (.inl ⟨_, rfl⟩)) []
    obtain ⟨left', parts, hlast, hread⟩ := (hmember rest).isRead hr [] (some left)
    refine ⟨left', parts, hlast, ?_⟩
    rw [List.append_assoc]
    show startRun {} (skipBlank (group ++ ',' :: (member ++ rest))) = _
    rw [hrun, run_comma, hclose]
    exact hread

end Grammar

namespace Draft

/-! ## The end of a compound -/

/-- The same negations are open, and the same members have been read, with the one that the last
compound belongs to. How this one is made up may differ. -/
structure ReadsAlike (draft draft' : Draft) : Prop where
  negations : draft.negations = draft'.negations
  members : draft.pending.members = draft'.pending.members
  last : draft.pending.member draft.compound = draft'.pending.member draft'.compound

namespace ReadsAlike

variable {draft draft' : Draft}

theorem close_eq (h : ReadsAlike draft draft') :
    draft.pending.close draft.compound = draft'.pending.close draft'.compound := by
  rw [Pending.close, Pending.close, h.members, h.last]

/-- The next compound replaces the parts of the last one. -/
theorem nextCompound_eq (h : ReadsAlike draft draft') (pending : Pending) (cs : List Char) :
    { draft with pending }.nextCompound cs = { draft' with pending }.nextCompound cs := by
  rw [nextCompound, nextCompound, h.negations]

theorem comma_eq (h : ReadsAlike draft draft') (cs : List Char) :
    { draft with pending := draft.pending.comma draft.compound }.nextCompound cs =
      { draft' with pending := draft'.pending.comma draft'.compound }.nextCompound cs := by
  rw [Pending.comma, Pending.comma, h.close_eq]
  exact h.nextCompound_eq _ cs

theorem combinator_eq (h : ReadsAlike draft draft') (k : Combinator) (cs : List Char) :
    draft.combinator k cs = draft'.combinator k cs := by
  rw [combinator, combinator, Pending.combinator, Pending.combinator, h.members, h.last]
  exact h.nextCompound_eq _ cs

/-- At the end of a compound nothing else is asked of a draft. -/
theorem endAt_eq (h : ReadsAlike draft draft') (spaced : Bool) (cs : List Char) :
    draft.endAt spaced cs = draft'.endAt spaced cs := by
  fun_cases endAt draft spaced cs with
  | case1 =>
    show _ = draft'.endText
    rw [endText, endText, h.negations, h.close_eq]
  | case2 rest => exact h.comma_eq (skipBlank rest)
  | case3 rest =>
    show _ = draft'.closeNegation (')' :: rest) rest
    rw [closeNegation, closeNegation, h.negations, h.close_eq]
  | case4 c rest hcomma hparen k hk =>
    rw [endAt, hk]
    · exact h.combinator_eq k (skipBlank rest)
    · exact hcomma
    · exact hparen
  | case5 c rest hcomma hparen hsign hspaced =>
    rw [endAt, hsign, hspaced]
    · exact h.combinator_eq .descendant (c :: rest)
    · exact hcomma
    · exact hparen
  | case6 c rest hcomma hparen hsign hspaced =>
    rw [endAt, hsign]
    · exact (if_neg hspaced).symm
    · exact hcomma
    · exact hparen

end ReadsAlike

/-- Where spacing ends a compound, a run goes on in the text behind the spacing, however long it
is. -/
theorem run_eq_of_startsBlank {draft draft' : Draft} (h : ReadsAlike draft draft')
    {cs cs' : List Char} (hs : startsBlank cs = true) (hs' : startsBlank cs' = true)
    (hskip : skipBlank cs = skipBlank cs') : draft.run cs = draft'.run cs' := by
  apply run_congr
  rw [step_eq_endCompound (not_startsQualifier_of_startsBlank hs),
    step_eq_endCompound (not_startsQualifier_of_startsBlank hs'), endCompound_eq_endAt,
    endCompound_eq_endAt, hs, hs', hskip, h.endAt_eq]

/-- What stops such a run is in the text behind the spacing. -/
theorem suffix_of_run_startsBlank {draft : Draft} {cs rest : List Char}
    (hs : startsBlank cs = true) (h : restOf? (draft.run cs) = some rest) :
    rest <:+ skipBlank cs := by
  have hstep : draft.step cs = draft.endAt true (skipBlank cs) := by
    rw [step_eq_endCompound (not_startsQualifier_of_startsBlank hs), endCompound_eq_endAt, hs]
  have hlocal := isLocal_endAt draft true
  cases hend : draft.endAt true (skipBlank cs) with
  | error e =>
    rw [run_of_error (hstep.trans hend)] at h
    exact hlocal.suffix (by rw [hend]; exact h)
  | ok progress =>
    cases progress with
    | finished s =>
      rw [run_of_finished (hstep.trans hend)] at h
      contradiction
    | reading next after =>
      rw [run_of_reading (hstep.trans hend)] at h
      have hafter : after <:+ skipBlank cs := hlocal.suffix (by rw [hend]; rfl)
      exact (suffix_of_run h).trans hafter

end Draft

/-! ## Outcomes -/

namespace Grammar

theorem Spacing.startsBlank_append {w space cs : List Char} (h : Spacing w) (hne : w ≠ [])
    (hspace : ∀ rest, Blank (space ++ rest) rest) :
    startsBlank (space ++ (w ++ cs)) = true := by
  refine ((hspace (w ++ cs)).trans (h.blank cs)).startsBlank_of_ne fun heq => hne ?_
  rw [← List.append_assoc] at heq
  exact (List.append_eq_nil_iff.1 (List.append_left_eq_self.1 heq)).2

/-- **What comes out behind a group and spacing is the same for all spacing**, and a place of it is
in the text behind the spacing. -/
theorem Stands.exists_parseChars {front : List Char} {s : Selector} (h : Stands .group front s)
    (cs : List Char) : ∃ r : Except Stop Selector,
      (∀ place, restOf? r = some place → place <:+ cs) ∧
      ∀ w, Spacing w → w ≠ [] → parseChars (front ++ (w ++ cs)) = r := by
  obtain ⟨inner, space, members, last, rfl, hspace, hread⟩ := h.exists_run
  have hskip {w : List Char} (hw : Spacing w) : skipBlank (space ++ (w ++ cs)) = skipBlank cs :=
    (hspace (w ++ cs)).skipBlank_eq.trans (hw.skipBlank_append cs)
  have hrun {w : List Char} (hw : Spacing w) (hne : w ≠ []) :=
    hread (space ++ (w ++ cs)) (boundary_of_startsBlank (hw.startsBlank_append hne hspace))
  -- one space is spacing as good as any
  have hone : Spacing [' '] := .space (by decide) .nil
  obtain ⟨left, parts, hlast, hparse⟩ := hrun hone (List.cons_ne_nil _ _)
  have hstart : startsBlank (space ++ ([' '] ++ cs)) = true :=
    hone.startsBlank_append (List.cons_ne_nil _ _) hspace
  refine ⟨Draft.run ⟨[], ⟨members, left⟩, parts⟩ (space ++ ([' '] ++ cs)),
    fun place hplace => ?_, fun w hw hne => ?_⟩
  · have hsuffix := Draft.suffix_of_run_startsBlank hstart hplace
    rw [hskip hone] at hsuffix
    exact hsuffix.trans (skipBlank_suffix cs)
  · obtain ⟨left', parts', hlast', hparse'⟩ := hrun hw hne
    have halike : Draft.ReadsAlike ⟨[], ⟨members, left'⟩, parts'⟩ ⟨[], ⟨members, left⟩, parts⟩ :=
      ⟨rfl, rfl, hlast'.trans hlast.symm⟩
    rw [List.append_assoc, hparse']
    refine Draft.run_eq_of_startsBlank halike (hw.startsBlank_append hne hspace) hstart ?_
    rw [hskip hw, hskip hone]

end Grammar

namespace Selector

/-- The outcome with its place so many bytes further on. -/
def movedBy (bytes : Nat) (r : Except (ParseError Nat) Selector) :
    Except (ParseError Nat) Selector :=
  r.mapError (·.map (bytes + ·))

/-- Text in front of the place of an outcome adds its length to the offset. -/
theorem mapError_offsetOf_append {front cs : List Char} {r : Except Stop Selector}
    (h : ∀ place, restOf? r = some place → place <:+ cs) :
    r.mapError (·.map (offsetOf (front ++ cs))) =
      movedBy (byteLength front) (r.mapError (·.map (offsetOf cs))) := by
  cases r with
  | ok s => rfl
  | error e =>
    refine congrArg Except.error ?_
    show _ = ParseError.map _ (ParseError.map _ e)
    rw [ParseError.map_map]
    refine ParseError.map_congr fun place hplace => ?_
    obtain ⟨before, rfl⟩ := h place hplace
    show _ = byteLength front + offsetOf (before ++ place) place
    rw [← List.append_assoc, offsetOf_append, offsetOf_append, byteLength_append]

/-- **Spacing carries no meaning.** In front of any text it moves the place of an error by its
length and changes nothing else. Between a closed text and any other text, too: what comes out, a
selector or an error with its offset in the other text, is the same for all spacing that is not
empty, and the place of an error is moved by the lengths of the closed text and the spacing. -/
theorem parse_spacing :
    (∀ w i : String, Spacing w.toList → parse (w ++ i) = movedBy w.utf8ByteSize (parse i)) ∧
    ∀ i j : String, IsClosed i → ∃ r : Except (ParseError Nat) Selector,
      ∀ w : String, Spacing w.toList → w ≠ "" →
        parse (i ++ w ++ j) = movedBy (i.utf8ByteSize + w.utf8ByteSize) r := by
  constructor
  · intro w i hw
    have hplace : ∀ place, restOf? (parseChars i.toList) = some place → place <:+ i.toList :=
      fun place => isLocal_parseChars.suffix
    rw [parse, String.toList_append, hw.parseChars_append, mapError_offsetOf_append hplace,
      byteLength_toList]
    rfl
  · intro i j hi
    obtain ⟨s, hs⟩ := (isClosed_iff_stands i).1 hi
    obtain ⟨r, hplace, hread⟩ := hs.exists_parseChars j.toList
    refine ⟨r.mapError (·.map (offsetOf j.toList)), fun w hw hne => ?_⟩
    have hr : parseChars (i.toList ++ w.toList ++ j.toList) = r := by
      rw [List.append_assoc]
      exact hread w.toList hw (by simpa using hne)
    rw [parse, String.toList_append, String.toList_append, hr, mapError_offsetOf_append hplace,
      byteLength_append, byteLength_toList, byteLength_toList]

/-- A wide space and a comment that opens like its own end, with a comma and a quotation mark in
it, in place of a tabulator; the text behind them is refused in the middle. -/
theorem parse_spacing_comment :
    let w := "\u3000/*/,\"*/"
    let i := ":not(é) >b"
    let j := "> c:ÉLAN"
    let e (offset : Nat) : ParseError Nat := .malformed offset (.unknownPseudoClass "élan")
    Spacing w.toList ∧ Spacing "\t".toList ∧ IsClosed i ∧
      parse (w ++ j) = movedBy 10 (parse j) ∧
      (∃ r, parse (i ++ w ++ j) = movedBy 21 r ∧ parse (i ++ "\t" ++ j) = movedBy 12 r) ∧
      parse (i ++ w ++ j) = .error (e 25) ∧ parse (i ++ "\t" ++ j) = .error (e 16) := by
  intro w i j e
  have hchars : w.toList = '\u3000' :: '/' :: '*' :: (['/', ',', '"'] ++ '*' :: '/' :: []) := by
    decide
  have hw : Spacing w.toList := by
    rw [hchars]
    exact .space (by decide) (.comment (by decide) .nil)
  have htab : Spacing "\t".toList := .space (by decide) .nil
  have hi : IsClosed i := by decide +kernel
  obtain ⟨hfront, hbehind⟩ := parse_spacing
  obtain ⟨r, hr⟩ := hbehind i j hi
  refine ⟨hw, htab, hi, hfront w j hw, ⟨r, hr w hw ?_, hr "\t" htab ?_⟩, ?_, ?_⟩
  · decide
  · decide
  · decide +kernel
  · decide +kernel

end Selector

end DocQuery
