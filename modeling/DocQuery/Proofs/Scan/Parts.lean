import DocQuery.Proofs.Scan.Words

/-!
# Parts of a compound at a cursor

What a reading by descent has read is what the steps of a draft make of the same text: a call of a
reading starts with some draft, and it ends with that draft and one more compound, member or list.
Here this is said of all the readings, and shown of the parts of a compound. Among these there are
negations, and the lists of those stand in less of the text: that these are read is assumed.

- `Draft.upTo`, `Draft.Keeps`: what a draft makes of its last phrase, and what is outside of it.
- `Scan.GoesAlong`, `Scan.Descends`: a reading goes along with the run of a draft.
- `Scan.ReadsList`: a list is read.
- `Scan.exists_negation`, `Scan.exists_readPart`: a negation, and any other part.
- `Scan.descends_partTurns`: the loop over the parts.
-/

namespace DocQuery

open Grammar

/-- Further on in the text, a limit that is lower by one is still higher than what is left. -/
theorem Advances.length_lt {cs rest : List Char} {limit : Nat} (h : Advances cs rest)
    (hlimit : cs.length < limit + 1) : rest.length < limit :=
  Nat.lt_of_lt_of_le h.shorter (Nat.lt_succ_iff.1 hlimit)

namespace Draft

/-! ## Phrases of a draft -/

/-- What the last compound of the draft stands for, or the member or the list that it ends. -/
def upTo : Phrase → Draft → Selector
  | .chain, draft => draft.pending.member draft.compound
  | .group, draft => draft.pending.close draft.compound
  | _, draft => draft.compound

section upTo

variable {draft : Draft} {s : Selector} {k : Combinator}

/-- A member of one compound is this compound. -/
theorem upTo_chain (h : draft.pending.left = none) :
    draft.upTo .chain = draft.upTo .compound := by
  show Pending.member _ _ = _
  rw [Pending.member, h]
  rfl

theorem upTo_chain_combine (h : draft.pending.left = some (s, k)) :
    draft.upTo .chain = .combine k s (draft.upTo .compound) := by
  show Pending.member _ _ = _
  rw [Pending.member, h]
  rfl

/-- A list of one member is this member. -/
theorem upTo_group (h : draft.pending.members = none) : draft.upTo .group = draft.upTo .chain := by
  show Pending.close _ _ = _
  rw [Pending.close, h]
  rfl

theorem upTo_group_union (h : draft.pending.members = some s) :
    draft.upTo .group = .union s (draft.upTo .chain) := by
  show Pending.close _ _ = _
  rw [Pending.close, h]
  rfl

end upTo

/-- Outside of the last compound, member or list the drafts are the same. -/
def Keeps : Phrase → Draft → Draft → Prop
  | .chain, draft, next =>
    next.negations = draft.negations ∧ next.pending.members = draft.pending.members
  | .group, draft, next => next.negations = draft.negations
  | _, draft, next => next.negations = draft.negations ∧ next.pending = draft.pending

namespace Keeps

variable {phrase : Phrase} {draft next last : Draft}

theorem trans (h : draft.Keeps phrase next) (h' : next.Keeps phrase last) :
    draft.Keeps phrase last := by
  cases phrase with
  | group => exact Eq.trans h' h
  | _ => exact ⟨h'.1.trans h.1, h'.2.trans h.2⟩

/-- Outside of the last member there is less than outside of its last compound. -/
theorem chain (h : draft.Keeps .compound next) : draft.Keeps .chain next :=
  ⟨h.1, congrArg Pending.members h.2⟩

theorem group (h : draft.Keeps .chain next) : draft.Keeps .group next := h.1

end Keeps

end Draft

namespace Scan

/-! ## Readings and runs -/

/-- What is left behind a compound starts with no part, behind a member it is the end of the text,
a comma or a parenthesis, and behind a list it is no comma. -/
def Stops : Phrase → List Char → Prop
  | .chain, rest => EndsGroup rest
  | .group, rest => rest = [] ∨ ∃ tail, rest = ')' :: tail
  | _, rest => ¬ StartsQualifier rest

/-- A reading of a phrase goes along with the run that is entered from the drafts in question: with
an error it is the error of the run, and otherwise the run comes to where the reading has come,
with the selector of the phrase as the last phrase of the draft. -/
def GoesAlong (phrase : Phrase) (cs : List Char) (enter : Draft → Except Stop Selector)
    (starts : Draft → Prop) : Except Stop (Selector × List Char) → Prop
  | .ok (s, rest) => rest <:+ cs ∧ Stops phrase rest ∧ ∀ draft, starts draft →
      ∃ next : Draft, next.upTo phrase = s ∧ draft.Keeps phrase next ∧ enter draft = next.run rest
  | .error e => ∀ draft, starts draft → enter draft = .error e

/-- The reading comes to an end, and goes along with the run. -/
def Descends (x : Scan Selector) (text : List Char) (phrase : Phrase) (cs : List Char)
    (enter : Draft → Except Stop Selector) (starts : Draft → Prop) : Prop :=
  ∃ out, Reads x text cs out ∧ GoesAlong phrase cs enter starts out

variable {α : Type} {text cs mid rest : List Char} {phrase : Phrase} {list : Scan Selector}

namespace Descends

variable {x : Scan Selector} {enter enter' : Draft → Except Stop Selector}
  {starts starts' : Draft → Prop}

/-- A run may be entered from other drafts that come to the same run. -/
theorem of_enter (h : Descends x text phrase mid enter' starts') (hs : mid <:+ cs)
    (hd : ∀ draft, starts draft → ∃ draft', starts' draft' ∧ enter draft = enter' draft' ∧
      ∀ next, draft'.Keeps phrase next → draft.Keeps phrase next)
    {y : Scan Selector} (hy : ∀ out, Reads x text mid out → Reads y text cs out) :
    Descends y text phrase cs enter starts := by
  obtain ⟨out, hreads, halong⟩ := h
  refine ⟨out, hy out hreads, ?_⟩
  cases out with
  | error e =>
    intro draft hstarts
    obtain ⟨draft', hstarts', henter, -⟩ := hd draft hstarts
    rw [henter, halong draft' hstarts']
  | ok pair =>
    obtain ⟨hrest, hstops, hrun⟩ := halong
    refine ⟨hrest.trans hs, hstops, fun draft hstarts => ?_⟩
    obtain ⟨draft', hstarts', henter, hkeeps⟩ := hd draft hstarts
    obtain ⟨next, hnext, hkeep, hrun⟩ := hrun draft' hstarts'
    exact ⟨next, hnext, hkeeps next hkeep, henter.trans hrun⟩

/-- Before what is read, more may be done at the same place. -/
theorem of_reads (h : Descends x text phrase cs enter starts) {y : Scan Selector}
    (hy : ∀ out, Reads x text cs out → Reads y text cs out) :
    Descends y text phrase cs enter starts := by
  obtain ⟨out, hreads, halong⟩ := h
  exact ⟨out, hy out hreads, halong⟩

/-- The drafts in question may be fewer. -/
theorem of_starts (h : Descends x text phrase cs enter starts')
    (hs : ∀ draft, starts draft → starts' draft) : Descends x text phrase cs enter starts :=
  h.of_enter List.suffix_rfl (fun draft hd => ⟨draft, hs draft hd, rfl, fun _ hk => hk⟩)
    fun _ hr => hr

/-- After one phrase has been read, a longer one is read from there on. -/
theorem bind {longer : Phrase} {f : Selector → Scan Selector} {goes : Selector → Draft → Prop}
    (hx : Descends x text phrase cs enter starts)
    (hkeeps : ∀ {draft next : Draft}, draft.Keeps phrase next → draft.Keeps longer next)
    (hgoes : ∀ draft next, starts draft → draft.Keeps phrase next → goes (next.upTo phrase) next)
    (hf : ∀ s mid, mid <:+ cs → Stops phrase mid →
      Descends (f s) text longer mid (·.run mid) (goes s)) :
    Descends (x >>= f) text longer cs enter starts := by
  obtain ⟨out, hreads, halong⟩ := hx
  cases out with
  | error e => exact ⟨.error e, hreads.bind_error, halong⟩
  | ok pair =>
    obtain ⟨s, mid⟩ := pair
    obtain ⟨hmid, hstops, hrun⟩ := halong
    refine (hf s mid hmid hstops).of_enter hmid (fun draft hstarts => ?_) fun out => hreads.bind
    obtain ⟨next, rfl, hkeep, hrun⟩ := hrun draft hstarts
    exact ⟨next, hgoes draft next hstarts hkeep, hrun, fun last => (hkeeps hkeep).trans⟩

end Descends

/-! ## Parts -/

/-- A part has been read: it is one more part of every draft. -/
def IsPart (cs : List Char) : Except Stop (Selector × List Char) → Prop
  | .ok (part, rest) =>
    Advances cs rest ∧ ∀ draft : Draft, draft.run cs = (draft.addPart part).run rest
  | .error e => ∀ draft : Draft, draft.run cs = .error e

/-- What a step reads and adds is a part. -/
theorem isPart_of_step {read : Except Stop (α × List Char)} (g : α → Selector)
    (hstep : ∀ draft : Draft, draft.step cs = continueWith read fun a => draft.addPart (g a)) :
    IsPart cs (read.map fun p => (g p.1, p.2)) := by
  cases read with
  | error e => exact fun draft => Draft.run_of_error (hstep draft)
  | ok pair =>
    refine ⟨?_, fun draft => Draft.run_of_reading (hstep draft)⟩
    exact Draft.advances_step (hstep {})

/-- A list is read from the drafts in which it begins. -/
def ReadsList (list : Scan Selector) (text cs : List Char) : Prop :=
  Descends list text .group cs (fun draft => startRun draft (DocQuery.skipBlank cs))
    fun draft => draft.pending = {}

/-- The text does not end before a negation is closed. -/
theorem run_nil_of_negation {draft : Draft} (h : draft.negations ≠ []) :
    draft.run [] = .error (.malformed [] .missingClosingParenthesis) := by
  apply Draft.run_of_error
  rw [step_eq_endCompound not_startsQualifier_nil, Draft.endCompound,
    skipBlank_of_not_startsBlank rfl]
  show draft.endText = _
  unfold Draft.endText
  split
  · contradiction
  · rfl

theorem reads_closeNegation (inner : Selector) :
    Reads (closeNegation inner) text (')' :: cs) (.ok (.not inner, cs)) := by
  refine reads_skipBlank.bind ?_
  rw [skipBlank_of_not_startsBlank rfl]
  exact (reads_eat ')').bind (reads_pure _)

theorem reads_closeNegation_nil (inner : Selector) :
    Reads (closeNegation inner) text [] (.error (.malformed [] .missingClosingParenthesis)) := by
  refine reads_skipBlank.bind ?_
  rw [skipBlank_of_not_startsBlank rfl]
  exact (reads_eat_of_ne (by simp)).bind (reads_refuse .missingClosingParenthesis)

/-- The draft with a negation opened in it. -/
def opened (draft : Draft) : Draft where
  negations := ⟨draft.pending, draft.parts⟩ :: draft.negations

/-- The list of a negation and its closing parenthesis have been read: the negation is one more
part of every draft that it was opened in. -/
def IsEnclosed (cs : List Char) : Except Stop (Selector × List Char) → Prop
  | .ok (part, rest) => rest <:+ cs ∧ ∀ draft : Draft,
      startRun (opened draft) (DocQuery.skipBlank cs) = (draft.addPart part).run rest
  | .error e => ∀ draft : Draft, startRun (opened draft) (DocQuery.skipBlank cs) = .error e

theorem exists_enclosed (h : ReadsList list text cs) :
    ∃ out, Reads (list >>= closeNegation) text cs out ∧ IsEnclosed cs out := by
  obtain ⟨out, hreads, halong⟩ := h
  cases out with
  | error e => exact ⟨.error e, hreads.bind_error, fun draft => halong (opened draft) rfl⟩
  | ok pair =>
    obtain ⟨s, rest⟩ := pair
    obtain ⟨hrest, rfl | ⟨tail, rfl⟩, hrun⟩ := halong
    · refine ⟨_, hreads.bind (reads_closeNegation_nil s), fun draft => ?_⟩
      obtain ⟨next, -, hkeeps, hrun⟩ := hrun (opened draft) rfl
      refine hrun.trans (run_nil_of_negation ?_)
      rw [hkeeps]
      exact List.cons_ne_nil _ _
    · refine ⟨_, hreads.bind (reads_closeNegation s),
        (List.suffix_cons ')' tail).trans hrest, fun draft => ?_⟩
      obtain ⟨⟨negations, pending, parts⟩, rfl, hkeeps, hrun⟩ := hrun (opened draft) rfl
      obtain rfl : negations = _ := hkeeps
      exact hrun.trans (run_paren _ _ pending parts tail)

theorem openNegation_of_ne {draft : Draft} (h : ∀ inner, cs ≠ '(' :: inner) :
    draft.openNegation cs = .error (.malformed cs .missingOpeningParenthesis) := by
  rw [Draft.openNegation]
  exact h

/-- A negation behind its name, if lists are read in shorter texts. -/
theorem exists_negation {colon : List Char} (hcolon : colon <:+ text) (hcs : Advances colon cs)
    (ih : ∀ inner, Advances cs inner → ReadsList list text inner)
    (hstep : ∀ draft : Draft, draft.step colon = draft.openNegation cs) :
    ∃ out, Reads (negation list (offsetOf text colon)) text cs out ∧ IsPart colon out := by
  rw [negation]
  by_cases hopen : ∃ inner, cs = '(' :: inner
  · obtain ⟨inner, rfl⟩ := hopen
    have hinner : Advances ('(' :: inner) (DocQuery.skipBlank inner) :=
      .of_cons '(' (skipBlank_suffix inner)
    have hadv := hcs.trans hinner
    -- the list skips the spacing once more, where there is none left
    have henter : ∀ draft : Draft, draft.run colon =
        startRun (opened draft) (DocQuery.skipBlank (DocQuery.skipBlank inner)) := by
      intro draft
      rw [skipBlank_of_not_startsBlank (startsBlank_skipBlank inner)]
      exact run_of_nextCompound (hstep draft)
    obtain ⟨out, hreads, hpart⟩ := exists_enclosed (ih _ hinner)
    refine ⟨out, (reads_eat '(').bind (reads_skipBlank.bind
      ((reads_turn .negation hadv hcolon).bind hreads)), ?_⟩
    cases out with
    | error e => exact fun draft => (henter draft).trans (hpart draft)
    | ok pair =>
      obtain ⟨hrest, hrun⟩ := hpart
      exact ⟨hadv.trans_suffix hrest, fun draft => (henter draft).trans (hrun draft)⟩
  · have hne : ∀ inner, cs ≠ '(' :: inner := fun inner h => hopen ⟨inner, h⟩
    exact ⟨_, (reads_eat_of_ne hne).bind (reads_refuse .missingOpeningParenthesis),
      fun draft => Draft.run_of_error ((hstep draft).trans (openNegation_of_ne hne))⟩

theorem exists_pseudoClass (hcs : ':' :: cs <:+ text)
    (ih : ∀ inner, Advances (':' :: cs) inner → ReadsList list text inner) :
    ∃ out, Reads (pseudoClass list) text (':' :: cs) out ∧ IsPart (':' :: cs) out := by
  have hname : Reads readIdentifier text cs _ := reads_readIdentifier
  have hbehind : ∀ {f : Nat → Nat → List Char → Scan Selector} {out},
      Reads (readIdentifier >>= f (offsetOf text (':' :: cs)) (offsetOf text cs)) text cs out →
      Reads (do
        let colon ← position
        advance
        let start ← position
        let name ← readIdentifier
        f colon start name) text (':' :: cs) out := fun h =>
    reads_position.bind ((reads_advance ':').bind (reads_position.bind h))
  rw [pseudoClass]
  cases hn : DocQuery.readIdentifier cs with
  | error e =>
    rw [hn] at hname
    exact ⟨.error e, hbehind hname.bind_error, fun draft =>
      Draft.run_of_error (draft.pseudoClass_of_error hn)⟩
  | ok pair =>
    obtain ⟨name, after⟩ := pair
    rw [hn] at hname
    have hadv : Advances (':' :: cs) after := .of_cons ':' (advances_readIdentifier hn).suffix
    have hstep : ∀ draft : Draft, draft.step (':' :: cs) = _ := fun draft =>
      draft.pseudoClass_eq hn
    by_cases hnot : String.ofList (Text.lowerCase name) = "not"
    · obtain ⟨out, hreads, hpart⟩ := exists_negation hcs hadv
        (fun inner h => ih inner (hadv.trans h)) fun draft => (hstep draft).trans (if_pos hnot)
      refine ⟨out, hbehind (hname.bind ?_), hpart⟩
      rw [if_pos hnot]
      exact hreads
    by_cases hknown : String.ofList (Text.lowerCase name) ∈ unsupportedPseudoClasses
    · refine ⟨.error (.unsupported _), hbehind (hname.bind ?_), fun draft =>
        Draft.run_of_error ((hstep draft).trans ((if_neg hnot).trans (if_pos hknown)))⟩
      rw [if_neg hnot, if_pos hknown]
      exact reads_throw (.unsupported _)
    · refine ⟨.error (.malformed cs _), hbehind (hname.bind ?_), fun draft =>
        Draft.run_of_error ((hstep draft).trans ((if_neg hnot).trans (if_neg hknown)))⟩
      rw [if_neg hnot, if_neg hknown]
      exact reads_throw (.malformed cs _)

theorem reads_readId :
    Reads readId text ('#' :: cs)
      ((DocQuery.readName cs).map fun p => (.test ⟨.equals, "id", String.ofList p.1⟩, p.2)) :=
  (reads_advance '#').bind (reads_readName.map _)

theorem reads_readClass :
    Reads readClass text ('.' :: cs)
      ((DocQuery.readIdentifier cs).map fun p =>
        (.test ⟨.listed, "class", String.ofList p.1⟩, p.2)) :=
  (reads_advance '.').bind (reads_readIdentifier.map _)

theorem reads_readAttribute :
    Reads readAttribute text ('[' :: cs) ((DocQuery.readTest cs).map fun p => (.test p.1, p.2)) :=
  reads_readTest.map Selector.test

/-- One part, where one begins. -/
theorem exists_readPart (hcs : cs <:+ text) (hq : StartsQualifier cs)
    (ih : ∀ inner, Advances cs inner → ReadsList list text inner) :
    ∃ out, Reads (readPart list) text cs (out.map fun p => (some p.1, p.2)) ∧ IsPart cs out := by
  obtain ⟨c, tail, rfl, hmem⟩ := hq.exists_cons
  have hpeek : Reads peek text (c :: tail) (.ok (some c, c :: tail)) := reads_peek
  rw [readPart]
  simp only [List.mem_cons, List.not_mem_nil, or_false] at hmem
  rcases hmem with rfl | rfl | rfl | rfl
  · exact ⟨_, hpeek.bind (reads_readId.map some),
      isPart_of_step (fun name => .test ⟨.equals, "id", String.ofList name⟩) fun _ => rfl⟩
  · exact ⟨_, hpeek.bind (reads_readClass.map some),
      isPart_of_step (fun name => .test ⟨.listed, "class", String.ofList name⟩) fun _ => rfl⟩
  · exact ⟨_, hpeek.bind (reads_readAttribute.map some),
      isPart_of_step Selector.test fun _ => rfl⟩
  · obtain ⟨out, hreads, hpart⟩ := exists_pseudoClass hcs ih
    exact ⟨out, hpeek.bind (hreads.map some), hpart⟩

/-- Where no part begins, none is read. -/
theorem reads_readPart_none (h : ¬ StartsQualifier cs) :
    Reads (readPart list) text cs (.ok (none, cs)) := by
  rw [readPart]
  refine reads_peek.bind ?_
  split
  · rename_i hc
    exact (h ⟨'#', hc, by decide⟩).elim
  · rename_i hc
    exact (h ⟨'.', hc, by decide⟩).elim
  · rename_i hc
    exact (h ⟨'[', hc, by decide⟩).elim
  · rename_i hc
    exact (h ⟨':', hc, by decide⟩).elim
  · exact reads_pure none

/-! ## Compounds -/

/-- The parts that follow are read to the end of the compound, within a limit that is higher than
what is left of the text. -/
theorem descends_partTurns {limit : Nat} (hlimit : cs.length < limit) (found : Option Selector)
    (hcs : cs <:+ text) (ih : ∀ inner, Advances cs inner → ReadsList list text inner) :
    Descends (partTurns list limit found) text .compound cs (·.run cs) (·.parts = found) := by
  induction limit generalizing cs found with
  | zero => exact absurd hlimit (Nat.not_lt_zero _)
  | succ limit ihl =>
    by_cases hq : StartsQualifier cs
    · obtain ⟨out, hreads, hpart⟩ := exists_readPart hcs hq ih
      cases out with
      | error e =>
        exact ⟨.error e, reads_position.bind hreads.bind_error, fun draft _ => hpart draft⟩
      | ok pair =>
        obtain ⟨part, mid⟩ := pair
        obtain ⟨hadv, hrun⟩ := hpart
        refine (ihl (hadv.length_lt hlimit) (some (joinPart found part)) (hadv.suffix.trans hcs)
          fun inner h => ih inner (hadv.trans h)).of_enter hadv.suffix ?_ ?_
        · rintro draft rfl
          exact ⟨draft.addPart part, rfl, hrun draft, fun next h => h⟩
        · intro out h
          exact reads_position.bind (hreads.bind ((reads_turn .parts hadv hcs).bind h))
    · refine ⟨.ok (found.getD .universal, cs),
        reads_position.bind ((reads_readPart_none hq).bind (reads_pure _)), List.suffix_rfl, hq, ?_⟩
      rintro draft rfl
      exact ⟨draft, rfl, ⟨rfl, rfl⟩, rfl⟩

end Scan

end DocQuery
