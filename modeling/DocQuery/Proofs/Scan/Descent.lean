import DocQuery.Proofs.Scan.Limits
import DocQuery.Proofs.Scan.Parts

/-!
# Reading by descent comes to the end

Each turn of a loop and each negation leaves less of the text, so that a limit that is higher than
what is left is never reached. A member is read compound by compound and a list member by member,
each along the run of a draft. With the operations it is made of, a reading of a whole text keeps
the cursor between characters, never goes back, and is further on after each turn.

- `Scan.descends_compoundTurns`, `Scan.descends_memberTurns`: the loops.
- `Scan.descends_members`: a list, however deep the negations in it are.
- `Selector.scan_keeps_boundaries`: a reading of a whole text.
-/

namespace DocQuery

open Grammar

namespace Scan

variable {text cs mid rest : List Char} {list : Scan Selector} {limit : Nat}

/-! ## Compounds -/

/-- A compound is read from its start. -/
theorem descends_parts (hlimit : cs.length < limit) (hcs : cs <:+ text)
    (ih : ∀ inner, Advances cs inner → ReadsList list text inner) :
    Descends (parts list limit) text .compound cs (startRun · cs) fun _ => True := by
  -- behind the start of the compound there are the parts
  have hbehind : ∀ {found after y}, openCompound cs = .ok (found, after) →
      (∀ out, Reads (partTurns list limit found) text after out → Reads y text cs out) →
      Descends y text .compound cs (startRun · cs) fun _ => True := by
    intro found after y hopen hy
    have hafter := openCompound_suffix hopen
    have hless := Nat.lt_of_le_of_lt hafter.length_le hlimit
    refine (descends_partTurns hless found (hafter.trans hcs) fun inner h =>
      ih inner (.suffix_trans hafter h)).of_enter hafter (fun draft _ => ?_) hy
    exact ⟨{ draft with parts := found }, rfl, startRun_eq hopen draft, fun next h => h⟩
  rw [parts]
  cases cs with
  | nil =>
    refine ⟨.ok (.universal, []), reads_peek.bind (reads_pure _), List.suffix_rfl,
      not_startsQualifier_nil, fun draft _ => ?_⟩
    exact ⟨{ draft with parts := none }, rfl, ⟨rfl, rfl⟩, startRun_eq rfl draft⟩
  | cons c tail =>
    have hpeek : Reads peek text (c :: tail) (.ok (some c, c :: tail)) := reads_peek
    by_cases hstar : c = '*'
    · subst hstar
      exact hbehind rfl fun out h => hpeek.bind ((reads_advance '*').bind h)
    by_cases hmark : c ∈ ['#', '.', '[', ':']
    · refine hbehind (openCompound_of_startsQualifier ⟨c, rfl, hmark⟩) fun out h => hpeek.bind ?_
      dsimp only
      rw [if_neg hstar, if_pos hmark]
      exact h
    have hopen : openCompound (c :: tail) = (DocQuery.readIdentifier (c :: tail)).map fun p =>
        (some (.tag (.ofName (String.ofList p.1))), p.2) := by
      rw [openCompound, if_neg hmark]
      exact hstar
    have hname : Reads readIdentifier text (c :: tail) _ := reads_readIdentifier
    cases hn : DocQuery.readIdentifier (c :: tail) with
    | error e =>
      rw [hn] at hname hopen
      refine ⟨.error e, hpeek.bind ?_, fun draft _ => ?_⟩
      · dsimp only
        rw [if_neg hstar, if_neg hmark]
        exact hname.bind_error
      · show startRun draft (c :: tail) = _
        rw [startRun, hopen]
        rfl
    | ok pair =>
      rw [hn] at hname hopen
      refine hbehind hopen fun out h => hpeek.bind ?_
      dsimp only
      rw [if_neg hstar, if_neg hmark]
      exact hname.bind h

/-! ## Members -/

/-- What stands between two compounds has been read, with the spacing in front of it: it is the end
of a member, or the combinator that every draft goes on with. -/
def IsJoint (cs : List Char) : Except Stop (Option Combinator × List Char) → Prop
  | .ok (none, rest) => EndsGroup rest ∧ DocQuery.skipBlank cs = rest
  | .ok (some k, rest) => Advances cs rest ∧ ∀ draft : Draft, draft.run cs =
      startRun { draft with pending := draft.pending.combinator draft.compound k } rest
  | .error e => ∀ draft : Draft, draft.run cs = .error e

/-- Behind the spacing there is neither a comma nor a parenthesis nor the end of the text. -/
theorem endCompound_of_ne {c : Char} {tail : List Char}
    (hmid : DocQuery.skipBlank cs = c :: tail) (hmark : ¬ (c = ',' ∨ c = ')')) (draft : Draft) :
    draft.endCompound cs =
      match Combinator.ofChar? c with
      | some k => draft.combinator k (DocQuery.skipBlank tail)
      | none =>
        if startsBlank cs then draft.combinator .descendant (c :: tail)
        else .error (.malformed (c :: tail) (.unexpectedCharacter c)) := by
  rw [Draft.endCompound, hmid]
  split
  · contradiction
  · rename_i heq
    exact absurd (.inl (List.cons.inj heq).1) hmark
  · rename_i heq
    exact absurd (.inr (List.cons.inj heq).1) hmark
  · rename_i heq
    obtain ⟨rfl, rfl⟩ := List.cons.inj heq
    rfl

/-- A combinator by its sign, or by the spacing alone. -/
theorem exists_readSign {c : Char} {tail : List Char} (hq : ¬ StartsQualifier cs)
    (hmid : DocQuery.skipBlank cs = c :: tail) (hmark : ¬ (c = ',' ∨ c = ')')) :
    ∃ out, Reads (readSign (startsBlank cs) c) text (c :: tail) out ∧
      IsJoint cs (out.map fun p => (some p.1, p.2)) := by
  have hstep := fun draft : Draft =>
    (step_eq_endCompound hq draft).trans (endCompound_of_ne hmid hmark draft)
  have hsuffix := skipBlank_suffix cs
  rw [hmid] at hsuffix
  rw [readSign]
  cases hk : Combinator.ofChar? c with
  | some k =>
    refine ⟨.ok (k, DocQuery.skipBlank tail),
      (reads_advance c).bind (reads_skipBlank.bind (reads_pure k)), ?_, fun draft => ?_⟩
    · exact .suffix_trans hsuffix (.of_cons c (skipBlank_suffix tail))
    · refine run_of_nextCompound ((hstep draft).trans ?_)
      rw [hk]
      rfl
  | none =>
    cases hb : startsBlank cs with
    | true =>
      refine ⟨.ok (.descendant, c :: tail), reads_pure _, hmid ▸ advances_skipBlank hb,
        fun draft => run_of_nextCompound ((hstep draft).trans ?_)⟩
      rw [hk, if_pos hb]
      rfl
    | false =>
      refine ⟨_, reads_refuse (.unexpectedCharacter c), fun draft => ?_⟩
      refine Draft.run_of_error ((hstep draft).trans ?_)
      simp only [hk, hb, Bool.false_eq_true, if_false]

theorem exists_readCombinator (hq : ¬ StartsQualifier cs) :
    ∃ out, Reads (readCombinator (startsBlank cs)) text (DocQuery.skipBlank cs) out ∧
      IsJoint cs out := by
  cases hmid : DocQuery.skipBlank cs with
  | nil => exact ⟨_, reads_peek.bind (reads_pure none), .inl rfl, hmid⟩
  | cons c tail =>
    have hpeek : Reads peek text (c :: tail) (.ok (some c, c :: tail)) := reads_peek
    by_cases hmark : c = ',' ∨ c = ')'
    · refine ⟨.ok (none, c :: tail), hpeek.bind ?_, ?_, hmid⟩
      · dsimp only
        rw [if_pos hmark]
        exact reads_pure none
      · rcases hmark with rfl | rfl
        · exact .inr (.inl ⟨tail, rfl⟩)
        · exact .inr (.inr ⟨tail, rfl⟩)
    · obtain ⟨out, hreads, hjoint⟩ : ∃ out, Reads _ text _ out ∧ _ :=
        exists_readSign hq hmid hmark
      refine ⟨_, hpeek.bind ?_, hjoint⟩
      dsimp only
      rw [if_neg hmark]
      exact hreads.map some

/-- The compounds that follow are read to the end of the member. -/
theorem descends_compoundTurns (hlimit : cs.length < limit) (s : Selector) (hcs : cs <:+ text)
    (hq : ¬ StartsQualifier cs) (ih : ∀ inner, Advances cs inner → ReadsList list text inner) :
    Descends (compoundTurns list limit s) text .chain cs (·.run cs) (·.upTo .chain = s) := by
  induction limit generalizing cs s with
  | zero => exact absurd hlimit (Nat.not_lt_zero _)
  | succ limit ihl =>
    obtain ⟨out, hreads, hjoint⟩ : ∃ out, Reads _ text _ out ∧ _ := exists_readCombinator hq
    rcases out with e | ⟨_ | k, mid⟩
    · exact ⟨.error e, reads_position.bind (reads_skipBlank.bind hreads.bind_error),
        fun draft _ => hjoint draft⟩
    · obtain ⟨hends, rfl⟩ := hjoint
      refine ⟨.ok (s, DocQuery.skipBlank cs),
        reads_position.bind (reads_skipBlank.bind (hreads.bind (reads_pure s))),
        skipBlank_suffix cs, hends, ?_⟩
      rintro draft rfl
      exact ⟨draft, rfl, ⟨rfl, rfl⟩, run_of_blank (blank_skipBlank cs) hends draft⟩
    · obtain ⟨hadv, hrun⟩ := hjoint
      have hmid := hadv.suffix.trans hcs
      have hright : Descends (parts list limit) text .compound mid (startRun · mid)
          fun draft => draft.pending.left = some (s, k) :=
        (descends_parts (hadv.length_lt hlimit) hmid fun inner h =>
          ih inner (hadv.trans h)).of_starts fun _ _ => trivial
      have hgoes : ∀ draft next : Draft, draft.pending.left = some (s, k) →
          draft.Keeps .compound next → next.upTo .chain = .combine k s (next.upTo .compound) :=
        fun draft next hleft hkeep => Draft.upTo_chain_combine (hkeep.2 ▸ hleft)
      have hturns : ∀ t after, after <:+ mid → ¬ StartsQualifier after →
          Descends (do
            turn .compounds (offsetOf text cs)
            compoundTurns list limit (.combine k s t)) text .chain after (·.run after)
            fun next => next.upTo .chain = .combine k s t := by
        intro t after hafter hstops
        have hless := hadv.trans_suffix hafter
        exact (ihl (hless.length_lt hlimit) (.combine k s t) (hafter.trans hmid) hstops
          fun inner h => ih inner (hless.trans h)).of_reads
          fun out h => (reads_turn .compounds hless hcs).bind h
      refine (hright.bind Draft.Keeps.chain hgoes hturns).of_enter hadv.suffix ?_ fun out h =>
        reads_position.bind (reads_skipBlank.bind (hreads.bind h))
      rintro draft rfl
      exact ⟨_, rfl, hrun draft, fun next h => h⟩

/-- A member is read from the spacing in front of it. -/
theorem descends_compounds (hlimit : cs.length < limit) (hcs : cs <:+ text)
    (ih : ∀ inner, Advances cs inner → ReadsList list text inner) :
    Descends (compounds list limit) text .chain cs
      (fun draft => startRun draft (DocQuery.skipBlank cs))
      fun draft => draft.pending.left = none := by
  have hsuffix := skipBlank_suffix cs
  have hmid := hsuffix.trans hcs
  have hless := Nat.lt_of_le_of_lt hsuffix.length_le hlimit
  have hih : ∀ inner, Advances (DocQuery.skipBlank cs) inner → ReadsList list text inner :=
    fun inner h => ih inner (.suffix_trans hsuffix h)
  have hfirst : Descends (parts list limit) text .compound (DocQuery.skipBlank cs)
      (startRun · (DocQuery.skipBlank cs)) fun draft => draft.pending.left = none :=
    (descends_parts hless hmid hih).of_starts fun _ _ => trivial
  have hgoes : ∀ draft next : Draft, draft.pending.left = none →
      draft.Keeps .compound next → next.upTo .chain = next.upTo .compound :=
    fun draft next hleft hkeep => Draft.upTo_chain (hkeep.2 ▸ hleft)
  have hturns : ∀ s after, after <:+ DocQuery.skipBlank cs → ¬ StartsQualifier after →
      Descends (compoundTurns list limit s) text .chain after (·.run after) (·.upTo .chain = s) :=
    fun s after hafter hstops =>
      descends_compoundTurns (Nat.lt_of_le_of_lt hafter.length_le hless) s (hafter.trans hmid)
        hstops fun inner h => hih inner (.suffix_trans hafter h)
  exact (hfirst.bind Draft.Keeps.chain hgoes hturns).of_enter hsuffix
    (fun draft hleft => ⟨draft, hleft, rfl, fun next h => h⟩) fun out h => reads_skipBlank.bind h

/-! ## Lists -/

/-- The members that follow are read to the end of the list. -/
theorem descends_memberTurns (hlimit : cs.length < limit) (s : Selector) (hcs : cs <:+ text)
    (hends : EndsGroup cs) (ih : ∀ inner, Advances cs inner → ReadsList list text inner) :
    Descends (memberTurns list limit s) text .group cs (·.run cs) (·.upTo .group = s) := by
  induction limit generalizing cs s with
  | zero => exact absurd hlimit (Nat.not_lt_zero _)
  | succ limit ihl =>
    by_cases hcomma : ∃ tail, cs = ',' :: tail
    · obtain ⟨tail, rfl⟩ := hcomma
      have htail := (List.suffix_cons ',' tail).trans hcs
      have hadv : Advances (',' :: tail) tail := .of_cons ',' List.suffix_rfl
      have hmember : Descends (compounds list limit) text .chain tail
          (fun draft => startRun draft (DocQuery.skipBlank tail))
          fun draft => draft.pending = { members := some s } :=
        (descends_compounds (hadv.length_lt hlimit) htail fun inner h =>
          ih inner (hadv.trans h)).of_starts fun draft h => by rw [h]
      have hgoes : ∀ draft next : Draft, draft.pending = { members := some s } →
          draft.Keeps .chain next → next.upTo .group = .union s (next.upTo .chain) :=
        fun draft next hpending hkeep =>
          Draft.upTo_group_union (hkeep.2.trans (congrArg Pending.members hpending))
      have hturns : ∀ t after, after <:+ tail → EndsGroup after →
          Descends (do
            turn .members (offsetOf text (',' :: tail))
            memberTurns list limit (.union s t)) text .group after (·.run after)
            fun next => next.upTo .group = .union s t := by
        intro t after hafter hstops
        have hless := hadv.trans_suffix hafter
        exact (ihl (hless.length_lt hlimit) (.union s t) (hafter.trans htail) hstops
          fun inner h => ih inner (hless.trans h)).of_reads
          fun out h => (reads_turn .members hless hcs).bind h
      refine (hmember.bind Draft.Keeps.group hgoes hturns).of_enter hadv.suffix ?_
        fun out h => reads_position.bind ((reads_eat ',').bind h)
      rintro ⟨negations, pending, parts⟩ rfl
      exact ⟨_, rfl, run_comma negations pending parts tail, fun next h => h⟩
    · have hne : ∀ tail, cs ≠ ',' :: tail := fun tail h => hcomma ⟨tail, h⟩
      refine ⟨.ok (s, cs), reads_position.bind ((reads_eat_of_ne hne).bind (reads_pure s)),
        List.suffix_rfl, ?_, ?_⟩
      · rcases hends with hnil | hcomma' | hparen
        · exact .inl hnil
        · exact (hcomma hcomma').elim
        · exact .inr hparen
      · rintro draft rfl
        exact ⟨draft, rfl, rfl, rfl⟩

/-- **A list is read to its end**, however deep the negations in it are: each of them reads a list
in what is left behind its parenthesis. -/
theorem descends_members (hlimit : cs.length < limit) (hcs : cs <:+ text) :
    ReadsList (members limit) text cs := by
  induction limit generalizing cs with
  | zero => exact absurd hlimit (Nat.not_lt_zero _)
  | succ limit ihl =>
    have ih : ∀ inner, Advances cs inner → ReadsList (members limit) text inner :=
      fun inner h => ihl (h.length_lt hlimit) (h.suffix.trans hcs)
    have hfirst : Descends (compounds (members limit) (limit + 1)) text .chain cs
        (fun draft => startRun draft (DocQuery.skipBlank cs)) fun draft => draft.pending = {} :=
      (descends_compounds hlimit hcs ih).of_starts fun draft h => by rw [h]
    have hgoes : ∀ draft next : Draft, draft.pending = {} →
        draft.Keeps .chain next → next.upTo .group = next.upTo .chain :=
      fun draft next hpending hkeep =>
        Draft.upTo_group (hkeep.2.trans (congrArg Pending.members hpending))
    have hturns : ∀ s after, after <:+ cs → EndsGroup after →
        Descends (memberTurns (members limit) (limit + 1) s) text .group after (·.run after)
          (·.upTo .group = s) :=
      fun s after hafter hstops =>
        descends_memberTurns (Nat.lt_of_le_of_lt hafter.length_le hlimit) s (hafter.trans hcs)
          hstops fun inner h => ih inner (.suffix_trans hafter h)
    exact hfirst.bind Draft.Keeps.group hgoes hturns

/-! ## Whole texts -/

/-- A whole text is read as the steps of a draft read it. -/
theorem reads_whole (hlimit : text.length < limit) :
    Reads (whole limit) text text ((parseChars text).map fun s => (s, [])) := by
  obtain ⟨out, hreads, halong⟩ := descends_members hlimit (List.suffix_refl text)
  cases out with
  | error e =>
    have hparse : parseChars text = .error e := halong {} rfl
    rw [hparse]
    exact hreads.bind_error
  | ok pair =>
    obtain ⟨s, rest⟩ := pair
    obtain ⟨-, hstops, hrun⟩ := halong
    obtain ⟨⟨negations, pending, parts⟩, hclose, hkeeps, hparse⟩ := hrun {} rfl
    obtain rfl : negations = [] := hkeeps
    replace hparse : parseChars text = Draft.run ⟨[], pending, parts⟩ rest := hparse
    rcases hstops with rfl | ⟨tail, rfl⟩
    · rw [hparse, run_nil]
      exact hreads.bind (reads_peek.bind (hclose ▸ reads_pure _))
    · rw [hparse, run_paren_nil]
      exact hreads.bind (reads_peek.bind (reads_refuse (.trailing ')')))

end Scan

namespace Selector

/-- **Reading comes to an end on every text, and the cursor keeps to its characters.** There is one
cursor at the end for all limits that are higher than the number of characters: no loop takes more
turns, and no more negations are in each other. The outcome is that of `Selector.parse`, so that no
part of the text is asked for that is not there. All places of the cursor are between characters,
it has never gone back, and each turn of a loop and each negation has moved it on. -/
theorem scan_keeps_boundaries (text : String) :
    ∃ cursor : Cursor,
      (∀ limit, text.length < limit →
        scan limit text = some ((parse text).mapError Halt.refused, cursor)) ∧
      (∀ p ∈ cursor.places, p ≤ text.utf8ByteSize ∧
        ∃ before rest : String, text = before ++ rest ∧ p = before.utf8ByteSize) ∧
      cursor.places.Pairwise (· ≥ ·) ∧ ∀ turn ∈ cursor.turns, turn.start < turn.stop := by
  have hlength : text.toList.length < text.length + 1 := by
    rw [String.length_toList]
    exact Nat.lt_succ_self _
  have hreads : Scan.Reads (Scan.whole _) text.toList text.toList _ := Scan.reads_whole hlength
  obtain ⟨r, cursor, hrun, hleads, hends⟩ := hreads {} ⟨[], rfl, rfl⟩
  have hsound := hleads.sound (Cursor.sound_start text.toList)
  have hr : r = (parse text).mapError Halt.refused := by
    rw [parse]
    cases hparse : parseChars text.toList with
    | error e =>
      rw [hparse] at hends
      exact hends
    | ok s =>
      rw [hparse] at hends
      exact hends.1
  refine ⟨cursor, fun limit h => scan_of_le (hr ▸ hrun) h, fun p hp => ?_, hsound.onward,
    hsound.progress⟩
  obtain ⟨before, rest, heq, rfl⟩ := hsound.between p hp
  refine ⟨?_, String.ofList before, String.ofList rest, ?_, ?_⟩
  · rw [← byteLength_toList, heq, byteLength_append]
    exact Nat.le_add_right _ _
  · rw [← String.ofList_append, ← heq, String.ofList_toList]
  · rw [← byteLength_toList, String.toList_ofList]

end Selector

end DocQuery
