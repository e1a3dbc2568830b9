import DocQuery.Proofs.Errors.Local
import DocQuery.Proofs.Errors.Truth
import DocQuery.Proofs.Grammar.Completeness

/-!
# Errors are final

Every reader of selector text is local, and so is a whole run: what has been read before an error
was decided by the text up to its place and two characters more. So an error stays what it is
however the text goes on behind them. For the name of a pseudo-class that is not known it takes the
whole name and the character behind it.

- `isLocal_readName`, `isLocal_readIdentifier`, `isLocal_readTest`: the readers.
- `Draft.isLocal_step`, `Draft.isLocal_run`: steps and runs.
- `Selector.parse_eq_error_of_decidedBy`: the errors of whole texts, with their byte offsets.
-/

namespace DocQuery

open Grammar

/-! ## Names -/

/-- What follows the characters of a name. -/
def endName (name rest : List Char) : Except Stop (List Char × List Char) :=
  if rest.head? = some '\\' then .error (.escape rest)
  else if name = [] then .error (.malformed rest .emptyName)
  else .ok (name, rest)

theorem readName_eq_endName (cs : List Char) :
    readName cs = endName (cs.takeWhile isNameChar) (cs.dropWhile isNameChar) := rfl

theorem isLocal_endName (name : List Char) : IsLocal (endName name) := by
  refine .of_cons ?_ fun c => ?_
  · intro rest h
    by_cases hname : name = []
    · rw [endName, if_neg (by simp), if_pos hname] at h
      exact (Option.some.inj h).symm
    · rw [endName, if_neg (by simp), if_neg hname] at h
      exact (Option.some.inj h).symm
  · by_cases hc : c = '\\'
    · subst hc
      exact ⟨_, .error (.escape []), fun cs => rfl⟩
    · have hslash : ∀ cs, ¬ (c :: cs).head? = some '\\' := fun cs h => hc (Option.some.inj h)
      by_cases hname : name = []
      · exact ⟨_, .malformed .emptyName, fun cs => by
          rw [endName, if_neg (hslash cs), if_pos hname]⟩
      · exact ⟨_, .ok name, fun cs => by rw [endName, if_neg (hslash cs), if_neg hname]⟩

/-- One character more than the name shows that it ends. -/
theorem isLocal_readName : IsLocal readName := by
  rw [funext readName_eq_endName]
  exact (isLocal_span isNameChar).bind isLocal_endName

theorem isLocal_readPlainIdentifier : IsLocal readPlainIdentifier := by
  refine .of_cons (fun rest h => (Option.some.inj h).symm) fun c => ?_
  by_cases hc : (isNameStart c || c == '\\') = true
  · exact ⟨_, isLocal_readName, fun cs => if_pos hc⟩
  · exact ⟨_, .malformed (.unexpectedCharacter c), fun cs => if_neg hc⟩

theorem isLocal_readIdentifier : IsLocal readIdentifier := by
  refine .of_cons (fun rest h => (Option.some.inj h).symm) fun c => ?_
  by_cases hc : c = '-'
  · subst hc
    have hplain := isLocal_readPlainIdentifier.tail.map (f := fun pair => ('-' :: pair.1, pair.2))
      (fun _ => rfl) (fun _ _ => rfl)
    exact ⟨_, hplain, fun cs => rfl⟩
  · refine ⟨_, isLocal_readPlainIdentifier, fun cs => ?_⟩
    rw [readIdentifier]
    rintro after heq
    exact hc (List.cons.inj heq).1

/-! ## Attribute tests -/

/-- What follows the characters of a quoted text. -/
def endQuoted (mark : Char) (value cs : List Char) : Except Stop (List Char × List Char) :=
  match cs with
  | [] => .error (.malformed [] .unterminatedString)
  | c :: rest =>
    if c = mark then .ok (value, rest)
    else if c = '\\' then .error (.escape (c :: rest))
    else .error (.malformed (c :: rest) .lineBreakInString)

theorem readQuoted_eq_endQuoted (mark : Char) (cs : List Char) :
    readQuoted mark cs =
      endQuoted mark (cs.takeWhile (isQuotable mark)) (cs.dropWhile (isQuotable mark)) := rfl

theorem isLocal_endQuoted (mark : Char) (value : List Char) : IsLocal (endQuoted mark value) := by
  refine .of_cons (fun rest h => (Option.some.inj h).symm) fun c => ?_
  by_cases hmark : c = mark
  · exact ⟨_, (IsLocal.ok value).tail, fun cs => if_pos hmark⟩
  · by_cases hslash : c = '\\'
    · exact ⟨_, .error (.escape []), fun cs => (if_neg hmark).trans (if_pos hslash)⟩
    · exact ⟨_, .malformed .lineBreakInString, fun cs => (if_neg hmark).trans (if_neg hslash)⟩

theorem isLocal_readQuoted (mark : Char) : IsLocal (readQuoted mark) := by
  rw [funext (readQuoted_eq_endQuoted mark)]
  exact (isLocal_span (isQuotable mark)).bind (isLocal_endQuoted mark)

theorem isLocal_readValue : IsLocal readValue := by
  refine .of_cons (fun rest h => (Option.some.inj h).symm) fun c => ?_
  by_cases hdouble : c = '"'
  · subst hdouble
    exact ⟨_, (isLocal_readQuoted '"').tail, fun cs => rfl⟩
  · by_cases hsingle : c = '\''
    · subst hsingle
      exact ⟨_, (isLocal_readQuoted '\'').tail, fun cs => rfl⟩
    · refine ⟨_, isLocal_readIdentifier, fun cs => ?_⟩
      rw [readValue]
      · exact List.cons_ne_nil c cs
      · exact fun after heq => hdouble (List.cons.inj heq).1
      · exact fun after heq => hsingle (List.cons.inj heq).1

/-- An operator is the one reader that looks at two characters itself. -/
theorem isLocal_readOperator : IsLocal readOperator := by
  refine .of_cons_cons ?_ fun c d => ?_
  · intro cs rest h
    cases hr : readOperator cs with
    | ok pair =>
      rw [hr] at h
      exact Option.some.inj h ▸ readOperator_suffix hr
    | error e =>
      rw [hr] at h
      exact (readOperator_error hr).place?_eq h ▸ List.suffix_rfl
  · generalize hpair : [c, d] = pair
    fun_cases readOperator pair with
    | case1 =>
      obtain ⟨rfl, -⟩ := List.cons.inj hpair
      exact ⟨_, (IsLocal.ok .equals).tail, fun cs => rfl⟩
    | case6 =>
      obtain ⟨rfl, htail⟩ := List.cons.inj hpair
      obtain ⟨rfl, -⟩ := List.cons.inj htail
      refine ⟨_, .malformed (.unknownOperator (String.ofList [c, d])), fun cs => ?_⟩
      rw [readOperator]
      all_goals assumption
    | case7 =>
      rename_i hlong
      exact (hlong c d [] hpair.symm).elim
    | _ =>
      obtain ⟨rfl, htail⟩ := List.cons.inj hpair
      obtain ⟨rfl, -⟩ := List.cons.inj htail
      exact ⟨_, (IsLocal.ok _).tail.tail, fun cs => rfl⟩

theorem isLocal_closeBracket {α : Type} (a : α) :
    IsLocal fun cs => closeBracket cs >>= fun rest => .ok (a, rest) := by
  refine .of_cons (fun rest h => (Option.some.inj h).symm) fun c => ?_
  by_cases hc : c = ']'
  · subst hc
    exact ⟨_, (IsLocal.ok a).tail, fun cs => rfl⟩
  · refine ⟨_, .malformed .missingClosingBracket, fun cs => ?_⟩
    rw [closeBracket]
    · rfl
    · exact fun after heq => hc (List.cons.inj heq).1

/-- What follows the name of a test, part by part. -/
theorem isLocal_readTestOf (name : String) : IsLocal (readTestOf name) := by
  refine .of_cons (fun rest h => (Option.some.inj h).symm) fun c => ?_
  by_cases hc : c = ']'
  · subst hc
    exact ⟨_, (IsLocal.ok _).tail, fun cs => rfl⟩
  · have hvalue (comparison : Comparison) := isLocal_readValue.bind fun value =>
      (isLocal_closeBracket (AttributeTest.mk comparison name (String.ofList value))).skipBlank
    have hcompare := isLocal_readOperator.bind fun comparison => (hvalue comparison).skipBlank
    refine ⟨_, hcompare, fun cs => ?_⟩
    rw [readTestOf]
    · rfl
    · exact List.cons_ne_nil c cs
    · exact fun after heq => hc (List.cons.inj heq).1

theorem isLocal_readTest : IsLocal readTest := by
  have htest := isLocal_readIdentifier.bind fun name =>
    (isLocal_readTestOf (String.ofList name)).skipBlank
  exact htest.skipBlank

/-! ## Steps -/

theorem isLocal_openCompound : IsLocal openCompound := by
  refine .of_cons (fun rest h => (Option.some.inj h).symm) fun c => ?_
  by_cases hstar : c = '*'
  · subst hstar
    exact ⟨_, (IsLocal.ok none).tail, fun cs => rfl⟩
  · by_cases hc : c ∈ ['#', '.', '[', ':']
    · refine ⟨_, .ok none, fun cs => ?_⟩
      rw [openCompound, if_pos hc]
      exact hstar
    · have htag := isLocal_readIdentifier.map
        (f := fun pair => (some (Selector.tag (.ofName (String.ofList pair.1))), pair.2))
        (fun _ => rfl) (fun _ _ => rfl)
      refine ⟨_, htag, fun cs => ?_⟩
      rw [openCompound, if_neg hc]
      exact hstar

/-- What is read from the front takes the draft further. -/
theorem IsLocal.continueWith {α : Type} {read : List Char → Except Stop (α × List Char)}
    (h : IsLocal read) (next : α → Draft) :
    IsLocal fun cs => DocQuery.continueWith (read cs) next :=
  h.map (fun _ => rfl) (fun _ _ => rfl)

namespace Draft

theorem isLocal_nextCompound (draft : Draft) : IsLocal draft.nextCompound :=
  isLocal_openCompound.continueWith fun parts => { draft with parts }

theorem isLocal_openNegation (draft : Draft) : IsLocal draft.openNegation := by
  refine .of_cons (fun rest h => (Option.some.inj h).symm) fun c => ?_
  by_cases hc : c = '('
  · subst hc
    exact ⟨_, (isLocal_nextCompound _).skipBlank.tail, fun cs => rfl⟩
  · refine ⟨_, .malformed .missingOpeningParenthesis, fun cs => ?_⟩
    rw [openNegation]
    exact fun after heq => hc (List.cons.inj heq).1

theorem pseudoClass_of_error {cs : List Char} {e : Stop} (draft : Draft)
    (h : readIdentifier cs = .error e) : draft.pseudoClass cs = .error e := by
  rw [pseudoClass, h]
  rfl

/-- What a pseudo-class does once its name has been read. -/
theorem pseudoClass_eq {cs name rest : List Char} (draft : Draft)
    (h : readIdentifier cs = .ok (name, rest)) :
    draft.pseudoClass cs =
      if String.ofList (Text.lowerCase name) = "not" then draft.openNegation rest
      else if String.ofList (Text.lowerCase name) ∈ unsupportedPseudoClasses then
        .error (.unsupported (String.ofList (Text.lowerCase name)))
      else .error (.malformed cs (.unknownPseudoClass (String.ofList (Text.lowerCase name)))) := by
  rw [pseudoClass, h]
  rfl

/-- An identifier in front of a character that it cannot hold is read up to there, whatever comes
behind that character. -/
theorem readIdentifier_cons_agrees {identifier name tail rest : List Char} {c : Char}
    (hid : IsIdentifier identifier) (hc : isNameChar c = false)
    (h : readIdentifier (identifier ++ c :: tail) = .ok (name, rest)) (other : List Char) :
    readIdentifier (identifier ++ c :: other) = .ok (name, c :: other) := by
  obtain ⟨hname, heq⟩ := isIdentifier_of_readIdentifier h
  have hrest := boundary_of_readIdentifier h
  -- the longest name in front is what has been read, and it is the identifier
  have htake := (takeWhile_append_of_boundary (isName_of_isIdentifier hname).2 hrest).1
  rw [← heq, List.takeWhile_append_of_pos (isName_of_isIdentifier hid).2,
    List.takeWhile_cons_of_neg (by simp [hc]), List.append_nil] at htake
  subst htake
  obtain rfl : c :: tail = rest := List.append_cancel_left heq
  exact readIdentifier_append hid (boundary_cons hc (hrest c rfl).2 other)

/-- The name of a pseudo-class is looked up behind its end, and an unknown one is blamed where it
begins. -/
theorem isLocal_pseudoClass (draft : Draft) : IsLocal draft.pseudoClass where
  suffix {cs rest} h := by
    cases hr : readIdentifier cs with
    | error e =>
      rw [pseudoClass_of_error draft hr] at h
      exact isLocal_readIdentifier.suffix (by rw [hr]; exact h)
    | ok pair =>
      rw [pseudoClass_eq draft hr] at h
      split at h
      · exact ((isLocal_openNegation draft).suffix h).trans (advances_readIdentifier hr).suffix
      · split at h
        · contradiction
        · exact Option.some.inj h ▸ List.suffix_rfl
  agrees {used ahead tail} h ha other := by
    cases hr : readIdentifier (used ++ (ahead ++ tail)) with
    | error e =>
      rw [pseudoClass_of_error draft hr] at h ha ⊢
      exact pseudoClass_of_error draft (isLocal_readIdentifier.error_agrees hr h ha other)
    | ok pair =>
      obtain ⟨name, mid⟩ := pair
      rw [pseudoClass_eq draft hr] at h ha ⊢
      by_cases hnot : String.ofList (Text.lowerCase name) = "not"
      · rw [if_pos hnot] at h ha ⊢
        obtain ⟨between, rfl⟩ := (isLocal_openNegation draft).suffix h
        have hname := isLocal_readIdentifier.ok_agrees hr rfl ha.two_le other
        rw [pseudoClass_eq draft hname, if_pos hnot]
        exact (isLocal_openNegation draft).agrees h ha other
      · rw [if_neg hnot] at h ha ⊢
        by_cases hknown : String.ofList (Text.lowerCase name) ∈ unsupportedPseudoClasses
        · rw [if_pos hknown] at h
          contradiction
        -- the identifier and the character behind it are known
        · rw [if_neg hknown] at h ha ⊢
          obtain rfl := List.append_left_eq_self.1 (Option.some.inj h)
          obtain ⟨identifier, c, after, rfl, hid, hc⟩ := ha
          simp only [List.nil_append, List.append_assoc, List.cons_append] at hr ⊢
          have hother := readIdentifier_cons_agrees hid hc hr (after ++ other)
          rw [pseudoClass_eq draft hother, if_neg hnot, if_neg hknown]
          rfl

/-! ## The end of a compound -/

/-- What follows a compound and the spacing behind it. -/
def endAt (draft : Draft) (spaced : Bool) (cs : List Char) : Except Stop Progress :=
  match cs with
  | [] => draft.endText
  | ',' :: rest =>
    { draft with pending := draft.pending.comma draft.compound }.nextCompound (skipBlank rest)
  | ')' :: rest => draft.closeNegation (')' :: rest) rest
  | c :: rest =>
    match Combinator.ofChar? c with
    | some combinator => draft.combinator combinator (skipBlank rest)
    | none =>
      if spaced then draft.combinator .descendant (c :: rest)
      else .error (.malformed (c :: rest) (.unexpectedCharacter c))

theorem endCompound_eq_endAt (draft : Draft) (cs : List Char) :
    draft.endCompound cs = draft.endAt (startsBlank cs) (skipBlank cs) := rfl

theorem isLocal_closeNegation (draft : Draft) :
    IsLocal fun cs => draft.closeNegation cs cs.tail := by
  unfold closeNegation
  cases draft.negations with
  | nil => exact .malformed (.trailing ')')
  | cons negation others =>
    have hclose := (IsLocal.ok ()).tail.continueWith fun _ => Draft.mk others negation.outer
      (some (joinPart negation.parts (.not (draft.pending.close draft.compound))))
    exact hclose

theorem isLocal_endAt (draft : Draft) (spaced : Bool) : IsLocal (draft.endAt spaced) := by
  refine .of_cons ?_ fun c => ?_
  · intro rest h
    unfold endAt endText at h
    cases hn : draft.negations with
    | nil =>
      rw [hn] at h
      contradiction
    | cons negation others =>
      rw [hn] at h
      exact (Option.some.inj h).symm
  · by_cases hcomma : c = ','
    · subst hcomma
      exact ⟨_, (isLocal_nextCompound _).skipBlank.tail, fun cs => rfl⟩
    · by_cases hparen : c = ')'
      · subst hparen
        exact ⟨_, isLocal_closeNegation draft, fun cs => rfl⟩
      · have hend : ∀ cs, draft.endAt spaced (c :: cs) =
            match Combinator.ofChar? c with
            | some combinator => draft.combinator combinator (skipBlank cs)
            | none =>
              if spaced then draft.combinator .descendant (c :: cs)
              else .error (.malformed (c :: cs) (.unexpectedCharacter c)) := by
          intro cs
          rw [endAt]
          · exact hcomma
          · exact hparen
        simp only [hend]
        cases Combinator.ofChar? c with
        | some k => exact ⟨_, (isLocal_nextCompound _).skipBlank.tail, fun cs => rfl⟩
        | none =>
          cases spaced with
          | true => exact ⟨_, isLocal_nextCompound _, fun cs => rfl⟩
          | false => exact ⟨_, .malformed (.unexpectedCharacter c), fun cs => rfl⟩

theorem isLocal_endCompound (draft : Draft) : IsLocal draft.endCompound := by
  rw [funext (endCompound_eq_endAt draft)]
  exact .of_startsBlank fun spaced => (isLocal_endAt draft spaced).skipBlank

/-! ## Steps and runs -/

/-- **A step is local**, with each kind of part and at the end of a compound. -/
theorem isLocal_step (draft : Draft) : IsLocal draft.step := by
  refine .of_cons ?_ fun c => ?_
  · intro rest h
    exact List.suffix_nil.1 ((isLocal_endCompound draft).suffix h)
  · by_cases hc : c ∈ ['#', '.', '[', ':']
    · simp only [List.mem_cons, List.not_mem_nil, or_false] at hc
      rcases hc with rfl | rfl | rfl | rfl
      · have hread := isLocal_readName.continueWith fun name =>
          draft.addPart (.test ⟨.equals, "id", String.ofList name⟩)
        exact ⟨_, hread.tail, fun cs => rfl⟩
      · have hread := isLocal_readIdentifier.continueWith fun name =>
          draft.addPart (.test ⟨.listed, "class", String.ofList name⟩)
        exact ⟨_, hread.tail, fun cs => rfl⟩
      · have hread := isLocal_readTest.continueWith fun test => draft.addPart (.test test)
        exact ⟨_, hread.tail, fun cs => rfl⟩
      · exact ⟨_, (isLocal_pseudoClass draft).tail, fun cs => rfl⟩
    · exact ⟨_, isLocal_endCompound draft, fun cs =>
        step_eq_endCompound (not_startsQualifier_cons hc cs) draft⟩

/-- A run that fails has stopped inside its text. -/
theorem suffix_of_run {draft : Draft} {cs rest : List Char}
    (h : restOf? (draft.run cs) = some rest) : rest <:+ cs := by
  cases hr : draft.run cs with
  | ok s =>
    rw [hr] at h
    contradiction
  | error e =>
    rw [hr] at h
    exact (tells_of_run hr).place?_suffix h

/-- **A run is local**: its error is that of its last step, and every step before goes on in the
same way. -/
theorem isLocal_run (draft : Draft) : IsLocal draft.run where
  suffix h := suffix_of_run h
  agrees {used ahead tail} h ha other := by
    generalize htext : used ++ (ahead ++ tail) = text at h ha ⊢
    fun_induction Draft.run draft text generalizing used with
    | case1 draft text e hstep =>
      subst htext
      exact run_of_error ((isLocal_step draft).error_agrees hstep h ha other)
    | case2 draft text s hstep => contradiction
    | case3 draft text next rest hstep ih =>
      subst htext
      obtain ⟨between, rfl⟩ := suffix_of_run h
      have hother := (isLocal_step draft).ok_agrees hstep rfl ha.two_le other
      rw [run_of_reading hother]
      exact ih rfl h ha

end Draft

/-! ## Whole texts -/

theorem isLocal_parseChars : IsLocal parseChars :=
  (isLocal_openCompound.bind fun parts => Draft.isLocal_run { parts }).skipBlank

namespace Selector

/-- **Errors are final**: an error stays the very same, with its offset and all that it tells, as
long as the text before its place stays and goes on in the same way for two characters, or for
one character more than the name of an unknown pseudo-class. -/
theorem parse_eq_error_of_decidedBy (before ahead rest : String) (e : ParseError Nat)
    (h : parse (before ++ (ahead ++ rest)) = .error e) (hp : e.place? = some before.utf8ByteSize)
    (ha : e.DecidedBy ahead.toList) (other : String) :
    parse (before ++ (ahead ++ other)) = .error e := by
  obtain ⟨stop, hstop, hplace, rfl⟩ := exists_of_parse_append_eq_error h hp
  rw [String.toList_append] at hstop hplace
  have hother := isLocal_parseChars.error_agrees hstop hplace
    ((ParseError.decidedBy_map _).1 ha) other.toList
  rw [parse, String.toList_append, String.toList_append, hother]
  refine congrArg Except.error ?_
  show ParseError.map _ (ParseError.map _ stop) = _
  rw [ParseError.map_map, String.toList_append]
  -- the text before the place has not changed, and neither has its length
  refine ParseError.map_congr fun place hmem => ?_
  obtain rfl := Option.some.inj (hplace.symm.trans hmem)
  show offsetOf _ (ahead.toList ++ other.toList) = _
  rw [offsetOf_append, offsetOf_append]

/-- A pseudo-class of no known name is refused before the negation around it is closed. -/
theorem parse_eq_error_of_decidedBy_capital :
    let e : ParseError Nat := .malformed 11 (.unknownPseudoClass "élan")
    parse ("é :not( *:" ++ ("ÉLAN(" ++ "")) = .error e ∧
      parse ("é :not( *:" ++ ("ÉLAN(" ++ "b) > *)")) = .error e := by
  intro e
  have h : parse ("é :not( *:" ++ ("ÉLAN(" ++ "")) = .error e := by decide +kernel
  have hname : IsIdentifier "ÉLAN".toList := isIdentifier_of_all (by decide) (by decide)
  have ha : e.DecidedBy "ÉLAN(".toList := ⟨"ÉLAN".toList, '(', [], rfl, hname, by decide⟩
  exact ⟨h, parse_eq_error_of_decidedBy _ _ _ e h rfl ha _⟩

end Selector

end DocQuery
