import DocQuery.Selector.Parser
import DocQuery.Warning

/-!
# Reading with warnings

Escape sequences, and pseudo-classes on the position of a node, are understood and not supported.
They are errors, and each is worth a warning as well, which is shown right where it is met; the
error then makes its way out through all the readings that were under way. The readings here go
step by step with those that show nothing, and each of them comes with the equation that says so.

- `Terminal`: the log of warnings, and the text that has gone to the terminal.
- `Reporting`: readings that may show warnings.
- `Reporting.refuseEscape`, `Reporting.refusePseudoClass`: the two places where one is shown.
- `ParseError.warning?`: the warning that goes with an error.
- `Reporting.outcome`: a reading that shows nothing but the warning of its error, at its end.
- `Selector.parseReporting`: a selector from text, with the warnings shown.
-/

namespace DocQuery

/-! ## Warnings and errors -/

/-- The warning that escape sequences are not supported. -/
def Warning.ofEscape : Warning := ⟨"Selector", "escape sequences in selectors are unsupported"⟩

/-- The warning that a pseudo-class is not supported. -/
def Warning.ofPseudoClass (name : String) : Warning :=
  ⟨"Selector", "unsupported pseudo-class ':" ++ name ++ "'"⟩

/-- The warning that goes with an error: escape sequences and unsupported pseudo-classes have one,
malformed text has none. -/
def ParseError.warning? {Place : Type} : ParseError Place → Option Warning
  | malformed _ _ => none
  | escape _ => some .ofEscape
  | unsupported pseudoClass => some (.ofPseudoClass pseudoClass)

/-! ## Readings that may show warnings -/

/-- The log of warnings, and all text that has gone to the terminal. -/
structure Terminal where
  log : WarningLog
  shown : String := ""

namespace Terminal

/-- Shows the warning, unless one of the same label has been shown. -/
def warn (t : Terminal) (w : Warning) : Terminal :=
  ⟨(t.log.warn w).1, t.shown ++ (t.log.warn w).2⟩

/-- Shows the warning, if there is one. -/
def warnOf (t : Terminal) : Option Warning → Terminal
  | some w => t.warn w
  | none => t

end Terminal

/-- A reading that may show warnings. An error leaves what has been shown before it. -/
abbrev Reporting (α : Type) : Type := ExceptT Stop (StateM Terminal) α

namespace Reporting

/-- Shows the warning, unless one of the same label has been shown. -/
def warn (w : Warning) : Reporting Unit := modify (·.warn w)

/-- A reading that shows nothing. -/
def quietly {α : Type} (read : Except Stop α) : Reporting α := ExceptT.mk (pure read)

/-- Refuses an escape sequence, with its warning. -/
def refuseEscape {α : Type} (cs : List Char) : Reporting α := do
  warn .ofEscape
  throw (.escape cs)

/-- Refuses a pseudo-class that is not supported, with its warning. -/
def refusePseudoClass {α : Type} (name : String) : Reporting α := do
  warn (.ofPseudoClass name)
  throw (.unsupported name)

/-- The outcome of a reading that shows nothing, and then the warning of its error. -/
def outcome {α : Type} (read : Except Stop α) : Reporting α := fun t =>
  match read with
  | .ok a => (.ok a, t)
  | .error e => (.error e, t.warnOf e.warning?)

section

variable {α β : Type}

theorem refuseEscape_eq (cs : List Char) :
    refuseEscape (α := α) cs = outcome (.error (.escape cs)) := rfl

theorem refusePseudoClass_eq (name : String) :
    refusePseudoClass (α := α) name = outcome (.error (.unsupported name)) := rfl

/-- An error ends a reading in steps, and its warning is the only one. -/
theorem outcome_bind (read : Except Stop α) (f : α → Except Stop β) :
    outcome (read >>= f) = outcome read >>= fun a => outcome (f a) := by
  cases read <;> rfl

theorem outcome_map (read : Except Stop α) (f : α → β) :
    outcome (read.map f) = outcome read >>= fun a => pure (f a) := by
  cases read <;> rfl

/-- Whoever finds nothing but malformed text shows nothing. -/
theorem quietly_eq {read : Except Stop α} (h : ∀ e, read = .error e → e.warning? = none) :
    quietly read = outcome read := by
  cases read with
  | ok a => rfl
  | error e =>
    funext t
    show (Except.error e, t) = (Except.error e, t.warnOf e.warning?)
    rw [h e rfl]
    rfl

end

/-! ## Names -/

/-- A name. -/
def readName (cs : List Char) : Reporting (List Char × List Char) :=
  let name := cs.takeWhile isNameChar
  let rest := cs.dropWhile isNameChar
  if rest.head? = some '\\' then refuseEscape rest
  else if name = [] then throw (.malformed rest .emptyName)
  else pure (name, rest)

theorem readName_eq (cs : List Char) : readName cs = outcome (DocQuery.readName cs) := by
  simp only [readName, DocQuery.readName]
  split
  · exact refuseEscape_eq _
  · split <;> rfl

/-- A name that starts with a letter or an underscore. -/
def readPlainIdentifier (cs : List Char) : Reporting (List Char × List Char) :=
  match cs with
  | [] => throw (.malformed [] .unexpectedEnd)
  | c :: _ =>
    if isNameStart c || c == '\\' then readName cs
    else throw (.malformed cs (.unexpectedCharacter c))

theorem readPlainIdentifier_eq (cs : List Char) :
    readPlainIdentifier cs = outcome (DocQuery.readPlainIdentifier cs) := by
  fun_cases DocQuery.readPlainIdentifier cs with
  | case1 => rfl
  | case2 c rest hc =>
    rw [readPlainIdentifier, if_pos hc]
    exact readName_eq _
  | case3 c rest hc =>
    rw [readPlainIdentifier, if_neg hc]
    rfl

/-- An identifier. -/
def readIdentifier (cs : List Char) : Reporting (List Char × List Char) :=
  match cs with
  | '-' :: after => do
    let (name, rest) ← readPlainIdentifier after
    return ('-' :: name, rest)
  | _ => readPlainIdentifier cs

theorem readIdentifier_eq (cs : List Char) :
    readIdentifier cs = outcome (DocQuery.readIdentifier cs) := by
  fun_cases DocQuery.readIdentifier cs with
  | case1 after =>
    rw [outcome_map, ← readPlainIdentifier_eq]
    rfl
  | case2 _ hcs =>
    rw [readIdentifier]
    · exact readPlainIdentifier_eq cs
    · exact hcs

/-! ## Attribute tests -/

/-- A quoted text, from behind its opening mark. -/
def readQuoted (mark : Char) (cs : List Char) : Reporting (List Char × List Char) :=
  match cs.dropWhile (isQuotable mark) with
  | [] => throw (.malformed [] .unterminatedString)
  | c :: rest =>
    if c = mark then pure (cs.takeWhile (isQuotable mark), rest)
    else if c = '\\' then refuseEscape (c :: rest)
    else throw (.malformed (c :: rest) .lineBreakInString)

theorem readQuoted_eq (mark : Char) (cs : List Char) :
    readQuoted mark cs = outcome (DocQuery.readQuoted mark cs) := by
  rw [readQuoted]
  fun_cases DocQuery.readQuoted mark cs with
  | case1 hcs =>
    rw [hcs]
    rfl
  | case2 rest hcs =>
    simp only [hcs, if_true]
    rfl
  | case3 rest hcs hmark => simp only [hcs, if_neg hmark, if_true, refuseEscape_eq]
  | case4 c rest hcs hmark hslash =>
    simp only [hcs, if_neg hmark, if_neg hslash]
    rfl

/-- The value of an attribute test: a quoted text or an identifier. -/
def readValue (cs : List Char) : Reporting (List Char × List Char) :=
  match cs with
  | [] => throw (.malformed [] .unexpectedEnd)
  | '"' :: rest => readQuoted '"' rest
  | '\'' :: rest => readQuoted '\'' rest
  | _ => readIdentifier cs

theorem readValue_eq (cs : List Char) : readValue cs = outcome (DocQuery.readValue cs) := by
  fun_cases DocQuery.readValue cs with
  | case1 => rfl
  | case2 rest => exact readQuoted_eq '"' rest
  | case3 rest => exact readQuoted_eq '\'' rest
  | case4 _ hnil hdouble hsingle =>
    rw [readValue]
    · exact readIdentifier_eq cs
    · exact hnil
    · exact hdouble
    · exact hsingle

theorem quietly_readOperator (cs : List Char) :
    quietly (readOperator cs) = outcome (readOperator cs) := by
  refine quietly_eq fun e h => ?_
  unfold readOperator at h
  split at h
  all_goals first
    | contradiction
    | exact Except.error.inj h ▸ rfl

theorem quietly_closeBracket (cs : List Char) :
    quietly (closeBracket cs) = outcome (closeBracket cs) := by
  refine quietly_eq fun e h => ?_
  unfold closeBracket at h
  split at h
  · contradiction
  · exact Except.error.inj h ▸ rfl

/-- What follows the name of an attribute test. -/
def readTestOf (name : String) (cs : List Char) : Reporting (AttributeTest × List Char) :=
  match cs with
  | [] => throw (.malformed [] .unexpectedEnd)
  | ']' :: rest => pure (⟨.present, name, ""⟩, rest)
  | _ => do
    let (comparison, rest) ← quietly (readOperator cs)
    let (value, rest) ← readValue (skipBlank rest)
    let rest ← quietly (closeBracket (skipBlank rest))
    return (⟨comparison, name, String.ofList value⟩, rest)

theorem readTestOf_eq (name : String) (cs : List Char) :
    readTestOf name cs = outcome (DocQuery.readTestOf name cs) := by
  fun_cases DocQuery.readTestOf name cs with
  | case1 => rfl
  | case2 rest => rfl
  | case3 _ hnil hbracket =>
    rw [readTestOf]
    · simp only [outcome_bind, quietly_readOperator, readValue_eq, quietly_closeBracket]
      rfl
    · exact hnil
    · exact hbracket

/-- An attribute test, from behind its opening bracket. -/
def readTest (cs : List Char) : Reporting (AttributeTest × List Char) := do
  let (name, rest) ← readIdentifier (skipBlank cs)
  readTestOf (String.ofList name) (skipBlank rest)

theorem readTest_eq (cs : List Char) : readTest cs = outcome (DocQuery.readTest cs) := by
  simp only [readTest, DocQuery.readTest, outcome_bind, readIdentifier_eq, readTestOf_eq]

/-! ## Steps -/

/-- The start of a compound. -/
def openCompound (cs : List Char) : Reporting (Option Selector × List Char) :=
  match cs with
  | [] => pure (none, [])
  | '*' :: rest => pure (none, rest)
  | c :: _ =>
    if c ∈ ['#', '.', '[', ':'] then pure (none, cs)
    else do
      let (name, rest) ← readIdentifier cs
      return (some (.tag (.ofName (String.ofList name))), rest)

theorem openCompound_eq (cs : List Char) :
    openCompound cs = outcome (DocQuery.openCompound cs) := by
  fun_cases DocQuery.openCompound cs with
  | case1 => rfl
  | case2 rest => rfl
  | case3 c rest hstar hc =>
    rw [openCompound, if_pos hc]
    · rfl
    · exact hstar
  | case4 c rest hstar hc =>
    rw [openCompound, if_neg hc, outcome_map, ← readIdentifier_eq]
    exact hstar

/-- What is under way after something has been read from the front of the text. -/
def continueWith {α : Type} (read : Reporting (α × List Char)) (next : α → Draft) :
    Reporting Progress := do
  let (a, rest) ← read
  return .reading (next a) rest

theorem continueWith_outcome {α : Type} (read : Except Stop (α × List Char)) (next : α → Draft) :
    continueWith (outcome read) next = outcome (DocQuery.continueWith read next) := by
  rw [DocQuery.continueWith, outcome_map]
  rfl

/-- The next compound of the same list or of another one. -/
def nextCompound (draft : Draft) (cs : List Char) : Reporting Progress :=
  continueWith (openCompound cs) fun parts => { draft with parts }

theorem nextCompound_eq (draft : Draft) (cs : List Char) :
    nextCompound draft cs = outcome (draft.nextCompound cs) := by
  rw [nextCompound, openCompound_eq, continueWith_outcome]
  rfl

/-- An opening parenthesis and the first compound of the negation. -/
def openNegation (draft : Draft) (cs : List Char) : Reporting Progress :=
  match cs with
  | '(' :: rest =>
    nextCompound { negations := ⟨draft.pending, draft.parts⟩ :: draft.negations } (skipBlank rest)
  | _ => throw (.malformed cs .missingOpeningParenthesis)

theorem openNegation_eq (draft : Draft) (cs : List Char) :
    openNegation draft cs = outcome (draft.openNegation cs) := by
  fun_cases Draft.openNegation draft cs with
  | case1 rest => exact nextCompound_eq _ (skipBlank rest)
  | case2 _ hopen =>
    rw [openNegation]
    · rfl
    · exact hopen

/-- A pseudo-class, from behind its colon. -/
def pseudoClass (draft : Draft) (cs : List Char) : Reporting Progress := do
  let (name, rest) ← readIdentifier cs
  let name := String.ofList (Text.lowerCase name)
  if name = "not" then openNegation draft rest
  else if name ∈ unsupportedPseudoClasses then refusePseudoClass name
  else throw (.malformed cs (.unknownPseudoClass name))

theorem pseudoClass_eq (draft : Draft) (cs : List Char) :
    pseudoClass draft cs = outcome (draft.pseudoClass cs) := by
  rw [pseudoClass, Draft.pseudoClass, outcome_bind, readIdentifier_eq]
  congr 1
  funext ⟨name, rest⟩
  dsimp only
  split
  · exact openNegation_eq _ _
  · split
    · exact refusePseudoClass_eq _
    · rfl

/-- A combinator and the next compound. -/
def combinator (draft : Draft) (c : Combinator) (cs : List Char) : Reporting Progress :=
  nextCompound { draft with pending := draft.pending.combinator draft.compound c } cs

theorem combinator_eq (draft : Draft) (c : Combinator) (cs : List Char) :
    combinator draft c cs = outcome (draft.combinator c cs) :=
  nextCompound_eq _ _

theorem quietly_endText (draft : Draft) : quietly draft.endText = outcome draft.endText := by
  refine quietly_eq fun e h => ?_
  unfold Draft.endText at h
  split at h
  · contradiction
  · exact Except.error.inj h ▸ rfl

theorem quietly_closeNegation (draft : Draft) (cs rest : List Char) :
    quietly (draft.closeNegation cs rest) = outcome (draft.closeNegation cs rest) := by
  refine quietly_eq fun e h => ?_
  unfold Draft.closeNegation at h
  split at h
  · exact Except.error.inj h ▸ rfl
  · contradiction

/-- What follows a compound. -/
def endCompound (draft : Draft) (cs : List Char) : Reporting Progress :=
  match skipBlank cs with
  | [] => quietly draft.endText
  | ',' :: rest =>
    nextCompound { draft with pending := draft.pending.comma draft.compound } (skipBlank rest)
  | ')' :: rest => quietly (draft.closeNegation (')' :: rest) rest)
  | c :: rest =>
    match Combinator.ofChar? c with
    | some k => combinator draft k (skipBlank rest)
    | none =>
      if startsBlank cs then combinator draft .descendant (c :: rest)
      else throw (.malformed (c :: rest) (.unexpectedCharacter c))

theorem endCompound_eq (draft : Draft) (cs : List Char) :
    endCompound draft cs = outcome (draft.endCompound cs) := by
  rw [endCompound]
  fun_cases Draft.endCompound draft cs with
  | case1 hcs =>
    rw [hcs]
    exact quietly_endText draft
  | case2 rest hcs =>
    rw [hcs]
    exact nextCompound_eq _ (skipBlank rest)
  | case3 rest hcs =>
    rw [hcs]
    exact quietly_closeNegation draft _ rest
  | case4 c rest hcomma hparen hcs k hk =>
    simp only [hcs, hk]
    exact combinator_eq draft k (skipBlank rest)
  | case5 c rest hcomma hparen hcs hsign hblank =>
    simp only [hcs, hsign, if_pos hblank]
    exact combinator_eq draft .descendant (c :: rest)
  | case6 c rest hcomma hparen hcs hsign hblank =>
    simp only [hcs, hsign, if_neg hblank]
    rfl

/-- One more part of the compound, or its end. -/
def step (draft : Draft) (cs : List Char) : Reporting Progress :=
  match cs with
  | '#' :: rest =>
    continueWith (readName rest) fun name =>
      draft.addPart (.test ⟨.equals, "id", String.ofList name⟩)
  | '.' :: rest =>
    continueWith (readIdentifier rest) fun name =>
      draft.addPart (.test ⟨.listed, "class", String.ofList name⟩)
  | '[' :: rest => continueWith (readTest rest) fun test => draft.addPart (.test test)
  | ':' :: rest => pseudoClass draft rest
  | _ => endCompound draft cs

/-- **A step shows nothing but the warning of its error.** -/
theorem step_eq (draft : Draft) (cs : List Char) : step draft cs = outcome (draft.step cs) := by
  fun_cases Draft.step draft cs with
  | case1 rest =>
    rw [← continueWith_outcome, ← readName_eq]
    rfl
  | case2 rest =>
    rw [← continueWith_outcome, ← readIdentifier_eq]
    rfl
  | case3 rest =>
    rw [← continueWith_outcome, ← readTest_eq]
    rfl
  | case4 rest => exact pseudoClass_eq draft rest
  | case5 _ hid hclass htest hpseudo =>
    rw [step]
    · exact endCompound_eq draft cs
    · exact hid
    · exact hclass
    · exact htest
    · exact hpseudo

/-! ## Whole texts -/

theorem advances_step {draft next : Draft} {cs rest : List Char} {t after : Terminal}
    (h : step draft cs t = (.ok (.reading next rest), after)) : Advances cs rest := by
  rw [step_eq] at h
  cases hs : draft.step cs with
  | error e =>
    rw [hs] at h
    have hfirst := congrArg Prod.fst h
    contradiction
  | ok progress =>
    rw [hs] at h
    obtain rfl : progress = .reading next rest := Except.ok.inj (congrArg Prod.fst h)
    exact Draft.advances_step hs

/-- Reads until the selector is finished or the text is refused. -/
def run (draft : Draft) (cs : List Char) : Reporting Selector := fun t =>
  match _h : step draft cs t with
  | (.error e, after) => (.error e, after)
  | (.ok (.finished s), after) => (.ok s, after)
  | (.ok (.reading next rest), after) => run next rest after
termination_by cs.length
decreasing_by exact (advances_step _h).shorter

/-- A selector from characters. -/
def parseChars (cs : List Char) : Reporting Selector := do
  let (parts, rest) ← openCompound (skipBlank cs)
  run { parts } rest

end Reporting

/-- A selector from text, the log after it, and what goes to the terminal. -/
def Selector.parseReporting (log : WarningLog) (text : String) :
    Except (ParseError Nat) Selector × WarningLog × String :=
  let (read, after) := Reporting.parseChars text.toList { log }
  (read.mapError (·.map (offsetOf text.toList)), after.log, after.shown)

end DocQuery
