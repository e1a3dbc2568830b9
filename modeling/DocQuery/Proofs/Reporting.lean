import DocQuery.Selector.Reporting

/-!
# What is shown is what comes out

A warning is shown deep inside the readings that are under way, and the error that it goes with
passes through all of them on its way out. None of them catches it, takes it for another one, or
shows something of its own. So a whole text shows nothing but the warning of its own outcome, and
the outcome is the same whatever has been shown before.

- `Reporting.run_eq_bind`: a run is a step and what comes after it.
- `Reporting.run_eq`, `Reporting.parseChars_eq`: runs and whole texts show nothing but the warning
  of their error.
- `WarningLog.Gains`: the log and the terminal after one warning.
- `Selector.parseReporting_gains`: the outcome, the log and the terminal after a text.
-/

namespace DocQuery

namespace Reporting

/-! ## Runs -/

/-- What comes after a step. -/
def goOn : Progress → Reporting Selector
  | .finished s => pure s
  | .reading next rest => run next rest

/-- A run is a step and what comes after it. -/
theorem run_eq_bind (draft : Draft) (cs : List Char) : run draft cs = step draft cs >>= goOn := by
  funext t
  show run draft cs t = ExceptT.bindCont goOn (step draft cs t).1 (step draft cs t).2
  rw [run]
  split
  all_goals
    rename_i hstep
    rw [hstep]
    rfl

/-- **A run shows nothing but the warning of its error**: the steps before the last one have shown
nothing. -/
theorem run_eq (draft : Draft) (cs : List Char) : run draft cs = outcome (draft.run cs) := by
  fun_induction Draft.run draft cs with
  | case1 draft cs e hstep =>
    rw [run_eq_bind, step_eq, hstep]
    rfl
  | case2 draft cs s hstep =>
    rw [run_eq_bind, step_eq, hstep]
    rfl
  | case3 draft cs next rest hstep ih =>
    rw [run_eq_bind, step_eq, hstep]
    exact ih

theorem parseChars_eq (cs : List Char) : parseChars cs = outcome (DocQuery.parseChars cs) := by
  simp only [parseChars, DocQuery.parseChars, outcome_bind, openCompound_eq, run_eq]

end Reporting

/-! ## Logs -/

/-- The log after the warning knows the warning and what it knew before, and the line of the warning
goes to the terminal, and nothing if its label is not new. -/
structure WarningLog.Gains (log : WarningLog) (w : Warning) (after : WarningLog × String) :
    Prop where
  labels : ∀ label, label ∈ after.1.labels ↔ label = w.label ∨ label ∈ log.labels
  shown : after.2 = if log.hasWarned w then "" else w.line

theorem WarningLog.gains_warn (log : WarningLog) (w : Warning) : log.Gains w (log.warn w) := by
  unfold warn
  by_cases h : log.hasWarned w = true
  · have hmem : w.label ∈ log.labels := List.contains_iff_mem.1 h
    rw [if_pos h]
    refine ⟨fun label => ⟨.inr, ?_⟩, (if_pos h).symm⟩
    rintro (rfl | hlabel)
    · exact hmem
    · exact hlabel
  · rw [if_neg h]
    exact ⟨fun label => List.mem_cons, (if_neg h).symm⟩

/-! ## Whole texts -/

theorem ParseError.warning?_map {α β : Type} (f : α → β) (e : ParseError α) :
    (e.map f).warning? = e.warning? := by
  cases e <;> rfl

theorem Terminal.warnOf_eq (log : WarningLog) (w? : Option Warning) :
    Terminal.warnOf { log } w? = ⟨(log.warnOf w?).1, (log.warnOf w?).2⟩ := by
  cases w? with
  | none => rfl
  | some w => simp only [Terminal.warnOf, Terminal.warn, String.empty_append, WarningLog.warnOf]

namespace Selector

/-- The outcome of a text, and the warning that goes with it. -/
theorem parseReporting_of_ok {text : String} {s : Selector} (h : parse text = .ok s)
    (log : WarningLog) : parseReporting log text = (.ok s, log, "") := by
  rw [parseReporting, Reporting.parseChars_eq]
  unfold parse at h
  cases hread : parseChars text.toList with
  | error e =>
    rw [hread] at h
    contradiction
  | ok found =>
    rw [hread] at h
    obtain rfl : found = s := Except.ok.inj h
    rfl

theorem parseReporting_of_error {text : String} {e : ParseError Nat} (h : parse text = .error e)
    (log : WarningLog) : parseReporting log text = (.error e, log.warnOf e.warning?) := by
  rw [parseReporting, Reporting.parseChars_eq]
  unfold parse at h
  cases hread : parseChars text.toList with
  | error stop =>
    rw [hread] at h
    obtain rfl : stop.map (offsetOf text.toList) = e := Except.error.inj h
    rw [ParseError.warning?_map]
    show (_, (Terminal.warnOf { log } stop.warning?).log,
      (Terminal.warnOf { log } stop.warning?).shown) = _
    rw [Terminal.warnOf_eq]
    rfl
  | ok found =>
    rw [hread] at h
    contradiction

/-- **What is shown is what comes out.** Whatever has been shown before, a text has the outcome
that it has when nothing is shown. An escape sequence and an unsupported pseudo-class add their
warning to the log, and its line goes to the terminal if its label is new there; a selector and
malformed text leave the log as it is, and nothing goes to the terminal. -/
theorem parseReporting_gains (log : WarningLog) (text : String) :
    (parseReporting log text).1 = parse text ∧
      (∀ offset, parse text = .error (.escape offset) →
        log.Gains ⟨"Selector", "escape sequences in selectors are unsupported"⟩
          (parseReporting log text).2) ∧
      (∀ name, parse text = .error (.unsupported name) →
        log.Gains ⟨"Selector", "unsupported pseudo-class ':" ++ name ++ "'"⟩
          (parseReporting log text).2) ∧
      (∀ s, parse text = .ok s → (parseReporting log text).2 = (log, "")) ∧
      ∀ offset fault, parse text = .error (.malformed offset fault) →
        (parseReporting log text).2 = (log, "") := by
  refine ⟨?_, fun offset h => ?_, fun name h => ?_, fun s h => ?_, fun offset fault h => ?_⟩
  · cases h : parse text with
    | ok s => rw [parseReporting_of_ok h]
    | error e => rw [parseReporting_of_error h]
  · rw [parseReporting_of_error h]
    exact log.gains_warn .ofEscape
  · rw [parseReporting_of_error h]
    exact log.gains_warn (.ofPseudoClass name)
  · rw [parseReporting_of_ok h]
  · rw [parseReporting_of_error h]
    rfl

/-- After an escape sequence has been refused once: a pseudo-class inside two negations adds its
warning and shows it, and the next escape sequence is refused in silence. -/
theorem parseReporting_gains_refused :
    let log := (WarningLog.empty.warn .ofEscape).1
    let afterClass := (parseReporting log "a :not(b:not([c=',)'] ~ d:NTH-child(2").2
    let afterEscape := (parseReporting log ".a > :not( #\\").2
    (log.Gains ⟨"Selector", "unsupported pseudo-class ':" ++ "nth-child" ++ "'"⟩ afterClass ∧
        afterClass.2 = (Warning.ofPseudoClass "nth-child").line) ∧
      log.Gains ⟨"Selector", "escape sequences in selectors are unsupported"⟩ afterEscape ∧
        afterEscape.2 = "" := by
  intro log afterClass afterEscape
  have hclass : parse "a :not(b:not([c=',)'] ~ d:NTH-child(2" = .error (.unsupported "nth-child") :=
    by decide +kernel
  have hescape : parse ".a > :not( #\\" = .error (.escape 12) := by decide +kernel
  have gainsClass := (parseReporting_gains log _).2.2.1 "nth-child" hclass
  have gainsEscape := (parseReporting_gains log _).2.1 12 hescape
  refine ⟨⟨gainsClass, gainsClass.shown.trans ?_⟩, gainsEscape, gainsEscape.shown.trans ?_⟩
  · decide +kernel
  · decide +kernel

end Selector

end DocQuery
