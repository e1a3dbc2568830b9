import DocQuery.Proofs.Scan.Spacing
import DocQuery.Selector.Descent

/-!
# Words and tests at a cursor

The readings of names, quoted texts and attribute tests with a cursor, each against the reading of
characters that it goes along with.

- `Scan.reads_readName`, `Scan.reads_readIdentifier`, `Scan.reads_readQuoted`: words.
- `Scan.reads_readTest`: attribute tests.
-/

namespace DocQuery

open Grammar

namespace Scan

variable {text cs rest : List Char}

/-! ## Names -/

theorem reads_readName : Reads readName text cs (DocQuery.readName cs) := by
  refine (reads_takeWhile isNameChar).bind (reads_peek.bind ?_)
  simp only [DocQuery.readName]
  split
  · exact reads_refuseEscape
  · split
    · exact reads_refuse .emptyName
    · exact reads_pure _

theorem reads_readPlainIdentifier :
    Reads readPlainIdentifier text cs (DocQuery.readPlainIdentifier cs) := by
  refine reads_peek.bind ?_
  cases cs with
  | nil => exact reads_refuse .unexpectedEnd
  | cons c cs =>
    rw [DocQuery.readPlainIdentifier, List.head?_cons]
    dsimp only
    split
    · exact reads_readName
    · exact reads_refuse (.unexpectedCharacter c)

theorem reads_readIdentifier : Reads readIdentifier text cs (DocQuery.readIdentifier cs) := by
  by_cases hhyphen : ∃ after, cs = '-' :: after
  · obtain ⟨after, rfl⟩ := hhyphen
    exact (reads_eat '-').bind (reads_readPlainIdentifier.map ('-' :: ·))
  · have hne : ∀ after, cs ≠ '-' :: after := fun after h => hhyphen ⟨after, h⟩
    have hplain : DocQuery.readIdentifier cs =
        (DocQuery.readPlainIdentifier cs).map fun p => (p.1, p.2) := by
      rw [DocQuery.readIdentifier]
      · cases DocQuery.readPlainIdentifier cs <;> rfl
      · exact hne
    exact hplain ▸ (reads_eat_of_ne hne).bind (reads_readPlainIdentifier.map id)

/-! ## Quoted texts -/

theorem reads_readQuoted (mark : Char) :
    Reads (readQuoted mark) text (mark :: cs) (DocQuery.readQuoted mark cs) := by
  refine (reads_advance mark).bind ((reads_takeWhile (isQuotable mark)).bind (reads_peek.bind ?_))
  fun_cases DocQuery.readQuoted mark cs with
  | case1 hcs =>
    rw [hcs]
    exact reads_refuse .unterminatedString
  | case2 rest hcs =>
    rw [hcs, List.head?_cons]
    dsimp only
    rw [if_pos rfl]
    exact (reads_advance mark).bind (reads_pure _)
  | case3 rest hcs hmark =>
    rw [hcs, List.head?_cons]
    dsimp only
    rw [if_neg hmark, if_pos rfl]
    exact reads_refuseEscape
  | case4 c rest hcs hmark hslash =>
    rw [hcs, List.head?_cons]
    dsimp only
    rw [if_neg hmark, if_neg hslash]
    exact reads_refuse .lineBreakInString

theorem reads_readValue : Reads readValue text cs (DocQuery.readValue cs) := by
  refine reads_peek.bind ?_
  fun_cases DocQuery.readValue cs with
  | case1 => exact reads_refuse .unexpectedEnd
  | case2 rest => exact reads_readQuoted '"'
  | case3 rest => exact reads_readQuoted '\''
  | case4 cs hnil hdouble hsingle =>
    cases cs with
    | nil => exact (hnil rfl).elim
    | cons c cs =>
      have hmark : ¬ (c = '"' ∨ c = '\'') := by
        rintro (rfl | rfl)
        · exact hdouble cs rfl
        · exact hsingle cs rfl
      rw [List.head?_cons]
      dsimp only
      rw [if_neg hmark]
      exact reads_readIdentifier

/-! ## Attribute tests -/

theorem reads_readOperator : Reads readOperator text cs (DocQuery.readOperator cs) := by
  refine reads_peek.bind ((reads_peekAt 1).bind ?_)
  fun_cases DocQuery.readOperator cs with
  | case1 c rest => exact (reads_advance '=').bind (reads_pure _)
  | case2 rest => exact (reads_advance '~').bind ((reads_advance '=').bind (reads_pure _))
  | case3 rest => exact (reads_advance '^').bind ((reads_advance '=').bind (reads_pure _))
  | case4 rest => exact (reads_advance '$').bind ((reads_advance '=').bind (reads_pure _))
  | case5 rest => exact (reads_advance '*').bind ((reads_advance '=').bind (reads_pure _))
  | case6 c d tail hequals hlisted hstarts hends hcontains =>
    have hc : c ≠ '=' := hequals
    have hnone : operatorOf? c d = none := by
      unfold operatorOf?
      split
      · exact (hlisted rfl rfl).elim
      · exact (hstarts rfl rfl).elim
      · exact (hends rfl rfl).elim
      · exact (hcontains rfl rfl).elim
      · rfl
    show Reads (if c = '=' then _ else _) text _ _
    rw [if_neg hc, hnone]
    exact reads_refuse _
  | case7 cs _ _ _ _ _ hlong =>
    cases cs with
    | nil => exact reads_refuse .unexpectedEnd
    | cons c cs =>
      cases cs with
      | nil => exact reads_refuse .unexpectedEnd
      | cons d tail => exact (hlong c d tail rfl).elim

theorem reads_readTestOf (name : String) :
    Reads (readTestOf name) text cs (DocQuery.readTestOf name cs) := by
  refine reads_isAtEnd.bind ?_
  fun_cases DocQuery.readTestOf name cs with
  | case1 => exact reads_refuse .unexpectedEnd
  | case2 rest => exact (reads_eat ']').bind (reads_pure _)
  | case3 cs hnil hbracket =>
    have hend : cs.isEmpty = false := by simpa using hnil
    rw [hend]
    refine (reads_eat_of_ne hbracket).bind ?_
    refine reads_readOperator.andThen fun comparison right _ => reads_skipBlank.bind ?_
    refine reads_readValue.andThen fun value after _ => reads_skipBlank.bind ?_
    dsimp only
    generalize DocQuery.skipBlank after = close
    fun_cases closeBracket close with
    | case1 tail => exact (reads_eat ']').bind (reads_pure _)
    | case2 _ hclose =>
      exact (reads_eat_of_ne hclose).bind (reads_refuse .missingClosingBracket)

theorem reads_readTest : Reads readTest text ('[' :: cs) (DocQuery.readTest cs) := by
  refine (reads_advance '[').bind (reads_skipBlank.bind ?_)
  refine reads_readIdentifier.andThen fun name rest _ => ?_
  exact reads_skipBlank.bind (reads_readTestOf (String.ofList name))

end Scan

end DocQuery
