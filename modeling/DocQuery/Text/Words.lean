import DocQuery.Text.Blank

/-!
# Words of a text

Two ways to cut a text at its white space.

- `splitAtBlanks`: every white-space character separates, so neighbouring ones have an empty piece
  between them, and a text always has at least one piece.
- `words`: the maximal runs of other characters; none of them is empty.
-/

namespace DocQuery.Text

/-- The character put in front of the first piece. -/
def consToHead (c : Char) : List (List Char) → List (List Char)
  | [] => [[c]]
  | piece :: pieces => (c :: piece) :: pieces

/-- The pieces between white-space characters, empty ones included. -/
def splitAtBlanks : List Char → List (List Char)
  | [] => [[]]
  | c :: rest => if isBlank c then [] :: splitAtBlanks rest else consToHead c (splitAtBlanks rest)

/-- The maximal runs of characters that are not white space. -/
def words : List Char → List (List Char)
  | [] => []
  | c :: rest =>
    if isBlank c then words rest
    else
      match rest with
      | [] => [[c]]
      | next :: _ => if isBlank next then [c] :: words rest else consToHead c (words rest)

/-! ## Pieces -/

theorem splitAtBlanks_ne_nil (cs : List Char) : splitAtBlanks cs ≠ [] := by
  cases cs with
  | nil => simp [splitAtBlanks]
  | cons c rest =>
    by_cases hc : isBlank c = true
    · simp [splitAtBlanks, hc]
    · simp only [splitAtBlanks, hc]
      cases splitAtBlanks rest <;> simp [consToHead]

theorem consToHead_append {pieces : List (List Char)} (c : Char) (h : pieces ≠ [])
    (more : List (List Char)) : consToHead c (pieces ++ more) = consToHead c pieces ++ more := by
  cases pieces with
  | nil => exact absurd rfl h
  | cons piece pieces => rfl

/-- White space cuts a text into two, each of which is cut on its own. -/
theorem splitAtBlanks_append (front rest : List Char) {c : Char} (h : isBlank c = true) :
    splitAtBlanks (front ++ c :: rest) = splitAtBlanks front ++ splitAtBlanks rest := by
  induction front with
  | nil => exact if_pos h
  | cons d front ih =>
    rw [List.cons_append, splitAtBlanks, splitAtBlanks, ih]
    split
    · rfl
    · exact consToHead_append d (splitAtBlanks_ne_nil front) _

/-- Text without white space is one piece. -/
theorem splitAtBlanks_of_forall {cs : List Char} (h : ∀ c ∈ cs, isBlank c = false) :
    splitAtBlanks cs = [cs] := by
  induction cs with
  | nil => rfl
  | cons c cs ih =>
    obtain ⟨hc, hcs⟩ := List.forall_mem_cons.1 h
    rw [splitAtBlanks, if_neg (by simp [hc]), ih hcs]
    rfl

/-! ## Words -/

theorem words_of_isBlank {c : Char} (h : isBlank c = true) (rest : List Char) :
    words (c :: rest) = words rest := by
  cases rest <;> simp [words, h]

theorem words_ne_nil {c : Char} (h : isBlank c = false) (rest : List Char) :
    words (c :: rest) ≠ [] := by
  cases rest with
  | nil => simp [words, h]
  | cons next rest =>
    by_cases hn : isBlank next = true
    · simp [words, h, hn]
    · rw [words, if_neg (by simp [h]), if_neg hn]
      cases words (next :: rest) <;> simp [consToHead]

/-- White space cuts a text into two, and no word reaches over it. -/
theorem words_append (front rest : List Char) {c : Char} (h : isBlank c = true) :
    words (front ++ c :: rest) = words front ++ words rest := by
  induction front with
  | nil => exact words_of_isBlank h rest
  | cons d front ih =>
    by_cases hd : isBlank d = true
    · rw [List.cons_append, words_of_isBlank hd, words_of_isBlank hd, ih]
    · cases front with
      | nil => simp [words, hd, h]
      | cons next front =>
        rw [List.cons_append] at ih ⊢
        rw [List.cons_append, words, if_neg hd, words, if_neg hd, ih]
        split
        · rfl
        · rename_i hn
          exact consToHead_append d (words_ne_nil (by simpa using hn) front) _

/-- Text without white space is one word, unless it is empty. -/
theorem words_of_forall {cs : List Char} (hne : cs ≠ []) (h : ∀ c ∈ cs, isBlank c = false) :
    words cs = [cs] := by
  induction cs with
  | nil => contradiction
  | cons c cs ih =>
    obtain ⟨hc, hcs⟩ := List.forall_mem_cons.1 h
    cases cs with
    | nil => simp [words, hc]
    | cons next cs =>
      have hnext : isBlank next = false := hcs next List.mem_cons_self
      rw [words, if_neg (by simp [hc]), ih (by simp) hcs]
      simp [hnext, consToHead]

end DocQuery.Text
