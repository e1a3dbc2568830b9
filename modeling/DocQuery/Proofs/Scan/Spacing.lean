import DocQuery.Proofs.Scan.Operations
import DocQuery.Proofs.Spacing

/-!
# Spacing at a cursor

A cursor moves over spacing unit by unit, and the length of a comment is put together from those of
its opener, of what stands between, and of its end. Each unit takes the cursor to where `skipBlank`
has come with it, and the loop ends where no unit begins.

- `Scan.exists_blankBytes?`: one unit of spacing, by its length.
- `Scan.reads_blankTurns`, `Scan.reads_skipBlank`: all of it.
- `Scan.skipBlank_is_longest`: what is moved over from any place in a text.
-/

namespace DocQuery

open Grammar

/-! ## One unit -/

namespace Scan

/-- A comment is as long as what `afterComment` passes over, together with its opener. -/
theorem exists_commentBytes? (body : List Char) :
    ∃ front, '/' :: '*' :: body = front ++ afterComment body ∧ front ≠ [] ∧
      commentBytes? ('/' :: '*' :: body) = some (byteLength front) := by
  rcases findText_close body with ⟨inner, hbody, hfound⟩ | ⟨hnil, hfound⟩
  · refine ⟨'/' :: '*' :: (inner ++ ['*', '/']), ?_, List.cons_ne_nil _ _, ?_⟩
    · rw [List.cons_append, List.cons_append, List.append_assoc]
      exact congrArg (fun cs => '/' :: '*' :: cs) hbody
    · rw [commentBytes?, hfound]
      have hopen : '/'.utf8Size = 1 ∧ '*'.utf8Size = 1 := by decide
      simp only [byteLength_append, hopen.1, hopen.2, byteLength]
      congr 1
      omega
  · refine ⟨'/' :: '*' :: body, ?_, List.cons_ne_nil _ _, ?_⟩
    · rw [hnil, List.append_nil]
    · rw [commentBytes?, hfound]

/-- A unit of spacing takes the cursor on, and the same text is left after all of the spacing. -/
theorem exists_blankBytes? {cs : List Char} (h : startsBlank cs = true) :
    ∃ front rest, cs = front ++ rest ∧ front ≠ [] ∧
      blankBytes? cs = some (byteLength front) ∧
      DocQuery.skipBlank cs = DocQuery.skipBlank rest := by
  fun_cases startsBlank cs with
  | case1 body =>
    obtain ⟨front, hfront, hne, hbytes⟩ := exists_commentBytes? body
    refine ⟨front, afterComment body, hfront, hne, ?_, ?_⟩
    · rw [blankBytes?, if_neg (by decide), hbytes]
    · rw [DocQuery.skipBlank]
  | case2 c rest hc =>
    have hb : Text.isBlank c = true := by simpa [startsBlank] using h
    refine ⟨[c], rest, rfl, List.cons_ne_nil _ _, ?_, skipBlank_cons hb rest⟩
    rw [blankBytes?, if_pos hb]
    rfl
  | case3 => contradiction

theorem blankBytes?_eq_none {cs : List Char} (h : startsBlank cs = false) :
    blankBytes? cs = none := by
  fun_cases startsBlank cs with
  | case1 body => contradiction
  | case2 c rest hc =>
    have hb : Text.isBlank c = false := by simpa [startsBlank] using h
    rw [blankBytes?, if_neg (by simp [hb])]
    unfold commentBytes?
    split
    · rename_i heq
      obtain ⟨rfl, rfl⟩ := List.cons.inj heq
      exact (hc _ rfl rfl).elim
    · rfl
  | case3 => rfl

/-! ## All of the spacing -/

variable {text cs : List Char}

/-- In terms of operations: one turn, and then the others. -/
theorem blankTurns_eq :
    blankTurns = do
      let start ← position
      match blankBytes? (← rest) with
      | some bytes =>
        move bytes
        turn .spacing start
        blankTurns
      | none => return := by
  funext text c
  show blankTurnsFrom text c = _
  rw [blankTurnsFrom]
  split
  · rename_i hrest
    exact (bind_eq_of_error (rest_eq_of_none hrest)).symm
  · rename_i cs hrest
    refine Eq.trans ?_ (bind_eq_of_ok (rest_eq_of_some hrest)).symm
    split
    · rename_i hbytes
      rw [hbytes]
      rfl
    · rename_i bytes hbytes
      rw [hbytes]
      rfl

/-- The loop ends: every unit leaves less of the text. -/
theorem reads_blankTurns : Reads blankTurns text cs (.ok ((), DocQuery.skipBlank cs)) := by
  induction hn : cs.length using Nat.strongRecOn generalizing cs with
  | ind n ih =>
    refine .of_suffix fun hcs => ?_
    rw [blankTurns_eq]
    refine reads_position.bind (reads_rest.bind ?_)
    cases hb : startsBlank cs with
    | false =>
      rw [blankBytes?_eq_none hb, skipBlank_of_not_startsBlank hb]
      exact reads_pure ()
    | true =>
      obtain ⟨front, rest, rfl, hne, hbytes, hskip⟩ := exists_blankBytes? hb
      rw [hbytes, hskip]
      have hless : rest.length < n := by
        have := List.length_pos_iff.2 hne
        rw [← hn, List.length_append]
        omega
      have hadv : Advances (front ++ rest) rest :=
        ⟨List.suffix_append front rest, hn ▸ hless⟩
      exact (reads_move front).bind ((reads_turn .spacing hadv hcs).bind (ih _ hless rfl))

/-- Spacing is told by its first character. -/
theorem reads_skipBlank :
    Reads skipBlank text cs (.ok (startsBlank cs, DocQuery.skipBlank cs)) := by
  refine .of_suffix fun hcs => ?_
  refine reads_position.bind (reads_blankTurns.bind (reads_position.bind ?_))
  have hmoved :
      decide (offsetOf text cs < offsetOf text (DocQuery.skipBlank cs)) = startsBlank cs := by
    cases hb : startsBlank cs with
    | false => simp [skipBlank_of_not_startsBlank hb]
    | true => simpa using offsetOf_lt (advances_skipBlank hb) hcs
  rw [hmoved]
  exact reads_pure _

/-! ## From any place -/

/-- Text that begins with no spacing begins with neither white space nor the opener of a
comment. -/
theorem startsBlank_eq_false_iff {rest : List Char} :
    startsBlank rest = false ↔
      (∀ d ∈ rest.head?, Text.isBlank d = false) ∧ ¬ ['/', '*'] <+: rest := by
  fun_cases startsBlank rest with
  | case1 body => simp
  | case2 c tail hc =>
    have hopen : ¬ ['/', '*'] <+: c :: tail := by
      rintro ⟨body, heq⟩
      obtain ⟨rfl, rfl⟩ := List.cons.inj heq
      exact hc body rfl rfl
    simp [hopen]
  | case3 => simp

/-- There is some spacing exactly if it starts at once. -/
theorem startsBlank_iff_ne_nil {skipped : List Char} (h : skipped ++ DocQuery.skipBlank cs = cs) :
    startsBlank cs = true ↔ skipped ≠ [] := by
  cases hb : startsBlank cs with
  | true =>
    refine ⟨fun _ hnil => ?_, fun _ => rfl⟩
    have hless := (advances_skipBlank hb).shorter
    rw [hnil, List.nil_append] at h
    rw [h] at hless
    exact Nat.lt_irrefl _ hless
  | false =>
    rw [skipBlank_of_not_startsBlank hb] at h
    simp [List.append_left_eq_self.1 h]

/-- Wherever the cursor is, it moves to the end of the spacing there. -/
theorem skipBlank_eq (before cs : List Char) (c : Cursor) :
    ∃ c', skipBlank (before ++ cs) { c with position := byteLength before } =
        some (.ok (startsBlank cs), c') ∧ c'.IsAt (before ++ cs) (DocQuery.skipBlank cs) := by
  have hreads : Reads skipBlank (before ++ cs) cs
      (.ok (startsBlank cs, DocQuery.skipBlank cs)) := reads_skipBlank
  obtain ⟨r, c', hrun, -, rfl, hc'⟩ :=
    hreads { c with position := byteLength before } ⟨before, rfl, rfl⟩
  exact ⟨c', hrun, hc'⟩

/-- **What a cursor moves over is the longest spacing at its place.** From any place in a text it
goes over units of spacing, and stops where none begins; it tells whether it has moved; the next
time it stays where it is; and if spacing is left out from the front, it comes to the same place. -/
theorem skipBlank_is_longest (before cs : List Char) (c : Cursor) :
    ∃ skipped rest moved c', cs = skipped ++ rest ∧
      skipBlank (before ++ cs) { c with position := byteLength before } = some (.ok moved, c') ∧
      c'.position = byteLength (before ++ skipped) ∧
      Blank cs rest ∧ (∀ d ∈ rest.head?, Text.isBlank d = false) ∧ ¬ ['/', '*'] <+: rest ∧
      (∀ other, Blank cs other → rest <:+ other) ∧
      (moved = true ↔ byteLength before < c'.position) ∧
      (∃ c'', skipBlank (before ++ cs) c' = some (.ok false, c'') ∧
        c''.position = c'.position) ∧
      ∀ w r, cs = w ++ r → Spacing w → ∃ moved' c'',
        skipBlank (before ++ cs) { c with position := byteLength (before ++ w) } =
          some (.ok moved', c'') ∧ c''.position = c'.position := by
  obtain ⟨skipped, hcs⟩ := skipBlank_suffix cs
  obtain ⟨c', hrun, hc'⟩ := skipBlank_eq before cs c
  have htext : before ++ cs = before ++ skipped ++ DocQuery.skipBlank cs := by
    rw [List.append_assoc, hcs]
  have hposition : c'.position = byteLength (before ++ skipped) := by
    rw [hc'.position_eq, htext, offsetOf_append]
  have hstop := startsBlank_skipBlank cs
  obtain ⟨hspace, hopen⟩ := startsBlank_eq_false_iff.1 hstop
  refine ⟨skipped, DocQuery.skipBlank cs, startsBlank cs, c', hcs.symm, hrun, hposition,
    blank_skipBlank cs, hspace, hopen, ?longest, ?moved, ?again, ?split⟩
  case longest =>
    intro other hother
    rw [hother.skipBlank_eq]
    exact skipBlank_suffix other
  case moved =>
    rw [hposition, byteLength_append, startsBlank_iff_ne_nil hcs]
    exact ⟨fun hne => Nat.lt_add_of_pos_right (byteLength_pos hne), fun hlt hnil =>
      absurd hlt (by simp [hnil, byteLength])⟩
  case again =>
    obtain ⟨c'', hrun', hc''⟩ := skipBlank_eq (before ++ skipped) (DocQuery.skipBlank cs) c'
    rw [← hposition, ← htext, hstop] at hrun'
    refine ⟨c'', hrun', ?_⟩
    rw [hc''.position_eq, skipBlank_of_not_startsBlank hstop, hposition, offsetOf_append]
  case split =>
    rintro w r rfl hw
    obtain ⟨c'', hrun', hc''⟩ := skipBlank_eq (before ++ w) r c
    rw [List.append_assoc] at hrun' hc''
    refine ⟨startsBlank r, c'', hrun', ?_⟩
    rw [hc''.position_eq, hc'.position_eq, hw.skipBlank_append]

end Scan

end DocQuery
