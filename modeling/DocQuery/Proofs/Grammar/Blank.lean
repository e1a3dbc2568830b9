import DocQuery.Proofs.Grammar

/-!
# Spacing is read to its end

`skipBlank` finds one of the ways to read spacing from the front of a text, the longest one:

- `Grammar.comment_afterComment`, `Grammar.Comment.afterComment_eq`: a comment has one end, the
  one that `afterComment` finds.
- `Grammar.blank_skipBlank`: what is skipped is spacing.
- `Grammar.Blank.skipBlank_eq`: whatever part of the spacing is taken off first, the same text is
  left after all of it.
-/

namespace DocQuery

namespace Grammar

/-! ## Comments -/

/-- The end of a comment occurs at the very front or further on. -/
theorem close_infix_cons {c : Char} {cs : List Char} :
    ['*', '/'] <:+: c :: cs ↔ (c = '*' ∧ ∃ rest, cs = '/' :: rest) ∨ ['*', '/'] <:+: cs := by
  rw [List.infix_cons_iff]
  refine or_congr_left ⟨?_, ?_⟩
  · rintro ⟨rest, h⟩
    obtain ⟨rfl, rfl⟩ := List.cons.inj h
    exact ⟨rfl, rest, rfl⟩
  · rintro ⟨rfl, rest, rfl⟩
    exact ⟨rest, rfl⟩

/-- Text up to the first end of a comment, with the star of that end, begins with no end. -/
theorem not_slash_of_append_star {body rest : List Char} {c : Char}
    (h : ¬ ∃ after, body ++ '*' :: '/' :: rest = c :: after) :
    ¬ ∃ after, body ++ ['*'] = c :: after := by
  rintro ⟨after, hb⟩
  cases body with
  | nil =>
    obtain ⟨rfl, -⟩ := List.cons.inj hb
    exact h ⟨_, rfl⟩
  | cons d body =>
    obtain ⟨rfl, -⟩ := List.cons.inj hb
    exact h ⟨_, rfl⟩

/-- A comment ends where `afterComment` says. -/
theorem comment_afterComment (body : List Char) :
    Comment ('/' :: '*' :: body) (afterComment body) := by
  -- the first end splits the text, and that there is none is kept for the whole text
  have key : (∃ inner, body = inner ++ '*' :: '/' :: afterComment body ∧
        ¬ ['*', '/'] <:+: inner ++ ['*']) ∨
      (¬ ['*', '/'] <:+: body ∧ afterComment body = []) := by
    fun_induction afterComment body with
    | case1 => exact .inr ⟨by simp, rfl⟩
    | case2 rest =>
      refine .inl ⟨[], rfl, ?_⟩
      rw [List.nil_append, close_infix_cons]
      simp
    | case3 c rest hne ih =>
      rcases ih with ⟨inner, hrest, hfirst⟩ | ⟨hnever, hnil⟩
      · refine .inl ⟨c :: inner, by rw [List.cons_append, ← hrest], ?_⟩
        rw [List.cons_append, close_infix_cons]
        rintro (⟨rfl, hslash⟩ | hin)
        · have hopen : ¬ ∃ after, rest = '/' :: after := by
            rintro ⟨after, h⟩
            exact hne after rfl h
          rw [hrest] at hopen
          exact not_slash_of_append_star hopen hslash
        · exact hfirst hin
      · refine .inr ⟨?_, hnil⟩
        rw [close_infix_cons]
        rintro (⟨rfl, after, rfl⟩ | hin)
        · exact hne after rfl rfl
        · exact hnever hin
  rcases key with ⟨inner, hbody, hfirst⟩ | ⟨hnever, hnil⟩
  · have hclosed : Comment ('/' :: '*' :: (inner ++ '*' :: '/' :: afterComment body))
        (afterComment body) := .closed hfirst
    rwa [← hbody] at hclosed
  · rw [hnil]
    exact .unclosed hnever

/-- Text without the end of a comment is passed over. -/
theorem afterComment_append {body : List Char} (h : ¬ ['*', '/'] <:+: body ++ ['*'])
    (rest : List Char) : afterComment (body ++ '*' :: '/' :: rest) = rest := by
  induction body with
  | nil => rfl
  | cons c body ih =>
    rw [List.cons_append, close_infix_cons] at h
    rw [List.cons_append, afterComment]
    · exact ih fun hin => h (.inr hin)
    · rintro after rfl hslash
      refine h (.inl ⟨rfl, ?_⟩)
      cases body with
      | nil => simp at hslash
      | cons d body =>
        obtain ⟨rfl, -⟩ := List.cons.inj hslash
        exact ⟨body ++ ['*'], rfl⟩

theorem afterComment_eq_nil {body : List Char} (h : ¬ ['*', '/'] <:+: body) :
    afterComment body = [] := by
  induction body with
  | nil => rfl
  | cons c body ih =>
    rw [close_infix_cons] at h
    rw [afterComment]
    · exact ih fun hin => h (.inr hin)
    · rintro after rfl rfl
      exact h (.inl ⟨rfl, after, rfl⟩)

/-- A comment is its opener and what `afterComment` passes over. -/
theorem Comment.afterComment_eq {cs rest : List Char} (h : Comment cs rest) :
    ∃ body, cs = '/' :: '*' :: body ∧ afterComment body = rest := by
  cases h with
  | closed first => exact ⟨_, rfl, afterComment_append first rest⟩
  | unclosed never => exact ⟨_, rfl, afterComment_eq_nil never⟩

/-! ## Spacing -/

theorem skipBlank_cons {c : Char} (h : Text.isBlank c = true) (cs : List Char) :
    skipBlank (c :: cs) = skipBlank cs := by
  rw [skipBlank, if_pos h]
  rintro body rfl
  exact absurd h (by decide)

/-- What is skipped is spacing. -/
theorem blank_skipBlank (cs : List Char) : Blank cs (skipBlank cs) := by
  fun_induction skipBlank cs with
  | case1 => exact .nil
  | case2 body ih => exact .comment (comment_afterComment body) ih
  | case3 c rest _ hc ih => exact .space hc ih
  | case4 => exact .nil

/-- Spacing after spacing is spacing. -/
theorem Blank.trans {cs mid rest : List Char} (h : Blank cs mid) (hr : Blank mid rest) :
    Blank cs rest := by
  induction h with
  | nil => exact hr
  | space hc _ ih => exact .space hc (ih hr)
  | comment hc _ ih => exact .comment hc (ih hr)

/-- Taking some of the spacing off first changes nothing in what is left after all of it. -/
theorem Blank.skipBlank_eq {cs rest : List Char} (h : Blank cs rest) :
    skipBlank cs = skipBlank rest := by
  induction h with
  | nil => rfl
  | space hc _ ih => rw [skipBlank_cons hc, ih]
  | comment hc _ ih =>
    obtain ⟨body, rfl, hbody⟩ := hc.afterComment_eq
    rw [skipBlank, hbody, ih]

/-- Spacing before anything else is skipped as a whole. -/
theorem Blank.skipBlank_eq_rest {cs rest : List Char} (h : Blank cs rest)
    (hr : startsBlank rest = false) : skipBlank cs = rest := by
  rw [h.skipBlank_eq, skipBlank_of_not_startsBlank hr]

theorem startsBlank_cons (c : Char) (cs : List Char) (h : Text.isBlank c = true) :
    startsBlank (c :: cs) = true := by
  unfold startsBlank
  split
  · rfl
  · rename_i heq
    obtain ⟨rfl, -⟩ := List.cons.inj heq
    exact h
  · contradiction

/-- Spacing that holds something is seen at its first character. -/
theorem Blank.startsBlank_of_ne {cs rest : List Char} (h : Blank cs rest) (hne : cs ≠ rest) :
    startsBlank cs = true := by
  cases h with
  | nil => exact absurd rfl hne
  | space hc _ => exact startsBlank_cons _ _ hc
  | comment hc _ =>
    obtain ⟨body, rfl, -⟩ := hc.afterComment_eq
    rfl

end Grammar

end DocQuery
