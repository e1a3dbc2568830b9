import DocQuery.Text.Blank

/-!
# Spacing in selector text

White space and comments may stand between the parts of a selector. A comment runs from `/*` to
the first `*/` after it, or to the end of the text; comments do not nest.

- `afterComment`: what follows a comment, read from inside it.
- `skipBlank`: the text without the spacing in front.
- `startsBlank`: whether there is any.
- `Advances`: what is left of a text once something has been read from its front.
-/

namespace DocQuery

/-- The second text is what is left of the first after at least one character. -/
structure Advances (cs rest : List Char) : Prop where
  suffix : rest <:+ cs
  shorter : rest.length < cs.length

namespace Advances

theorem of_cons (c : Char) {cs rest : List Char} (h : rest <:+ cs) : Advances (c :: cs) rest :=
  ⟨h.trans (List.suffix_cons c cs), Nat.lt_succ_of_le h.length_le⟩

theorem trans_suffix {cs mid rest : List Char} (h : Advances cs mid) (hr : rest <:+ mid) :
    Advances cs rest :=
  ⟨hr.trans h.suffix, Nat.lt_of_le_of_lt hr.length_le h.shorter⟩

theorem trans {cs mid rest : List Char} (h : Advances cs mid) (hr : Advances mid rest) :
    Advances cs rest :=
  h.trans_suffix hr.suffix

theorem suffix_trans {cs mid rest : List Char} (h : mid <:+ cs) (hr : Advances mid rest) :
    Advances cs rest :=
  ⟨hr.suffix.trans h, Nat.lt_of_lt_of_le hr.shorter h.length_le⟩

end Advances

/-! ## Comments -/

/-- What follows the first `*/`; nothing if there is none. -/
def afterComment : List Char → List Char
  | [] => []
  | '*' :: '/' :: rest => rest
  | _ :: rest => afterComment rest

theorem afterComment_suffix (cs : List Char) : afterComment cs <:+ cs := by
  fun_induction afterComment cs with
  | case1 => exact List.suffix_rfl
  | case2 rest => exact (List.suffix_cons _ _).trans (List.suffix_cons _ _)
  | case3 c rest _ ih => exact ih.trans (List.suffix_cons _ _)

/-! ## Spacing -/

/-- The text without the white space and the comments in front. -/
def skipBlank : List Char → List Char
  | [] => []
  | '/' :: '*' :: body => skipBlank (afterComment body)
  | c :: rest => if Text.isBlank c then skipBlank rest else c :: rest
termination_by cs => cs.length
decreasing_by
  · have := (afterComment_suffix body).length_le
    simp only [List.length_cons]
    omega
  · simp

/-- Whether the text starts with white space or a comment. -/
def startsBlank : List Char → Bool
  | '/' :: '*' :: _ => true
  | c :: _ => Text.isBlank c
  | [] => false

theorem skipBlank_suffix (cs : List Char) : skipBlank cs <:+ cs := by
  fun_induction skipBlank cs with
  | case1 => exact List.suffix_rfl
  | case2 body ih =>
    exact ((ih.trans (afterComment_suffix body)).trans (List.suffix_cons _ _)).trans
      (List.suffix_cons _ _)
  | case3 c rest _ _ ih => exact ih.trans (List.suffix_cons _ _)
  | case4 => exact List.suffix_rfl

theorem advances_skipBlank {cs : List Char} (h : startsBlank cs = true) :
    Advances cs (skipBlank cs) := by
  fun_cases startsBlank cs with
  | case1 body =>
    rw [skipBlank]
    exact .of_cons _ (((skipBlank_suffix _).trans (afterComment_suffix body)).trans
      (List.suffix_cons _ _))
  | case2 c rest hc =>
    have hb : Text.isBlank c = true := by simpa [startsBlank] using h
    rw [skipBlank, if_pos hb]
    · exact .of_cons _ (skipBlank_suffix rest)
    · exact hc
  | case3 => simp [startsBlank] at h

theorem skipBlank_of_not_startsBlank {cs : List Char} (h : startsBlank cs = false) :
    skipBlank cs = cs := by
  fun_cases startsBlank cs with
  | case1 body => simp [startsBlank] at h
  | case2 c rest hc =>
    have hb : Text.isBlank c = false := by simpa [startsBlank] using h
    rw [skipBlank]
    · simp [hb]
    · exact hc
  | case3 => simp [skipBlank]

end DocQuery
