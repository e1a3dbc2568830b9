/-!
# Sets of code points as range tables

Character classes of the Unicode standard are long lists of code point ranges.

- `CodeTable`: a set of code points, written as inclusive ranges in ascending order.
- `CodeTable.covers`: membership; the search ends at the first range above the code point.
- `CodeTable.covers_iff`: in an ascending table, `covers` is membership in one of the ranges.
- `CodeTable.not_covers_of_apart`: a span that no range of the table meets holds no covered
  code point.
-/

namespace DocQuery.Text

/-- A set of code points, written as inclusive ranges `(first, last)` in ascending order. -/
abbrev CodeTable := List (Nat × Nat)

namespace CodeTable

/-- Whether the code point lies in a range of the table. A range that starts above the code
point ends the search, since later ranges start higher still. -/
def covers : CodeTable → Nat → Bool
  | [], _ => false
  | (first, last) :: rest, n => first ≤ n && (n ≤ last || covers rest n)

/-- Every range ends where it starts or later, and before the next one starts. -/
def Ascending : CodeTable → Prop
  | [] => True
  | [(first, last)] => first ≤ last
  | (first, last) :: (next, stop) :: rest =>
    first ≤ last ∧ last < next ∧ Ascending ((next, stop) :: rest)

/-- The ranges of an ascending table can be checked one after the other. -/
def decAscending : (t : CodeTable) → Decidable t.Ascending
  | [] => .isTrue trivial
  | [(first, last)] => inferInstanceAs (Decidable (first ≤ last))
  | (first, last) :: (next, stop) :: rest =>
    have : Decidable (Ascending ((next, stop) :: rest)) := decAscending _
    inferInstanceAs (Decidable (first ≤ last ∧ last < next ∧ Ascending ((next, stop) :: rest)))

instance (t : CodeTable) : Decidable t.Ascending := decAscending t

/-- No range of the table meets the span from `low` to `high`. -/
def Apart (t : CodeTable) (low high : Nat) : Prop :=
  ∀ r ∈ t, r.2 < low ∨ high < r.1

instance (t : CodeTable) (low high : Nat) : Decidable (t.Apart low high) :=
  inferInstanceAs (Decidable (∀ r ∈ t, r.2 < low ∨ high < r.1))

/-! ## Membership -/

theorem exists_range_of_covers {t : CodeTable} {n : Nat} (h : t.covers n = true) :
    ∃ r ∈ t, r.1 ≤ n ∧ n ≤ r.2 := by
  induction t with
  | nil => simp [covers] at h
  | cons r rest ih =>
    simp only [covers, Bool.and_eq_true, Bool.or_eq_true, decide_eq_true_eq] at h
    rcases h.2 with hr | hr
    · exact ⟨r, by simp, h.1, hr⟩
    · obtain ⟨s, hs, hn⟩ := ih hr
      exact ⟨s, by simp [hs], hn⟩

theorem Ascending.tail {r : Nat × Nat} {t : CodeTable} (h : Ascending (r :: t)) :
    t.Ascending := by
  cases t with
  | nil => trivial
  | cons s rest => exact h.2.2

/-- The ranges after the first start above its end. -/
theorem Ascending.head_lt {r : Nat × Nat} {t : CodeTable} (h : Ascending (r :: t)) :
    ∀ s ∈ t, r.2 < s.1 := by
  induction t generalizing r with
  | nil => simp
  | cons s rest ih =>
    intro u hu
    rcases List.mem_cons.1 hu with rfl | hu
    · exact h.2.1
    · have hle : s.1 ≤ s.2 := by
        cases rest with
        | nil => exact h.2.2
        | cons _ _ => exact h.2.2.1
      have := ih h.tail u hu
      have := h.2.1
      omega

/-- In an ascending table, the covered code points are those of its ranges. -/
theorem covers_iff {t : CodeTable} (ht : t.Ascending) {n : Nat} :
    t.covers n = true ↔ ∃ r ∈ t, r.1 ≤ n ∧ n ≤ r.2 := by
  refine ⟨exists_range_of_covers, ?_⟩
  induction t with
  | nil => simp
  | cons r rest ih =>
    rintro ⟨s, hs, hlo, hhi⟩
    simp only [covers, Bool.and_eq_true, Bool.or_eq_true, decide_eq_true_eq]
    rcases List.mem_cons.1 hs with rfl | hs
    · exact ⟨hlo, .inl hhi⟩
    · have hlt := ht.head_lt s hs
      have hle : r.1 ≤ r.2 := by
        cases rest with
        | nil => exact ht
        | cons _ _ => exact ht.1
      exact ⟨by omega, .inr (ih ht.tail ⟨s, hs, hlo, hhi⟩)⟩

theorem not_covers_of_apart {t : CodeTable} {low high n : Nat} (h : t.Apart low high)
    (hlo : low ≤ n) (hhi : n ≤ high) : t.covers n = false := by
  cases hc : t.covers n with
  | false => rfl
  | true =>
    obtain ⟨r, hr, hr1, hr2⟩ := exists_range_of_covers hc
    have := h r hr
    omega

end CodeTable

end DocQuery.Text
