import DocQuery.Warning
import Mathlib.Data.List.Induction

/-!
# Which warnings a log tells apart

A log keeps labels, and a label joins the component and the message of a warning. What the log
knows of a warning is therefore what it knows of all warnings of the same label.

- `Warning.Absorbs`: the one way in which two different warnings come to the same label. The
  component of the one goes on behind the `] ` where that of the other ends.
- `Warning.label_eq_iff`: warnings of the same label are equal, or one absorbs the other.
- `WarningLog.Call`, `WarningLog.perform`: what may be done with a log.
- `WarningLog.GivenSinceClear`: a warning was given after the log had last been cleared.
- `WarningLog.hasWarned_perform_iff`: what a log knows after any calls.
- `WarningLog.perform_tells_apart`: among components without `] `, a warning is shown exactly if
  the same one has not been given before.
-/

namespace DocQuery

namespace Warning

/-! ## Labels -/

/-- The component of the first warning is that of the second, a `] ` and a remainder, and the
remainder stands in front of the message of the second. -/
def Absorbs (w v : Warning) : Prop :=
  ∃ between : String, w.component = v.component ++ "] " ++ between ∧
    v.message = between ++ "] " ++ w.message

/-- The component holds no `] `, so that in the label the first one ends it. -/
def HasPlainComponent (w : Warning) : Prop := ¬ [']', ' '] <:+: w.component.toList

theorem toList_label (w : Warning) :
    w.label.toList = '[' :: (w.component.toList ++ ']' :: ' ' :: w.message.toList) := by
  simp [label]

/-- Two ways to take a text apart at a `] ` are the same, or the second one comes later. -/
theorem eq_or_exists_of_append_eq {c d m n : List Char}
    (h : c ++ ']' :: ' ' :: m = d ++ ']' :: ' ' :: n) (hlen : c.length ≤ d.length) :
    c = d ∧ m = n ∨ ∃ between, d = c ++ ']' :: ' ' :: between ∧ m = between ++ ']' :: ' ' :: n := by
  rcases List.append_eq_append_iff.1 h with ⟨more, rfl, hm⟩ | ⟨more, rfl, hn⟩
  · cases more with
    | nil =>
      simp only [List.nil_append, List.cons.injEq, true_and] at hm
      exact .inl ⟨(List.append_nil c).symm, hm⟩
    | cons a more =>
      -- the remainder starts with the bracket, and it cannot end there: a space comes next
      rw [List.cons_append, List.cons.injEq] at hm
      obtain ⟨rfl, hm⟩ := hm
      cases more with
      | nil => simp at hm
      | cons b between =>
        rw [List.cons_append, List.cons.injEq] at hm
        obtain ⟨rfl, hm⟩ := hm
        exact .inr ⟨between, rfl, hm⟩
  · have hnil : more = [] := by
      rw [List.length_append] at hlen
      exact List.eq_nil_of_length_eq_zero (by omega)
    subst hnil
    simp only [List.nil_append, List.cons.injEq, true_and] at hn
    exact .inl ⟨List.append_nil d, hn.symm⟩

theorem absorbs_of_toList {w v : Warning} {between : List Char}
    (hc : w.component.toList = v.component.toList ++ ']' :: ' ' :: between)
    (hm : v.message.toList = between ++ ']' :: ' ' :: w.message.toList) : w.Absorbs v := by
  refine ⟨String.ofList between, ?_, ?_⟩
  · apply String.toList_injective
    simp [hc]
  · apply String.toList_injective
    simp [hm]

theorem label_eq_of_absorbs {w v : Warning} (h : w.Absorbs v) : w.label = v.label := by
  obtain ⟨between, hc, hm⟩ := h
  apply String.toList_injective
  simp [toList_label, hc, hm]

/-- Warnings of the same label are equal, or one of them absorbs the other. -/
theorem label_eq_iff (w v : Warning) :
    w.label = v.label ↔ w = v ∨ w.Absorbs v ∨ v.Absorbs w := by
  constructor
  · intro h
    have htext := congrArg String.toList h
    rw [toList_label, toList_label] at htext
    have happend := (List.cons.inj htext).2
    rcases Nat.le_total w.component.toList.length v.component.toList.length with hlen | hlen
    · rcases eq_or_exists_of_append_eq happend hlen with ⟨hc, hm⟩ | ⟨between, hc, hm⟩
      · left
        cases w
        cases v
        rw [mk.injEq]
        exact ⟨String.toList_injective hc, String.toList_injective hm⟩
      · exact .inr (.inr (absorbs_of_toList hc hm))
    · rcases eq_or_exists_of_append_eq happend.symm hlen with ⟨hc, hm⟩ | ⟨between, hc, hm⟩
      · left
        cases w
        cases v
        rw [mk.injEq]
        exact ⟨String.toList_injective hc.symm, String.toList_injective hm.symm⟩
      · exact .inr (.inl (absorbs_of_toList hc hm))
  · rintro (rfl | h | h)
    · rfl
    · exact label_eq_of_absorbs h
    · exact (label_eq_of_absorbs h).symm

/-- Only a component that holds a `] ` lets a warning absorb another one. -/
theorem HasPlainComponent.not_absorbs {w : Warning} (h : w.HasPlainComponent) (v : Warning) :
    ¬ w.Absorbs v := by
  rintro ⟨between, hc, -⟩
  refine h ⟨v.component.toList, between.toList, ?_⟩
  simp [hc]

/-- Warnings with plain components are told apart by their labels. -/
theorem HasPlainComponent.label_eq_iff {w v : Warning} (hw : w.HasPlainComponent)
    (hv : v.HasPlainComponent) : w.label = v.label ↔ w = v := by
  rw [Warning.label_eq_iff]
  simp [hw.not_absorbs v, hv.not_absorbs w]

theorem line_ne_empty (w : Warning) : w.line ≠ "" := by
  intro h
  -- the line ends with the code that resets the colour
  have hend := (String.append_eq_empty_iff.1 h).2
  contradiction

end Warning

namespace WarningLog

/-! ## Calls -/

/-- What may be done with a log. -/
inductive Call where
  /-- The warning is given, and shown if its label is new. -/
  | warn (w : Warning)
  /-- The log is asked whether the warning has been shown. -/
  | ask (w : Warning)
  /-- The log forgets all warnings. -/
  | clear

/-- The log after a call. -/
def Call.apply (log : WarningLog) : Call → WarningLog
  | warn w => (log.warn w).1
  | ask _ => log
  | clear => empty

/-- The log after the calls, the first one first. -/
def perform (log : WarningLog) (calls : List Call) : WarningLog := calls.foldl Call.apply log

/-- The warning was given, and the log has not been cleared since. -/
def GivenSinceClear (calls : List Call) (w : Warning) : Prop :=
  ∃ before after, calls = before ++ .warn w :: after ∧ .clear ∉ after

theorem not_givenSinceClear_nil (w : Warning) : ¬ GivenSinceClear [] w := by
  rintro ⟨before, after, h, -⟩
  simp at h

/-- What the last call says of a warning: it gives that warning, or it keeps what was given. -/
theorem givenSinceClear_concat_iff (calls : List Call) (call : Call) (w : Warning) :
    GivenSinceClear (calls ++ [call]) w ↔
      call = .warn w ∨ call ≠ .clear ∧ GivenSinceClear calls w := by
  constructor
  · rintro ⟨before, after, h, hclear⟩
    -- the calls after the one in question are none, or the last of them is the last of all
    rcases List.eq_nil_or_concat after with rfl | ⟨middle, last, rfl⟩
    · exact .inl (List.cons.inj (List.append_inj_right' h rfl)).1
    · rw [List.concat_eq_append] at h hclear
      have hsplit : calls ++ [call] = (before ++ .warn w :: middle) ++ [last] := by simp [h]
      obtain ⟨rfl, hlast⟩ := List.append_inj' hsplit rfl
      obtain rfl : call = last := (List.cons.inj hlast).1
      refine .inr ⟨?_, before, middle, rfl, fun hmem => hclear (List.mem_append_left _ hmem)⟩
      rintro rfl
      exact hclear (List.mem_append_right _ List.mem_cons_self)
  · rintro (rfl | ⟨hne, before, after, rfl, hclear⟩)
    · exact ⟨calls, [], rfl, List.not_mem_nil⟩
    · refine ⟨before, after ++ [call], by simp, ?_⟩
      rw [List.mem_append, List.mem_singleton]
      rintro (hmem | rfl)
      · exact hclear hmem
      · exact hne rfl

/-- One call changes what the log knows of a label as it changes what has been given. -/
theorem hasWarned_apply (log : WarningLog) (call : Call) (w : Warning) :
    (call.apply log).hasWarned w = true ↔
      (∃ v, call = .warn v ∧ w.label = v.label) ∨ call ≠ .clear ∧ log.hasWarned w = true := by
  cases call with
  | warn v =>
    show (log.warn v).1.hasWarned w = true ↔ _
    rw [hasWarned_warn]
    simp
  | ask v =>
    show log.hasWarned w = true ↔ _
    simp
  | clear =>
    show empty.hasWarned w = true ↔ _
    simp

/-- What a log knows after any calls: a warning counts as shown exactly if one of the same label
has been given since the log was last cleared. -/
theorem hasWarned_perform_iff (calls : List Call) (w : Warning) :
    (empty.perform calls).hasWarned w = true ↔
      ∃ v, GivenSinceClear calls v ∧ w.label = v.label := by
  induction calls using List.reverseRecOn with
  | nil => simp [perform, not_givenSinceClear_nil]
  | append_singleton calls call ih =>
    have hlast : empty.perform (calls ++ [call]) = call.apply (empty.perform calls) := by
      simp [perform]
    rw [hlast, hasWarned_apply, ih]
    simp only [givenSinceClear_concat_iff]
    constructor
    · rintro (⟨v, hv, hl⟩ | ⟨hne, v, hv, hl⟩)
      · exact ⟨v, .inl hv, hl⟩
      · exact ⟨v, .inr ⟨hne, hv⟩, hl⟩
    · rintro ⟨v, hv | ⟨hne, hv⟩, hl⟩
      · exact .inl ⟨v, hv, hl⟩
      · exact .inr ⟨hne, v, hv, hl⟩

/-- A warning goes to the terminal exactly if its label is new. -/
theorem warn_eq_line_iff (log : WarningLog) (w : Warning) :
    (log.warn w).2 = w.line ↔ log.hasWarned w ≠ true := by
  unfold warn
  split
  · rename_i h
    simp [h, w.line_ne_empty.symm]
  · rename_i h
    simp [h]

/-! ## Warnings that are told apart -/

/-- **A warning is shown once and never taken for another one**, as long as no component holds a
`] `: the log knows exactly the warnings that have been given since it was last cleared, and a
warning is shown exactly if it is not among them. -/
theorem perform_tells_apart (calls : List Call) (w : Warning) (hw : w.HasPlainComponent)
    (hcalls : ∀ v, .warn v ∈ calls → v.HasPlainComponent) :
    ((empty.perform calls).hasWarned w = true ↔ GivenSinceClear calls w) ∧
      (((empty.perform calls).warn w).2 = w.line ↔ ¬ GivenSinceClear calls w) := by
  have hknown : (empty.perform calls).hasWarned w = true ↔ GivenSinceClear calls w := by
    rw [hasWarned_perform_iff]
    constructor
    · rintro ⟨v, hv, hl⟩
      have hplain : v.HasPlainComponent := by
        obtain ⟨before, after, rfl, -⟩ := hv
        exact hcalls v (List.mem_append_right _ List.mem_cons_self)
      rwa [(hw.label_eq_iff hplain).1 hl]
    · exact fun h => ⟨w, h, rfl⟩
  exact ⟨hknown, by rw [warn_eq_line_iff, Ne, hknown]⟩

/-- A component with brackets and spaces that was warned of before the log was cleared, and the same
message from another component afterwards. -/
theorem perform_tells_apart_bracketed :
    let w : Warning := ⟨"a[b ]", "c] d"⟩
    let calls : List Call := [.warn w, .clear, .warn ⟨"a", "c] d"⟩, .ask w]
    (empty.perform calls).hasWarned w = false ∧ ¬ GivenSinceClear calls w ∧
      ((empty.perform calls).warn w).2 = w.line := by
  intro w calls
  have hw : w.HasPlainComponent := by
    show ¬ [']', ' '] <:+: "a[b ]".toList
    decide
  have hcalls : ∀ v, .warn v ∈ calls → v.HasPlainComponent := by
    intro v hv
    have hcases : v = w ∨ v = ⟨"a", "c] d"⟩ := by simpa [calls] using hv
    rcases hcases with rfl | rfl
    · exact hw
    · show ¬ [']', ' '] <:+: "a".toList
      decide
  have hquiet : (empty.perform calls).hasWarned w = false := by decide
  obtain ⟨hknown, hshown⟩ := perform_tells_apart calls w hw hcalls
  have hgiven : ¬ GivenSinceClear calls w := by
    intro h
    exact Bool.false_ne_true (hquiet.symm.trans (hknown.2 h))
  exact ⟨hquiet, hgiven, hshown.2 hgiven⟩

/-- Two different warnings of one label: the log takes the second one for the first, which alone
has been given, and the second one is never shown. -/
theorem hasWarned_of_shared_label :
    let given : Warning := ⟨"a] b", "c"⟩
    let other : Warning := ⟨"a", "b] c"⟩
    (empty.perform [.warn given]).hasWarned other = true ∧
      ¬ GivenSinceClear [.warn given] other ∧
      ((empty.perform [.warn given]).warn other).2 = "" := by
  intro given other
  have hgiven : ¬ GivenSinceClear ([] ++ [.warn given]) other := by
    rw [givenSinceClear_concat_iff]
    simp [not_givenSinceClear_nil, given, other]
  exact ⟨by decide, hgiven, by decide⟩

end WarningLog

end DocQuery
