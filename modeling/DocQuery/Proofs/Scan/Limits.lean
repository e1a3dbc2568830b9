import DocQuery.Proofs.Scan.Operations
import DocQuery.Selector.Descent

/-!
# Limits only break off

A limit tells how long a reading is followed, and nothing else: what a reading by descent comes to
within one limit it comes to within any higher one, with the same cursor.

- `Scan.Outlasts`: a reading comes to each outcome of another one, which may be broken off earlier.
- `Scan.outlasts_members`: a list within a higher limit.
- `Selector.scan_of_le`: a whole text within a higher limit.
-/

namespace DocQuery

namespace Scan

variable {α β : Type}

/-- What the reading `x` comes to, `y` comes to as well. -/
def Outlasts (y x : Scan α) : Prop :=
  ∀ text c out, x text c = some out → y text c = some out

namespace Outlasts

theorem refl (x : Scan α) : x.Outlasts x := fun _ _ _ h => h

theorem bind {x y : Scan α} {f g : α → Scan β} (h : y.Outlasts x)
    (hf : ∀ a, (g a).Outlasts (f a)) : (y >>= g).Outlasts (x >>= f) := by
  intro text c out hout
  cases hx : x text c with
  | none =>
    rw [bind_eq_of_none hx] at hout
    contradiction
  | some first =>
    obtain ⟨halt | a, c'⟩ := first
    · rw [bind_eq_of_error hx] at hout
      rw [bind_eq_of_error (h text c _ hx), hout]
    · rw [bind_eq_of_ok hx] at hout
      rw [bind_eq_of_ok (h text c _ hx)]
      exact hf a text c' out hout

/-- The second step is the same. -/
theorem bind_same {x y : Scan α} (h : y.Outlasts x) (f : α → Scan β) :
    (y >>= f).Outlasts (x >>= f) :=
  h.bind fun a => refl (f a)

/-- The first step is the same. -/
theorem same_bind (x : Scan α) {f g : α → Scan β} (h : ∀ a, (g a).Outlasts (f a)) :
    (x >>= g).Outlasts (x >>= f) :=
  (refl x).bind h

end Outlasts

theorem outlasts_breakOff (y : Scan α) : y.Outlasts breakOff := fun _ _ _ h => nomatch h

/-! ## Parts -/

variable {list list' : Scan Selector} {limit limit' : Nat}

theorem outlasts_negation (h : list'.Outlasts list) (colon : Nat) :
    (negation list' colon).Outlasts (negation list colon) := by
  refine .same_bind _ fun opened => ?_
  split
  · exact .same_bind _ fun _ => .same_bind _ fun _ => h.bind_same closeNegation
  · exact .refl _

theorem outlasts_pseudoClass (h : list'.Outlasts list) :
    (pseudoClass list').Outlasts (pseudoClass list) := by
  refine .same_bind _ fun colon => .same_bind _ fun _ => .same_bind _ fun _ =>
    .same_bind _ fun name => ?_
  dsimp only
  split
  · exact outlasts_negation h colon
  · exact .refl _

theorem outlasts_readPart (h : list'.Outlasts list) :
    (readPart list').Outlasts (readPart list) := by
  refine .same_bind _ fun mark => ?_
  split
  · exact .refl _
  · exact .refl _
  · exact .refl _
  · exact (outlasts_pseudoClass h).bind_same _
  · exact .refl _

theorem outlasts_partTurns (h : list'.Outlasts list) (hl : limit ≤ limit')
    (found : Option Selector) :
    (partTurns list' limit' found).Outlasts (partTurns list limit found) := by
  induction limit generalizing limit' found with
  | zero => exact outlasts_breakOff _
  | succ limit ih =>
    obtain ⟨limit', rfl⟩ := Nat.exists_eq_add_of_le' (Nat.le_of_add_left_le hl)
    refine .same_bind _ fun start => (outlasts_readPart h).bind fun part => ?_
    split
    · exact .refl _
    · exact .same_bind _ fun _ => ih (Nat.le_of_succ_le_succ hl) _

theorem outlasts_parts (h : list'.Outlasts list) (hl : limit ≤ limit') :
    (parts list' limit').Outlasts (parts list limit) := by
  refine .same_bind _ fun first => ?_
  split
  · exact .refl _
  split
  · exact .same_bind _ fun _ => outlasts_partTurns h hl none
  split
  · exact outlasts_partTurns h hl none
  · exact .same_bind _ fun name => outlasts_partTurns h hl _

/-! ## Members and lists -/

theorem outlasts_compoundTurns (h : list'.Outlasts list) (hl : limit ≤ limit') (s : Selector) :
    (compoundTurns list' limit' s).Outlasts (compoundTurns list limit s) := by
  induction limit generalizing limit' s with
  | zero => exact outlasts_breakOff _
  | succ limit ih =>
    obtain ⟨limit', rfl⟩ := Nat.exists_eq_add_of_le' (Nat.le_of_add_left_le hl)
    have hl' := Nat.le_of_succ_le_succ hl
    refine .same_bind _ fun start => .same_bind _ fun spaced => .same_bind _ fun combinator => ?_
    split
    · exact .refl _
    · exact (outlasts_parts h hl').bind fun next => .same_bind _ fun _ => ih hl' _

theorem outlasts_compounds (h : list'.Outlasts list) (hl : limit ≤ limit') :
    (compounds list' limit').Outlasts (compounds list limit) :=
  .same_bind _ fun _ => (outlasts_parts h hl).bind (outlasts_compoundTurns h hl)

theorem outlasts_memberTurns (h : list'.Outlasts list) (hl : limit ≤ limit') (s : Selector) :
    (memberTurns list' limit' s).Outlasts (memberTurns list limit s) := by
  induction limit generalizing limit' s with
  | zero => exact outlasts_breakOff _
  | succ limit ih =>
    obtain ⟨limit', rfl⟩ := Nat.exists_eq_add_of_le' (Nat.le_of_add_left_le hl)
    have hl' := Nat.le_of_succ_le_succ hl
    refine .same_bind _ fun start => .same_bind _ fun comma => ?_
    split
    · exact (outlasts_compounds h hl').bind fun next => .same_bind _ fun _ => ih hl' _
    · exact .refl _

theorem outlasts_members (hl : limit ≤ limit') : (members limit').Outlasts (members limit) := by
  induction limit generalizing limit' with
  | zero => exact outlasts_breakOff _
  | succ limit ih =>
    obtain ⟨limit', rfl⟩ := Nat.exists_eq_add_of_le' (Nat.le_of_add_left_le hl)
    have hlist := ih (Nat.le_of_succ_le_succ hl)
    exact (outlasts_compounds hlist hl).bind (outlasts_memberTurns hlist hl)

end Scan

/-- What has been read within a limit does not depend on it. -/
theorem Selector.scan_of_le {limit limit' : Nat} {text : String}
    {out : Except Halt Selector × Cursor} (h : scan limit text = some out)
    (hl : limit ≤ limit') : scan limit' text = some out :=
  (Scan.outlasts_members hl).bind_same _ text.toList {} out h

end DocQuery
