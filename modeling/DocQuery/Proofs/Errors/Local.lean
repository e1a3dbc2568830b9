import DocQuery.Proofs.Errors.Stops
import DocQuery.Proofs.Grammar.Exchange

/-!
# Local readers

Reading is local if the place where it stops, and what it has found out by then, do not depend on
the text far behind that place: two characters from the place on decide. The one exception is the
name of a pseudo-class that is not known. It is blamed where it begins, after it has been read to
its end, so that this error is decided by the name and the character behind it.

- `Leaves`: results that may leave some of the text.
- `ParseError.DecidedBy`: how much of the text from its place on decides an error.
- `IsLocal`: the readers whose results are decided so.
- `IsLocal.bind`, `IsLocal.of_cons`, `IsLocal.skipBlank`, `isLocal_span`: locality is kept by all
  that readers are made of.
-/

namespace DocQuery

open Grammar

/-! ## What decides -/

/-- The characters are enough of the text from the place of the error on to decide it: two of them,
or for a pseudo-class of no known name all of its name and one character more. -/
def ParseError.DecidedBy {Place : Type} (ahead : List Char) : ParseError Place → Prop
  | malformed _ (.unknownPseudoClass _) =>
    ∃ identifier c after, ahead = identifier ++ c :: after ∧ IsIdentifier identifier ∧
      isNameChar c = false
  | _ => 2 ≤ ahead.length

theorem ParseError.decidedBy_map {Place Place' : Type} (f : Place → Place') {ahead : List Char}
    {e : ParseError Place} : (e.map f).DecidedBy ahead ↔ e.DecidedBy ahead := by
  cases e with
  | malformed place fault => cases fault <;> rfl
  | escape place => rfl
  | unsupported name => rfl

/-- Whatever decides an error has two characters at least. -/
theorem ParseError.DecidedBy.two_le {Place : Type} {ahead : List Char} {e : ParseError Place}
    (h : e.DecidedBy ahead) : 2 ≤ ahead.length := by
  cases e with
  | malformed place fault =>
    cases fault with
    | unknownPseudoClass name =>
      obtain ⟨identifier, c, after, rfl, hid, -⟩ := h
      have hpos := List.length_pos_iff.2 (isName_of_isIdentifier hid).1
      simp only [List.length_append, List.length_cons]
      omega
    | _ => exact h
  | escape place => exact h
  | unsupported name => exact h

/-- The characters are enough of the text from where reading has stopped on to decide what has come
out of it. -/
def Decides {β : Type} (ahead : List Char) : Except Stop β → Prop
  | .ok _ => 2 ≤ ahead.length
  | .error e => e.DecidedBy ahead

theorem Decides.two_le {β : Type} {ahead : List Char} {r : Except Stop β} (h : Decides ahead r) :
    2 ≤ ahead.length := by
  cases r with
  | ok b => exact h
  | error e => exact ParseError.DecidedBy.two_le h

theorem Decides.two_le_append {β : Type} {ahead : List Char} {r : Except Stop β}
    (h : Decides ahead r) (used : List Char) : 2 ≤ (used ++ ahead).length := by
  rw [List.length_append]
  exact Nat.le_add_left_of_le h.two_le

theorem exists_cons_cons_of_two_le {ahead : List Char} (h : 2 ≤ ahead.length) :
    ∃ c d more, ahead = c :: d :: more := by
  match ahead, h with
  | c :: d :: more, _ => exact ⟨c, d, more, rfl⟩

/-! ## What is left -/

/-- Results that may leave some of the text to be read. -/
class Leaves (β : Type) where
  /-- What is left, unless the text has been read to its end. -/
  rest? : β → Option (List Char)
  /-- The same result in front of another rest. -/
  leave : List Char → β → β

instance leavesProd {α : Type} : Leaves (α × List Char) where
  rest? pair := some pair.2
  leave rest pair := (pair.1, rest)

instance leavesProgress : Leaves Progress where
  rest?
    | .finished _ => none
    | .reading _ rest => some rest
  leave rest
    | .finished s => .finished s
    | .reading next _ => .reading next rest

instance leavesSelector : Leaves Selector where
  rest? _ := none
  leave _ s := s

section

variable {α β γ : Type} [Leaves β] [Leaves γ]

/-- Where reading has stopped: behind what it has read, or at the place of its error. -/
def restOf? : Except Stop β → Option (List Char)
  | .ok b => Leaves.rest? b
  | .error e => e.place?

/-- The same outcome in front of another rest. -/
def withRest (rest : List Char) : Except Stop β → Except Stop β
  | .ok b => .ok (Leaves.leave rest b)
  | .error e => .error (e.map fun _ => rest)

/-- The reader stops inside its text, and characters that decide its outcome decide it whatever text
comes behind them. -/
structure IsLocal (read : List Char → Except Stop β) : Prop where
  suffix {cs rest : List Char} (h : restOf? (read cs) = some rest) : rest <:+ cs
  agrees {used ahead tail : List Char}
    (h : restOf? (read (used ++ (ahead ++ tail))) = some (ahead ++ tail))
    (ha : Decides ahead (read (used ++ (ahead ++ tail)))) (other : List Char) :
    read (used ++ (ahead ++ other)) =
      withRest (ahead ++ other) (read (used ++ (ahead ++ tail)))

namespace IsLocal

theorem error_agrees {read : List Char → Except Stop β} {used ahead tail : List Char} {e : Stop}
    (h : IsLocal read) (hr : read (used ++ (ahead ++ tail)) = .error e)
    (hp : e.place? = some (ahead ++ tail)) (ha : e.DecidedBy ahead) (other : List Char) :
    read (used ++ (ahead ++ other)) = .error (e.map fun _ => ahead ++ other) := by
  have hag := h.agrees (by rw [hr]; exact hp) (by rw [hr]; exact ha) other
  rw [hag, hr]
  rfl

/-- More text may lie between the place where the reader stops and what is known of the text. -/
theorem ok_agrees {read : List Char → Except Stop β} {used between ahead tail : List Char} {b : β}
    (h : IsLocal read) (hr : read (used ++ (ahead ++ tail)) = .ok b)
    (hb : Leaves.rest? b = some (between ++ (ahead ++ tail))) (ha : 2 ≤ ahead.length)
    (other : List Char) :
    read (used ++ (ahead ++ other)) = .ok (Leaves.leave (between ++ (ahead ++ other)) b) := by
  have hstop : restOf? (read (used ++ (ahead ++ tail))) = some (between ++ (ahead ++ tail)) := by
    rw [hr]
    exact hb
  obtain ⟨front, heq⟩ := h.suffix hstop
  obtain rfl : front ++ between = used := by
    rw [← List.append_assoc] at heq
    exact List.append_cancel_right heq
  have hassoc : ∀ rest, front ++ between ++ (ahead ++ rest) =
      front ++ (between ++ ahead ++ rest) := by simp
  rw [hassoc] at hr hstop ⊢
  rw [← List.append_assoc between] at hstop
  have hbetween : Decides (between ++ ahead) (read (front ++ (between ++ ahead ++ tail))) := by
    rw [hr]
    show 2 ≤ (between ++ ahead).length
    rw [List.length_append]
    omega
  rw [h.agrees hstop hbetween other, hr, List.append_assoc]
  rfl

/-! ## Constant outcomes -/

theorem ok (a : α) : IsLocal fun cs => Except.ok (a, cs) where
  suffix h := Option.some.inj h ▸ List.suffix_rfl
  agrees h _ other := by
    obtain rfl := List.append_left_eq_self.1 (Option.some.inj h)
    rfl

/-- An error at the place where reading starts. -/
theorem error (e : Stop) : IsLocal (β := β) fun cs => .error (e.map fun _ => cs) where
  suffix {cs rest} h := by
    cases e with
    | unsupported name => contradiction
    | _ => exact Option.some.inj h ▸ List.suffix_rfl
  agrees {used ahead tail} h _ other := by
    cases e with
    | unsupported name => contradiction
    | _ =>
      obtain rfl := List.append_left_eq_self.1 (Option.some.inj h)
      rfl

theorem malformed (fault : Fault) : IsLocal (β := β) fun cs => .error (.malformed cs fault) :=
  error (.malformed [] fault)

/-! ## Readers in steps -/

theorem map {read : List Char → Except Stop β} (h : IsLocal read) {f : β → γ}
    (hrest : ∀ b, Leaves.rest? (f b) = Leaves.rest? b)
    (hleave : ∀ rest b, Leaves.leave rest (f b) = f (Leaves.leave rest b)) :
    IsLocal fun cs => (read cs).map f := by
  have hstop : ∀ r : Except Stop β, restOf? (r.map f) = restOf? r := by
    intro r
    cases r with
    | ok b => exact hrest b
    | error e => rfl
  refine ⟨fun hl => h.suffix (hstop _ ▸ hl), fun {used ahead tail} hl ha other => ?_⟩
  cases hr : read (used ++ (ahead ++ tail)) with
  | ok b =>
    rw [hr] at hl ha
    rw [h.agrees (by rw [hr]; exact hstop (.ok b) ▸ hl) (by rw [hr]; exact ha) other, hr]
    exact congrArg Except.ok (hleave _ b).symm
  | error e =>
    rw [hr] at hl ha
    rw [h.error_agrees hr hl ha other]
    rfl

/-- A reader that goes on where another one has stopped. -/
theorem bind {read : List Char → Except Stop (α × List Char)}
    {f : α → List Char → Except Stop β} (h : IsLocal read) (hf : ∀ a, IsLocal (f a)) :
    IsLocal fun cs => read cs >>= fun (a, rest) => f a rest where
  suffix {cs rest} hl := by
    cases hr : read cs with
    | error e =>
      rw [hr] at hl
      exact h.suffix (by rw [hr]; exact hl)
    | ok pair =>
      rw [hr] at hl
      have hmid : pair.2 <:+ cs := h.suffix (by rw [hr]; rfl)
      exact ((hf pair.1).suffix hl).trans hmid
  agrees {used ahead tail} hl ha other := by
    cases hr : read (used ++ (ahead ++ tail)) with
    | error e =>
      rw [hr] at hl ha
      rw [h.error_agrees hr hl ha other]
      rfl
    -- the first reader has stopped somewhere before the place where the second one does
    | ok pair =>
      obtain ⟨a, mid⟩ := pair
      rw [hr, ok_bind] at hl ha
      obtain ⟨between, rfl⟩ := (hf a).suffix hl
      rw [h.ok_agrees hr rfl ha.two_le other, ok_bind]
      exact (hf a).agrees hl ha other

/-- A reader that starts behind the first character. -/
theorem tail {read : List Char → Except Stop β} (h : IsLocal read) :
    IsLocal fun cs => read cs.tail where
  suffix hl := (h.suffix hl).trans (List.tail_suffix _)
  agrees {used ahead tail} hl ha other := by
    cases used with
    | nil =>
      have hle := (h.suffix hl).length_le
      have hahead := ha.two_le
      rw [List.nil_append, List.length_tail, List.length_append] at hle
      omega
    | cons c used => exact h.agrees hl ha other

/-! ## Choices by the next characters -/

/-- A reader that is chosen by the first character. -/
theorem of_cons {read : List Char → Except Stop β}
    (hnil : ∀ rest, restOf? (read []) = some rest → rest = [])
    (h : ∀ c, ∃ next : List Char → Except Stop β, IsLocal next ∧
      ∀ cs, read (c :: cs) = next (c :: cs)) : IsLocal read where
  suffix {cs rest} hl := by
    cases cs with
    | nil => exact hnil rest hl ▸ List.suffix_rfl
    | cons c cs =>
      obtain ⟨next, hnext, heq⟩ := h c
      rw [heq] at hl
      exact hnext.suffix hl
  agrees {used ahead tail} hl ha other := by
    obtain ⟨c, d, more, hcons⟩ := exists_cons_cons_of_two_le (ha.two_le_append used)
    obtain ⟨next, hnext, heq⟩ := h c
    have hread : ∀ rest, read (used ++ (ahead ++ rest)) = next (used ++ (ahead ++ rest)) := by
      intro rest
      rw [← List.append_assoc, hcons, List.cons_append, heq]
    rw [hread] at hl ha ⊢
    rw [hread]
    exact hnext.agrees hl ha other

/-- A reader that is chosen by the first two characters. -/
theorem of_cons_cons {read : List Char → Except Stop β}
    (hs : ∀ cs rest, restOf? (read cs) = some rest → rest <:+ cs)
    (h : ∀ c d, ∃ next : List Char → Except Stop β, IsLocal next ∧
      ∀ cs, read (c :: d :: cs) = next (c :: d :: cs)) : IsLocal read where
  suffix hl := hs _ _ hl
  agrees {used ahead tail} hl ha other := by
    obtain ⟨c, d, more, hcons⟩ := exists_cons_cons_of_two_le (ha.two_le_append used)
    obtain ⟨next, hnext, heq⟩ := h c d
    have hread : ∀ rest, read (used ++ (ahead ++ rest)) = next (used ++ (ahead ++ rest)) := by
      intro rest
      rw [← List.append_assoc, hcons, List.cons_append, List.cons_append, heq]
    rw [hread] at hl ha ⊢
    rw [hread]
    exact hnext.agrees hl ha other

end IsLocal

/-! ## Runs of characters -/

/-- The longest run of characters of one class. -/
theorem isLocal_span (p : Char → Bool) :
    IsLocal fun cs => Except.ok (cs.takeWhile p, cs.dropWhile p) where
  suffix h := Option.some.inj h ▸ List.dropWhile_suffix p
  agrees {used ahead tail} h ha other := by
    have hdrop : (used ++ (ahead ++ tail)).dropWhile p = ahead ++ tail := Option.some.inj h
    have hsplit := List.takeWhile_append_dropWhile (p := p) (l := used ++ (ahead ++ tail))
    rw [hdrop] at hsplit
    have hused : (used ++ (ahead ++ tail)).takeWhile p = used := List.append_cancel_right hsplit
    have hall : ∀ c ∈ used, p c = true := by
      rw [← hused]
      exact fun c hc => List.all_eq_true.mp List.all_takeWhile c hc
    -- the run ends at the first character of what is left, whatever comes behind that
    obtain ⟨c, d, more, rfl⟩ := exists_cons_cons_of_two_le ha.two_le
    have hc : ¬ p c = true := by
      have hhead := List.head?_dropWhile_not p (used ++ (c :: d :: more ++ tail))
      rw [hdrop] at hhead
      simpa using hhead
    rw [hused, hdrop, List.takeWhile_append_of_pos hall, List.dropWhile_append_of_pos hall]
    simp only [List.cons_append]
    rw [List.takeWhile_cons_of_neg hc, List.dropWhile_cons_of_neg hc, List.append_nil]
    rfl

/-! ## Spacing -/

theorem startsBlank_cons_cons (c d : Char) (cs : List Char) :
    startsBlank (c :: d :: cs) = startsBlank [c, d] := by
  by_cases h : c = '/' ∧ d = '*'
  · obtain ⟨rfl, rfl⟩ := h
    rfl
  · have hblank : ∀ rest, startsBlank (c :: d :: rest) = Text.isBlank c := by
      intro rest
      rw [startsBlank]
      rintro more rfl hd
      exact h ⟨rfl, (List.cons.inj hd).1⟩
    rw [hblank, hblank]

/-- No spacing is left in front. -/
theorem startsBlank_skipBlank (cs : List Char) : startsBlank (skipBlank cs) = false := by
  fun_induction skipBlank cs with
  | case1 => rfl
  | case2 body ih => exact ih
  | case3 c rest _ _ ih => exact ih
  | case4 c rest hcomment hc =>
    rw [startsBlank]
    · simpa using hc
    · exact hcomment

/-- All the spacing in front. A comment ends where it does, whatever comes behind its end. -/
theorem isLocal_skipBlank : IsLocal fun cs => Except.ok ((), skipBlank cs) where
  suffix h := Option.some.inj h ▸ skipBlank_suffix _
  agrees {used ahead tail} h ha other := by
    have hskip : skipBlank (used ++ (ahead ++ tail)) = ahead ++ tail := Option.some.inj h
    obtain ⟨c, d, more, rfl⟩ := exists_cons_cons_of_two_le ha.two_le
    have hb := blank_skipBlank (used ++ (c :: d :: more ++ tail))
    rw [hskip] at hb
    obtain ⟨front, hfront, hblank⟩ := hb.exists_append (List.cons_ne_nil _ _)
    obtain rfl := List.append_cancel_right hfront
    -- what stops the spacing is seen in two characters
    have hstart : startsBlank (c :: d :: (more ++ other)) = false := by
      have hstart := startsBlank_skipBlank (used ++ (c :: d :: more ++ tail))
      rw [hskip, List.cons_append, List.cons_append, startsBlank_cons_cons] at hstart
      rw [startsBlank_cons_cons, hstart]
    have hother := (hblank (c :: d :: more ++ other)).skipBlank_eq_rest hstart
    simp only [hother]
    rfl

namespace IsLocal

theorem skipBlank {read : List Char → Except Stop β} (h : IsLocal read) :
    IsLocal fun cs => read (DocQuery.skipBlank cs) :=
  isLocal_skipBlank.bind fun _ => h

/-- A reader that is chosen by whether there is spacing in front. -/
theorem of_startsBlank {read : Bool → List Char → Except Stop β} (h : ∀ b, IsLocal (read b)) :
    IsLocal fun cs => read (startsBlank cs) cs := by
  refine of_cons_cons (fun cs rest hl => (h _).suffix hl) fun c d => ?_
  exact ⟨_, h (startsBlank [c, d]), fun cs => by rw [startsBlank_cons_cons]⟩

end IsLocal

end

end DocQuery
