import DocQuery.Proofs.Errors.Truth
import DocQuery.Selector.Cursor

/-!
# What the operations of a cursor do

The operations count in bytes, and each one counts in its own way. They all come to the same: a
cursor that is between two characters stays between two characters, and what is left of the text
there is what a reading along the list of characters would have left.

- `cutAt_eq_some_iff`: a text can be cut exactly where some of its characters end.
- `findChar_eq`, `findText_close`: what is found, as a length of what stands before it.
- `Cursor.IsAt`: the cursor is where a certain rest of the text begins.
- `Cursor.Leads`, `Cursor.Sound`: moves between characters, and turns that have moved on.
- `Scan.Reads`: a reading with a cursor does what a reading of characters does.
- `Scan.reads_peek` to `Scan.reads_takeWhile`: the operations.
-/

namespace DocQuery

/-! ## Cuts -/

theorem byteLength_cons (c : Char) (cs : List Char) :
    byteLength (c :: cs) = c.utf8Size + byteLength cs := rfl

theorem cutAt_append (before rest : List Char) :
    cutAt (before ++ rest) (byteLength before) = some (before, rest) := by
  induction before with
  | nil => simp [byteLength, cutAt]
  | cons c before ih =>
    obtain ⟨n, hn⟩ : ∃ n, byteLength (c :: before) = n + 1 := by
      have := c.utf8Size_pos
      exact ⟨byteLength (c :: before) - 1, by rw [byteLength_cons]; omega⟩
    have hle : c.utf8Size ≤ n + 1 := by rw [← hn, byteLength_cons]; omega
    have hsub : n + 1 - c.utf8Size = byteLength before := by rw [← hn, byteLength_cons]; omega
    rw [List.cons_append, hn, cutAt, if_pos hle, hsub, ih]
    rfl

theorem eq_append_of_cutAt {cs before rest : List Char} {n : Nat}
    (h : cutAt cs n = some (before, rest)) : cs = before ++ rest := by
  fun_induction cutAt cs n generalizing before rest with
  | case1 cs =>
    obtain ⟨rfl, rfl⟩ := Prod.mk.inj (Option.some.inj h)
    rfl
  | case2 n => contradiction
  | case3 c cs n hle ih =>
    obtain ⟨⟨front, after⟩, hcut, heq⟩ := Option.map_eq_some_iff.1 h
    obtain ⟨rfl, rfl⟩ := Prod.mk.inj heq
    exact congrArg (c :: ·) (ih hcut)
  | case4 c cs n hlt => contradiction

/-- A text can be cut where some of its characters end, and nowhere else. -/
theorem cutAt_eq_some_iff {cs before rest : List Char} {n : Nat} :
    cutAt cs n = some (before, rest) ↔ cs = before ++ rest ∧ byteLength before = n :=
  ⟨fun h => ⟨eq_append_of_cutAt h, (byteLength_of_cutAt h).1⟩,
    fun ⟨hcs, hn⟩ => hcs ▸ hn ▸ cutAt_append before rest⟩

/-- What stands between two places of a text is the part between their offsets. -/
theorem slice?_append (before part rest : List Char) :
    slice? (before ++ part ++ rest) (byteLength before) (byteLength (before ++ part)) =
      some part := by
  have hstop := cutAt_append (before ++ part) rest
  have hstart := cutAt_append before part
  simp only [slice?, hstop, hstart, Option.bind_eq_bind, Option.bind_some, Option.pure_def]

/-! ## What is found -/

/-- The first character without the property stands behind the longest run with it; if there is
none, the run is all of the text. -/
theorem findChar_eq (p : Char → Bool) (cs : List Char) :
    (findChar (fun c => !p c) cs).getD (byteLength cs) = byteLength (cs.takeWhile p) := by
  induction cs with
  | nil => rfl
  | cons c cs ih =>
    cases hc : p c with
    | false => simp [findChar, hc, byteLength]
    | true =>
      have hfound : ∀ found : Option Nat,
          (found.map (c.utf8Size + ·)).getD (byteLength (c :: cs)) =
            c.utf8Size + found.getD (byteLength cs) := by
        intro found
        cases found <;> rfl
      rw [findChar, if_neg (by simp [hc]), hfound, ih, List.takeWhile_cons_of_pos hc]
      rfl

/-- The end of a comment is found where `afterComment` finds it. -/
theorem findText_close (body : List Char) :
    (∃ inner, body = inner ++ '*' :: '/' :: afterComment body ∧
        findText ['*', '/'] body = some (byteLength inner)) ∨
      afterComment body = [] ∧ findText ['*', '/'] body = none := by
  fun_induction afterComment body with
  | case1 => exact .inr ⟨rfl, rfl⟩
  | case2 rest => exact .inl ⟨[], rfl, by simp [findText, byteLength]⟩
  | case3 c rest hne ih =>
    have hopens : ['*', '/'].isPrefixOf (c :: rest) = false := by
      cases hp : ['*', '/'].isPrefixOf (c :: rest) with
      | false => rfl
      | true =>
        obtain ⟨after, heq⟩ := List.isPrefixOf_iff_prefix.1 hp
        obtain ⟨rfl, rfl⟩ := List.cons.inj heq
        exact (hne after rfl rfl).elim
    rw [findText, if_neg (by simp [hopens])]
    rcases ih with ⟨inner, hrest, hfound⟩ | ⟨hnil, hfound⟩
    · exact .inl ⟨c :: inner, by rw [List.cons_append, ← hrest], by rw [hfound]; rfl⟩
    · exact .inr ⟨hnil, by rw [hfound]; rfl⟩

/-! ## Where a cursor is -/

/-- Further on in the text the offset is larger. -/
theorem offsetOf_lt {text start rest : List Char} (h : Advances start rest)
    (hs : start <:+ text) : offsetOf text start < offsetOf text rest := by
  obtain ⟨front, rfl⟩ := hs
  obtain ⟨part, rfl⟩ := h.suffix
  have hne : part ≠ [] := by
    rintro rfl
    exact absurd h.shorter (Nat.lt_irrefl _)
  rw [offsetOf_append, ← List.append_assoc, offsetOf_append, byteLength_append]
  exact Nat.lt_add_of_pos_right (byteLength_pos hne)

namespace Cursor

/-- The cursor is where the rest of the text begins: the bytes before it are those of the
characters before the rest. -/
def IsAt (c : Cursor) (text rest : List Char) : Prop :=
  ∃ before, text = before ++ rest ∧ c.position = byteLength before

variable {c c' : Cursor} {text cs rest : List Char}

theorem IsAt.suffix (h : c.IsAt text rest) : rest <:+ text := by
  obtain ⟨before, rfl, -⟩ := h
  exact List.suffix_append before rest

theorem IsAt.position_eq (h : c.IsAt text rest) : c.position = offsetOf text rest := by
  obtain ⟨before, rfl, hp⟩ := h
  rw [offsetOf_append, hp]

/-- `c.Leads text c'`: the cursor has come from `c` to `c'` by moves from one place between
characters to another, and by turns of loops that had moved on. -/
inductive Leads (text : List Char) (c : Cursor) : Cursor → Prop where
  | refl : Leads text c c
  | move {c' : Cursor} {before rest : List Char} {bytes : Nat} (h : Leads text c c')
      (heq : text = before ++ rest) (hp : c'.position + bytes = byteLength before) :
      Leads text c (c'.move bytes)
  | turn {c' : Cursor} {loop : Loop} {start : Nat} (h : Leads text c c')
      (hs : start < c'.position) : Leads text c (c'.turn loop start)

theorem Leads.trans {c'' : Cursor} (h : Leads text c c') (h' : Leads text c' c'') :
    Leads text c c'' := by
  induction h' with
  | refl => exact h
  | move _ heq hp ih => exact .move ih heq hp
  | turn _ hs ih => exact .turn ih hs

/-- What holds of a cursor at any time, with all places where it has been and all turns. -/
structure Sound (text : List Char) (c : Cursor) : Prop where
  /-- Every place is between characters. -/
  between : ∀ p ∈ c.places, ∃ before rest, text = before ++ rest ∧ p = byteLength before
  /-- The cursor is nowhere before a place where it has been. -/
  reached : ∀ p ∈ c.places, p ≤ c.position
  /-- The cursor has never gone back. -/
  onward : c.places.Pairwise (· ≥ ·)
  /-- Every turn has moved on. -/
  progress : ∀ t ∈ c.turns, t.start < t.stop

theorem sound_start (text : List Char) : Sound text {} where
  between _ hp := ⟨[], text, rfl, List.mem_singleton.1 hp⟩
  reached _ hp := Nat.le_of_eq (List.mem_singleton.1 hp)
  onward := List.pairwise_singleton _ _
  progress _ ht := absurd ht List.not_mem_nil

theorem Sound.move {before : List Char} {bytes : Nat} (h : c.Sound text)
    (heq : text = before ++ rest) (hp : c.position + bytes = byteLength before) :
    (c.move bytes).Sound text where
  between := List.forall_mem_cons.2 ⟨⟨before, rest, heq, hp⟩, h.between⟩
  reached := List.forall_mem_cons.2
    ⟨Nat.le_refl _, fun p hmem => Nat.le_add_right_of_le (h.reached p hmem)⟩
  onward := List.pairwise_cons.2
    ⟨fun p hmem => Nat.le_add_right_of_le (h.reached p hmem), h.onward⟩
  progress := h.progress

theorem Sound.turn {loop : Loop} {start : Nat} (h : c.Sound text) (hs : start < c.position) :
    (c.turn loop start).Sound text :=
  { h with progress := List.forall_mem_cons.2 ⟨hs, h.progress⟩ }

theorem Leads.sound (h : Leads text c c') (hc : c.Sound text) : c'.Sound text := by
  induction h with
  | refl => exact hc
  | move _ heq hp ih => exact ih.move heq hp
  | turn _ hs ih => exact ih.turn hs

end Cursor

/-! ## Readings -/

namespace Scan

open Cursor

variable {α β : Type} {text cs rest : List Char}

/-- The outcome of a reading with a cursor is that of a reading of characters: the result, with
the cursor where the rest of the text begins, or the error, with its place as an offset. -/
def Ends (text : List Char) (c : Cursor) :
    Except Stop (α × List Char) → Except Halt α → Prop
  | .ok (a, rest), r => r = .ok a ∧ c.IsAt text rest
  | .error e, r => r = .error (.refused (e.map (offsetOf text)))

/-- From every cursor in front of `cs` the reading comes to its end, with the outcome `out`. -/
def Reads (x : Scan α) (text cs : List Char) (out : Except Stop (α × List Char)) : Prop :=
  ∀ c : Cursor, c.IsAt text cs →
    ∃ r c', x text c = some (r, c') ∧ c.Leads text c' ∧ Ends text c' out r

theorem bind_eq_of_ok {x : Scan α} {f : α → Scan β} {c c' : Cursor} {a : α}
    (h : x text c = some (.ok a, c')) : (x >>= f) text c = f a text c' := by
  show StateT.bind (x text) _ c = _
  rw [StateT.bind, h]
  rfl

theorem bind_eq_of_error {x : Scan α} {f : α → Scan β} {c c' : Cursor} {halt : Halt}
    (h : x text c = some (.error halt, c')) : (x >>= f) text c = some (.error halt, c') := by
  show StateT.bind (x text) _ c = _
  rw [StateT.bind, h]
  rfl

theorem bind_eq_of_none {x : Scan α} {f : α → Scan β} {c : Cursor} (h : x text c = none) :
    (x >>= f) text c = none := by
  show StateT.bind (x text) _ c = _
  rw [StateT.bind, h]
  rfl

theorem rest_eq_of_some {c : Cursor} (h : slice? text c.position (byteLength text) = some rest) :
    Scan.rest text c = some (.ok rest, c) := by
  show (slice c.position (byteLength text)) text c = _
  rw [slice]
  refine (bind_eq_of_ok rfl).trans ?_
  rw [h]
  rfl

theorem rest_eq_of_none {c : Cursor} (h : slice? text c.position (byteLength text) = none) :
    Scan.rest text c = some (.error (.misplaced c.position (byteLength text)), c) := by
  show (slice c.position (byteLength text)) text c = _
  rw [slice]
  refine (bind_eq_of_ok rfl).trans ?_
  rw [h]
  rfl

namespace Reads

variable {x : Scan α} {f : α → Scan β} {out : Except Stop (β × List Char)}

/-- The cursor is always somewhere in the text. -/
theorem of_suffix {out : Except Stop (α × List Char)} (h : cs <:+ text → Reads x text cs out) :
    Reads x text cs out :=
  fun c hc => h hc.suffix c hc

/-- After a first step that succeeds, the second one goes on from there. -/
theorem bind {a : α} (hx : Reads x text cs (.ok (a, rest))) (hf : Reads (f a) text rest out) :
    Reads (x >>= f) text cs out := by
  intro c hc
  obtain ⟨r, c₁, hrun, hleads, rfl, hc₁⟩ := hx c hc
  obtain ⟨r', c₂, hrun', hleads', hends⟩ := hf c₁ hc₁
  exact ⟨r', c₂, (bind_eq_of_ok hrun).trans hrun', hleads.trans hleads', hends⟩

/-- A first step that fails ends the whole. -/
theorem bind_error {e : Stop} (hx : Reads x text cs (.error e)) :
    Reads (x >>= f) text cs (.error e) := by
  intro c hc
  obtain ⟨r, c', hrun, hleads, rfl⟩ := hx c hc
  exact ⟨_, c', bind_eq_of_error hrun, hleads, rfl⟩

/-- The second step goes on from the outcome of the first one, if this has succeeded. -/
theorem andThen {first : Except Stop (α × List Char)}
    {next : α × List Char → Except Stop (β × List Char)} (hx : Reads x text cs first)
    (hf : ∀ a rest, first = .ok (a, rest) → Reads (f a) text rest (next (a, rest))) :
    Reads (x >>= f) text cs (first >>= next) := by
  cases first with
  | error e => exact hx.bind_error
  | ok pair => exact hx.bind (hf pair.1 pair.2 rfl)

end Reads

theorem reads_pure (a : α) : Reads (pure a) text cs (.ok (a, cs)) :=
  fun c hc => ⟨_, c, rfl, .refl, rfl, hc⟩

theorem reads_throw (e : Stop) :
    Reads (α := α) (throw (.refused (e.map (offsetOf text)))) text cs (.error e) :=
  fun c _ => ⟨_, c, rfl, .refl, rfl⟩

/-- What is made of a result makes no difference to how it is read. -/
theorem Reads.map {x : Scan α} {out : Except Stop (α × List Char)} (g : α → β)
    (hx : Reads x text cs out) :
    Reads (x >>= fun a => pure (g a)) text cs (out.map fun p => (g p.1, p.2)) := by
  cases out with
  | error e => exact hx.bind_error
  | ok pair => exact hx.bind (reads_pure _)

/-! ## Operations -/

theorem reads_position : Reads position text cs (.ok (offsetOf text cs, cs)) :=
  fun c hc => ⟨_, c, rfl, .refl, congrArg _ hc.position_eq, hc⟩

theorem reads_refuse (fault : Fault) :
    Reads (α := α) (refuse fault) text cs (.error (.malformed cs fault)) :=
  reads_position.bind (reads_throw (.malformed cs fault))

theorem reads_refuseEscape : Reads (α := α) refuseEscape text cs (.error (.escape cs)) :=
  reads_position.bind (reads_throw (.escape cs))

/-- A move over characters ends behind them. -/
theorem reads_move (front : List Char) :
    Reads (move (byteLength front)) text (front ++ rest) (.ok ((), rest)) := by
  rintro c ⟨before, rfl, hp⟩
  have hp' : c.position + byteLength front = byteLength (before ++ front) := by
    rw [hp, byteLength_append]
  have heq : before ++ (front ++ rest) = (before ++ front) ++ rest := (List.append_assoc ..).symm
  exact ⟨_, c.move (byteLength front), rfl, .move .refl heq hp', rfl, before ++ front, heq, hp'⟩

/-- A turn ends further on than it began. -/
theorem reads_turn {start : List Char} (loop : Loop) (h : Advances start cs)
    (hs : start <:+ text) :
    Reads (turn loop (offsetOf text start)) text cs (.ok ((), cs)) := by
  intro c hc
  refine ⟨_, c.turn loop (offsetOf text start), rfl, .turn .refl ?_, rfl, hc⟩
  exact hc.position_eq ▸ offsetOf_lt h hs

theorem reads_read : Reads read text cs (.ok (text, cs)) :=
  fun c hc => ⟨_, c, rfl, .refl, rfl, hc⟩

/-- A part that is there is cut out. -/
theorem reads_slice {start stop : Nat} {part : List Char}
    (h : slice? text start stop = some part) :
    Reads (slice start stop) text cs (.ok (part, cs)) := by
  refine reads_read.bind ?_
  rw [h]
  exact reads_pure part

/-- All that is left of the text stands between the cursor and the end. -/
theorem reads_rest : Reads Scan.rest text cs (.ok (cs, cs)) := by
  refine .of_suffix ?_
  rintro ⟨before, rfl⟩
  have hslice := slice?_append before cs []
  rw [List.append_nil, ← offsetOf_append before cs] at hslice
  exact reads_position.bind (reads_read.bind (reads_slice hslice))

theorem reads_isAtEnd : Reads isAtEnd text cs (.ok (cs.isEmpty, cs)) := by
  refine .of_suffix ?_
  rintro ⟨before, rfl⟩
  refine reads_read.bind (reads_position.bind ?_)
  have hend : decide (byteLength (before ++ cs) ≤ offsetOf (before ++ cs) cs) = cs.isEmpty := by
    rw [offsetOf_append, byteLength_append]
    cases cs with
    | nil => simp [byteLength]
    | cons c cs =>
      have := byteLength_pos (List.cons_ne_nil c cs)
      simp only [List.isEmpty_cons, decide_eq_false_iff_not]
      omega
  rw [hend]
  exact reads_pure _

theorem reads_peek : Reads peek text cs (.ok (cs.head?, cs)) :=
  reads_rest.bind (reads_pure _)

theorem reads_peekAt (n : Nat) : Reads (peekAt n) text cs (.ok (cs[n]?, cs)) :=
  reads_rest.bind (reads_pure _)

/-- One character is moved over by its own length. -/
theorem reads_move_char (c : Char) : Reads (move c.utf8Size) text (c :: rest) (.ok ((), rest)) :=
  reads_move [c]

theorem reads_advance (c : Char) : Reads advance text (c :: rest) (.ok ((), rest)) :=
  reads_peek.bind (reads_move_char c)

theorem reads_eat (c : Char) : Reads (eat c) text (c :: rest) (.ok (true, rest)) := by
  refine reads_peek.bind ?_
  rw [List.head?_cons, if_pos rfl]
  exact (reads_move_char c).bind (reads_pure true)

theorem reads_eat_of_ne {c : Char} (h : ∀ rest, cs ≠ c :: rest) :
    Reads (eat c) text cs (.ok (false, cs)) := by
  have hhead : cs.head? ≠ some c := by
    intro hc
    obtain ⟨rest, heq⟩ := List.head?_eq_some_iff.1 hc
    exact h rest heq
  refine reads_peek.bind ?_
  rw [if_neg hhead]
  exact reads_pure false

/-- The longest run with the property is moved over, and it is what stands between the two places
of the cursor. -/
theorem reads_takeWhile (p : Char → Bool) :
    Reads (Scan.takeWhile p) text cs (.ok (cs.takeWhile p, cs.dropWhile p)) := by
  refine .of_suffix ?_
  rintro ⟨before, rfl⟩
  refine reads_position.bind (reads_rest.bind (reads_read.bind ?_))
  have hlen : byteLength (before ++ cs) - offsetOf (before ++ cs) cs = byteLength cs := by
    rw [offsetOf_append, byteLength_append, Nat.add_sub_cancel_left]
  rw [hlen, findChar_eq]
  have hcs : cs.takeWhile p ++ cs.dropWhile p = cs := List.takeWhile_append_dropWhile
  have hmove : Reads (move (byteLength (cs.takeWhile p))) (before ++ cs)
      (cs.takeWhile p ++ cs.dropWhile p) (.ok ((), cs.dropWhile p)) := reads_move _
  rw [hcs] at hmove
  refine hmove.bind (reads_position.bind (reads_slice ?_))
  have hslice := slice?_append before (cs.takeWhile p) (cs.dropWhile p)
  rw [← offsetOf_append (before ++ cs.takeWhile p) (cs.dropWhile p), List.append_assoc,
    hcs] at hslice
  rw [offsetOf_append before cs]
  exact hslice

end Scan

end DocQuery
