import DocQuery.Selector.Parser

/-!
# Reading at a byte offset

What is left of a text can also be told by a cursor: the text stays as it is, and all that changes
is a byte offset. What stands at the cursor then has to be cut out of the text again, and there is
no such cut behind the end or inside a character. How far a cursor moves is counted in bytes, in
each operation in its own way.

- `cutAt`, `slice?`: a text cut at byte offsets, where this is possible.
- `findChar`, `findText`: the byte offset of something that is looked for.
- `Cursor`: the offset, the places where it has been, and the turns that loops have made.
- `Scan`: readings with a cursor, which may be refused, may ask for a cut that there is none of,
  and may be broken off before they come to an end.
- `Scan.peek`, `Scan.advance`, `Scan.eat`, `Scan.takeWhile`, `Scan.skipBlank`: the operations.
-/

namespace DocQuery

/-! ## Text at byte offsets -/

/-- The text cut in two at a byte offset. There is no cut behind the end of the text, and none
inside a character. -/
def cutAt : List Char → Nat → Option (List Char × List Char)
  | cs, 0 => some ([], cs)
  | [], _ + 1 => none
  | c :: cs, n + 1 =>
    if c.utf8Size ≤ n + 1 then (cutAt cs (n + 1 - c.utf8Size)).map (Prod.map (c :: ·) id)
    else none

/-- The part of the text between two byte offsets. -/
def slice? (cs : List Char) (start stop : Nat) : Option (List Char) := do
  let front ← cutAt cs stop
  let part ← cutAt front.1 start
  return part.2

theorem byteLength_pos {cs : List Char} (h : cs ≠ []) : 0 < byteLength cs := by
  cases cs with
  | nil => contradiction
  | cons c cs => exact Nat.add_pos_left c.utf8Size_pos _

/-- A cut leaves the bytes before it on one side, and the others on the other one. -/
theorem byteLength_of_cutAt {cs before rest : List Char} {n : Nat}
    (h : cutAt cs n = some (before, rest)) :
    byteLength before = n ∧ byteLength cs = n + byteLength rest := by
  fun_induction cutAt cs n generalizing before rest with
  | case1 cs =>
    obtain ⟨rfl, rfl⟩ := Prod.mk.inj (Option.some.inj h)
    exact ⟨rfl, (Nat.zero_add _).symm⟩
  | case2 n => contradiction
  | case3 c cs n hle ih =>
    obtain ⟨⟨front, after⟩, hcut, heq⟩ := Option.map_eq_some_iff.1 h
    obtain ⟨rfl, rfl⟩ := Prod.mk.inj heq
    obtain ⟨hfront, hcs⟩ := ih hcut
    show c.utf8Size + byteLength front = n + 1 ∧
      c.utf8Size + byteLength cs = n + 1 + byteLength after
    omega
  | case4 c cs n hlt => contradiction

/-- If something is left of a text, its end is further on. -/
theorem lt_of_slice? {cs rest : List Char} {start : Nat}
    (h : slice? cs start (byteLength cs) = some rest) (hne : rest ≠ []) :
    start < byteLength cs := by
  obtain ⟨⟨front, after⟩, hstop, h⟩ := Option.bind_eq_some_iff.1 h
  obtain ⟨⟨before, part⟩, hstart, h⟩ := Option.bind_eq_some_iff.1 h
  obtain rfl := Option.some.inj h
  have hfront := byteLength_of_cutAt hstop
  have hpart : byteLength before = start ∧ byteLength front = start + byteLength part :=
    byteLength_of_cutAt hstart
  have hpos : 0 < byteLength part := byteLength_pos hne
  omega

/-- The byte offset of the first character with the property. -/
def findChar (p : Char → Bool) : List Char → Option Nat
  | [] => none
  | c :: cs => if p c then some 0 else (findChar p cs).map (c.utf8Size + ·)

/-- The byte offset of the first occurrence of a text. -/
def findText (sought : List Char) : List Char → Option Nat
  | [] => if sought.isPrefixOf [] then some 0 else none
  | c :: cs =>
    if sought.isPrefixOf (c :: cs) then some 0 else (findText sought cs).map (c.utf8Size + ·)

/-! ## Cursors -/

/-- The loops over selector text: the members of a list, the compounds of a member, the parts of a
compound, and the units of spacing. A negation goes back to the first of them for its own list. -/
inductive Loop where
  | members
  | compounds
  | parts
  | spacing
  | negation
  deriving DecidableEq

/-- One turn of a loop: where the cursor was when it began, and where it was when the next one
began. For a negation, these are the place of its colon and the one where its list begins. -/
structure Turn where
  loop : Loop
  start : Nat
  stop : Nat

/-- A byte offset into a text. All places where the cursor has been are kept, the last one first,
and so are all turns of loops. -/
structure Cursor where
  position : Nat := 0
  places : List Nat := [0]
  turns : List Turn := []

namespace Cursor

/-- The cursor further on by a number of bytes. -/
def move (c : Cursor) (bytes : Nat) : Cursor :=
  { c with position := c.position + bytes, places := (c.position + bytes) :: c.places }

/-- The cursor at the end of a turn that began at `start`. -/
def turn (c : Cursor) (loop : Loop) (start : Nat) : Cursor :=
  { c with turns := ⟨loop, start, c.position⟩ :: c.turns }

end Cursor

/-! ## Readings with a cursor -/

/-- Why a reading with a cursor stops before its end. -/
inductive Halt where
  /-- The text is refused. -/
  | refused (e : ParseError Nat)
  /-- There is no part of the text between the two offsets. -/
  | misplaced (start stop : Nat)
  deriving DecidableEq

/-- A reading with a cursor in a text. It has no outcome at all if it is broken off. -/
abbrev Scan (α : Type) : Type := ReaderT (List Char) (ExceptT Halt (StateT Cursor Option)) α

namespace Scan

/-- The byte offset of the cursor. -/
def position : Scan Nat := return (← get).position

/-- Moves the cursor on by a number of bytes. -/
def move (bytes : Nat) : Scan Unit := modify (·.move bytes)

/-- Ends a turn that began at `start`. -/
def turn (loop : Loop) (start : Nat) : Scan Unit := modify (·.turn loop start)

/-- Refuses the text at the cursor. -/
def refuse {α : Type} (fault : Fault) : Scan α := do
  throw (.refused (.malformed (← position) fault))

/-- Refuses the escape sequence at the cursor. -/
def refuseEscape {α : Type} : Scan α := do
  throw (.refused (.escape (← position)))

/-- Breaks the reading off. -/
def breakOff {α : Type} : Scan α := fun _ _ => none

/-- The part of the text between two byte offsets. -/
def slice (start stop : Nat) : Scan (List Char) := do
  match slice? (← read) start stop with
  | some part => return part
  | none => throw (.misplaced start stop)

/-- The text from the cursor on. -/
def rest : Scan (List Char) := do
  slice (← position) (byteLength (← read))

/-- Whether the cursor is at the end of the text. -/
def isAtEnd : Scan Bool := return byteLength (← read) ≤ (← position)

/-- The character at the cursor. -/
def peek : Scan (Option Char) := return (← rest).head?

/-- The character that stands `n` characters behind the one at the cursor. -/
def peekAt (n : Nat) : Scan (Option Char) := return (← rest)[n]?

/-- Moves over the character at the cursor. -/
def advance : Scan Unit := do
  match ← peek with
  | some c => move c.utf8Size
  | none => return

/-- Moves over the character at the cursor, if it is the one that is expected. -/
def eat (expected : Char) : Scan Bool := do
  if (← peek) = some expected then
    move expected.utf8Size
    return true
  else return false

/-- Moves over the longest run of characters with the property. -/
def takeWhile (p : Char → Bool) : Scan (List Char) := do
  let start ← position
  let bytes := (findChar (fun c => !p c) (← rest)).getD (byteLength (← read) - start)
  move bytes
  slice start (← position)

/-! ## Spacing -/

/-- The length in bytes of the comment in front of a text: two characters, what stands before the
first `*/` behind them, and two characters more, or all of the text. -/
def commentBytes? : List Char → Option Nat
  | '/' :: '*' :: body =>
    match findText ['*', '/'] body with
    | some bytes => some (2 + bytes + 2)
    | none => some (byteLength ('/' :: '*' :: body))
  | _ => none

/-- The length in bytes of the white-space character or the comment in front of a text. -/
def blankBytes? : List Char → Option Nat
  | [] => none
  | c :: cs => if Text.isBlank c then some c.utf8Size else commentBytes? (c :: cs)

theorem pos_of_blankBytes? {cs : List Char} {bytes : Nat} (h : blankBytes? cs = some bytes) :
    0 < bytes ∧ cs ≠ [] := by
  unfold blankBytes? at h
  split at h
  · contradiction
  · refine ⟨?_, List.cons_ne_nil _ _⟩
    split at h
    · exact Option.some.inj h ▸ Char.utf8Size_pos _
    · unfold commentBytes? at h
      split at h
      · split at h
        · exact Option.some.inj h ▸ Nat.succ_pos _
        · exact Option.some.inj h ▸ byteLength_pos (List.cons_ne_nil _ _)
      · contradiction

/-- The turns over spacing from a cursor on, one white-space character or comment in each, as long
as there is one behind the cursor. -/
def blankTurnsFrom (text : List Char) (c : Cursor) : Option (Except Halt Unit × Cursor) :=
  match _hrest : slice? text c.position (byteLength text) with
  | none => some (.error (.misplaced c.position (byteLength text)), c)
  | some rest =>
    match _hbytes : blankBytes? rest with
    | none => some (.ok (), c)
    | some bytes => blankTurnsFrom text ((c.move bytes).turn .spacing c.position)
termination_by byteLength text - c.position
decreasing_by
  have hpos := pos_of_blankBytes? _hbytes
  have hless := lt_of_slice? _hrest hpos.2
  show byteLength text - (c.position + bytes) < byteLength text - c.position
  omega

/-- Moves over spacing. -/
def blankTurns : Scan Unit := blankTurnsFrom

/-- Moves over spacing, and tells whether there was any. -/
def skipBlank : Scan Bool := do
  let start ← position
  blankTurns
  return start < (← position)

end Scan

end DocQuery
