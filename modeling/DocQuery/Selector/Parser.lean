import DocQuery.Selector.Draft

/-!
# Reading a selector

- `Draft.run`: steps until the selector is finished or the text is refused.
- `Draft.run_of_error`, `Draft.run_of_finished`, `Draft.run_of_reading`: what a run does is what
  its first step does, and then the rest of the run.
- `parseChars`: a selector from characters; the place of an error is the text that is left there.
- `byteLength`, `offsetOf`: places as byte offsets.
- `Selector.parse`: a selector from text, or an error with its byte offset.
-/

namespace DocQuery

namespace Draft

/-- Reads until the selector is finished or the text is refused. -/
def run (draft : Draft) (cs : List Char) : Except Stop Selector :=
  match _h : draft.step cs with
  | .error e => .error e
  | .ok (.finished s) => .ok s
  | .ok (.reading next rest) => run next rest
termination_by cs.length
decreasing_by exact (advances_step _h).shorter

/-! ## One step of a run -/

theorem run_of_error {draft : Draft} {cs : List Char} {e : Stop} (h : draft.step cs = .error e) :
    draft.run cs = .error e := by
  rw [run]
  split <;> simp_all

theorem run_of_finished {draft : Draft} {cs : List Char} {s : Selector}
    (h : draft.step cs = .ok (.finished s)) : draft.run cs = .ok s := by
  rw [run]
  split <;> simp_all

theorem run_of_reading {draft next : Draft} {cs rest : List Char}
    (h : draft.step cs = .ok (.reading next rest)) : draft.run cs = next.run rest := by
  rw [run]
  split <;> simp_all

end Draft

/-! ## Whole texts -/

/-- A selector from characters. -/
def parseChars (cs : List Char) : Except Stop Selector := do
  let (parts, rest) ← openCompound (skipBlank cs)
  Draft.run { parts } rest

/-- The length of a text in bytes of UTF-8. -/
def byteLength : List Char → Nat
  | [] => 0
  | c :: rest => c.utf8Size + byteLength rest

/-- The byte offset in the text at which the rest starts. -/
def offsetOf (cs rest : List Char) : Nat := byteLength cs - byteLength rest

/-- A selector from text. An error tells the byte offset of its place. Empty text, and a text of
spacing alone, is the universal selector. -/
def Selector.parse (text : String) : Except (ParseError Nat) Selector :=
  (parseChars text.toList).mapError (·.map (offsetOf text.toList))

end DocQuery
