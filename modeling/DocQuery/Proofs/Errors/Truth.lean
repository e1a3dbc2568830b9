import DocQuery.Proofs.Errors.Stops
import DocQuery.Selector.Parser

/-!
# Errors tell the truth about the text

An error of a reader tells what is so at its place. A run of readers adds nothing to that: where a
later one fails, what it is given is what the earlier ones have left of the text, and more text in
front of it makes no difference to the error. Two of the faults speak of the character before their
place, and there it is the step that has read this character.

- `ParseError.Tells`: somewhere in the text, at its own place, the error tells the truth.
- `Draft.tells_of_step`, `Draft.tells_of_run`: the errors of a step and of a run.
- `Selector.parse_error_tells`: the errors of whole texts, with their byte offsets.
-/

namespace DocQuery

open Grammar

/-! ## Errors somewhere in a text -/

/-- What the error tells is so at its place in the text. -/
def ParseError.Tells (text : List Char) (e : Stop) : Prop :=
  ∃ before rest, text = before ++ rest ∧ e.TellsAt rest before rest

theorem ParseError.TellsAt.tells {before rest : List Char} {e : Stop}
    (h : e.TellsAt rest before rest) : e.Tells (before ++ rest) := ⟨before, rest, rfl, h⟩

/-- More text in front changes nothing. -/
theorem ParseError.Tells.of_suffix {cs text : List Char} {e : Stop} (h : e.Tells cs)
    (hs : cs <:+ text) : e.Tells text := by
  obtain ⟨before, rest, rfl, htells⟩ := h
  obtain ⟨front, rfl⟩ := hs
  rw [← List.append_assoc]
  exact (htells.append_left front).tells

/-- The place of an error is what is left of the text. -/
theorem ParseError.Tells.place?_suffix {text place : List Char} {e : Stop} (h : e.Tells text)
    (hp : e.place? = some place) : place <:+ text := by
  obtain ⟨before, rest, rfl, htells⟩ := h
  exact htells.place?_eq hp ▸ List.suffix_append before rest

/-! ## Attribute tests -/

theorem tells_of_readIdentifier {cs : List Char} {e : Stop} (h : readIdentifier cs = .error e) :
    e.Tells cs := by
  obtain ⟨before, rest, rfl, htells, -⟩ := readIdentifier_error h
  exact htells.tells

/-- Each part of a test reads what the parts before it have left. -/
theorem tells_of_readTestOf {name : String} {cs : List Char} {e : Stop}
    (h : readTestOf name cs = .error e) : e.Tells cs := by
  unfold readTestOf at h
  split at h
  · obtain rfl := Except.error.inj h
    exact ⟨[], [], rfl, rfl, Nat.zero_le 1⟩
  · contradiction
  · rcases error_or_exists_of_bind_eq_error h with ho | ⟨⟨comparison, right⟩, ho, h⟩
    · exact (readOperator_error ho).tells
    · have hright := readOperator_suffix ho
      rcases error_or_exists_of_bind_eq_error h with hv | ⟨⟨value, after⟩, hv, h⟩
      · obtain ⟨before, rest, heq, htells, -⟩ := readValue_error hv
        have htext : e.Tells (skipBlank right) := heq ▸ htells.tells
        exact htext.of_suffix ((skipBlank_suffix right).trans hright)
      · have hafter := ((readValue_suffix hv).trans (skipBlank_suffix right)).trans hright
        rcases error_or_exists_of_bind_eq_error h with hc | ⟨close, -, h⟩
        · have htext : e.Tells (skipBlank after) := (closeBracket_error hc).tells
          exact htext.of_suffix ((skipBlank_suffix after).trans hafter)
        · contradiction

theorem tells_of_readTest {cs : List Char} {e : Stop} (h : readTest cs = .error e) :
    e.Tells cs := by
  rcases error_or_exists_of_bind_eq_error h with hn | ⟨⟨name, after⟩, hn, h⟩
  · exact (tells_of_readIdentifier hn).of_suffix (skipBlank_suffix cs)
  · have hafter := (advances_readIdentifier hn).suffix.trans (skipBlank_suffix cs)
    exact (tells_of_readTestOf h).of_suffix ((skipBlank_suffix after).trans hafter)

namespace Draft

/-! ## Steps -/

theorem tells_of_nextCompound {draft : Draft} {cs : List Char} {e : Stop}
    (h : draft.nextCompound cs = .error e) : e.Tells cs := by
  obtain ⟨before, rest, rfl, htells, -⟩ := openCompound_error (eq_error_of_map_eq_error h)
  exact htells.tells

theorem tells_of_openNegation {draft : Draft} {cs : List Char} {e : Stop}
    (h : draft.openNegation cs = .error e) : e.Tells cs := by
  unfold openNegation at h
  split at h
  · exact (tells_of_nextCompound h).of_suffix
      ((skipBlank_suffix _).trans (List.suffix_cons _ _))
  · rename_i hopen
    obtain rfl := Except.error.inj h
    refine ⟨[], cs, rfl, rfl, fun hhead => ?_⟩
    obtain ⟨tail, rfl⟩ := List.head?_eq_some_iff.1 hhead
    exact hopen tail rfl

/-- The errors of a pseudo-class tell of its colon, too. -/
theorem tells_of_pseudoClass {draft : Draft} {cs : List Char} {e : Stop}
    (h : draft.pseudoClass cs = .error e) : e.Tells (':' :: cs) := by
  rcases error_or_exists_of_bind_eq_error h with hn | ⟨⟨name, after⟩, hn, h⟩
  · exact (tells_of_readIdentifier hn).of_suffix (List.suffix_cons ':' cs)
  · obtain ⟨hid, hcs⟩ := isIdentifier_of_readIdentifier hn
    have hnames : NamesPseudoClass (String.ofList (Text.lowerCase name)) [':'] cs :=
      ⟨rfl, name, after, hcs, hid, boundary_of_readIdentifier hn, rfl⟩
    dsimp only at h
    split at h
    · have hafter := (advances_readIdentifier hn).suffix.trans (List.suffix_cons ':' cs)
      exact (tells_of_openNegation h).of_suffix hafter
    · rename_i hnot
      split at h
      · rename_i hknown
        obtain rfl := Except.error.inj h
        exact ⟨[':'], cs, rfl, hnames, hknown⟩
      · rename_i hknown
        obtain rfl := Except.error.inj h
        exact ⟨[':'], cs, rfl, rfl, hnames, hnot, hknown⟩

theorem tells_of_endCompound {draft : Draft} {cs : List Char} {e : Stop}
    (h : draft.endCompound cs = .error e) : e.Tells cs := by
  have hs := skipBlank_suffix cs
  unfold endCompound at h
  split at h
  · rename_i heq
    rw [heq] at hs
    unfold endText at h
    split at h
    · contradiction
    · obtain rfl := Except.error.inj h
      have hend : ParseError.Tells [] (.malformed [] .missingClosingParenthesis) :=
        ⟨[], [], rfl, rfl, rfl⟩
      exact hend.of_suffix hs
  · rename_i rest heq
    rw [heq] at hs
    have hrest := (skipBlank_suffix rest).trans (List.suffix_cons ',' rest)
    exact (tells_of_nextCompound h).of_suffix (hrest.trans hs)
  · rename_i rest heq
    rw [heq] at hs
    unfold closeNegation at h
    split at h
    · obtain rfl := Except.error.inj h
      have htrailing : ParseError.Tells (')' :: rest) (.malformed (')' :: rest) (.trailing ')')) :=
        ⟨[], _, rfl, rfl, rfl, rfl⟩
      exact htrailing.of_suffix hs
    · contradiction
  · rename_i c rest _ _ heq
    rw [heq] at hs
    split at h
    · have hrest := (skipBlank_suffix rest).trans (List.suffix_cons c rest)
      exact (tells_of_nextCompound h).of_suffix (hrest.trans hs)
    · split at h
      · exact (tells_of_nextCompound h).of_suffix hs
      · obtain rfl := Except.error.inj h
        have hunexpected :
            ParseError.Tells (c :: rest) (.malformed (c :: rest) (.unexpectedCharacter c)) :=
          ⟨[], _, rfl, rfl, rfl⟩
        exact hunexpected.of_suffix hs

/-- **What a step tells of the text is so.** -/
theorem tells_of_step {draft : Draft} {cs : List Char} {e : Stop}
    (h : draft.step cs = .error e) : e.Tells cs := by
  unfold step at h
  split at h
  -- a name is empty only behind its mark, and the step has read the mark
  · rename_i rest
    rcases readName_error (eq_error_of_map_eq_error h) with
      ⟨name, after, rfl, -, rfl⟩ | ⟨hboundary, rfl⟩
    · exact ⟨'#' :: name, '\\' :: after, rfl, rfl, rfl⟩
    · exact ⟨['#'], rest, rfl, rfl, rfl, hboundary⟩
  · exact (tells_of_readIdentifier (eq_error_of_map_eq_error h)).of_suffix (List.suffix_cons _ _)
  · exact (tells_of_readTest (eq_error_of_map_eq_error h)).of_suffix (List.suffix_cons _ _)
  · exact tells_of_pseudoClass h
  · exact tells_of_endCompound h

/-! ## Runs -/

/-- What a run tells of the text is so: its error is that of its last step, on what is left. -/
theorem tells_of_run {draft : Draft} {cs : List Char} {e : Stop} (h : draft.run cs = .error e) :
    e.Tells cs := by
  fun_induction Draft.run draft cs with
  | case1 draft cs e' hstep =>
    obtain rfl := Except.error.inj h
    exact tells_of_step hstep
  | case2 draft cs s hstep => contradiction
  | case3 draft cs next rest hstep ih => exact (ih h).of_suffix (advances_step hstep).suffix

end Draft

theorem tells_of_parseChars {text : List Char} {e : Stop} (h : parseChars text = .error e) :
    e.Tells text := by
  rcases error_or_exists_of_bind_eq_error h with ho | ⟨⟨parts, rest⟩, ho, h⟩
  · obtain ⟨before, rest, heq, htells, -⟩ := openCompound_error ho
    have hread : e.Tells (skipBlank text) := heq ▸ htells.tells
    exact hread.of_suffix (skipBlank_suffix text)
  · exact (Draft.tells_of_run h).of_suffix
      ((openCompound_suffix ho).trans (skipBlank_suffix text))

/-! ## Byte offsets -/

theorem byteLength_append (front rest : List Char) :
    byteLength (front ++ rest) = byteLength front + byteLength rest := by
  induction front with
  | nil => simp [byteLength]
  | cons c front ih => simp only [List.cons_append, byteLength, ih, Nat.add_assoc]

/-- The bytes of a text are those of its encoding. -/
theorem byteLength_toList (text : String) : byteLength text.toList = text.utf8ByteSize := by
  have hlist : ∀ cs : List Char, byteLength cs = (String.ofList cs).utf8ByteSize := by
    intro cs
    induction cs with
    | nil => rfl
    | cons c cs ih =>
      rw [String.ofList_cons, String.utf8ByteSize_append, String.utf8ByteSize_singleton, ← ih]
      rfl
  rw [hlist, String.ofList_toList]

/-- The offset of the rest is the length of what stands before it. -/
theorem offsetOf_append (before rest : List Char) :
    offsetOf (before ++ rest) rest = byteLength before := by
  rw [offsetOf, byteLength_append, Nat.add_sub_cancel]

/-- Two ways to split a text at one offset are the same: each character has some bytes. -/
theorem append_inj_of_byteLength {before rest before' rest' : List Char}
    (h : before ++ rest = before' ++ rest') (hlen : byteLength before = byteLength before') :
    before = before' ∧ rest = rest' := by
  have hnil : ∀ cs : List Char, byteLength cs = 0 → cs = [] := by
    intro cs hcs
    cases cs with
    | nil => rfl
    | cons c cs =>
      have hpos := c.utf8Size_pos
      rw [byteLength] at hcs
      omega
  rcases List.append_eq_append_iff.1 h with ⟨more, rfl, hrest⟩ | ⟨more, rfl, hrest⟩
  all_goals
    rw [byteLength_append] at hlen
    obtain rfl := hnil more (by omega)
  · exact ⟨(List.append_nil before).symm, hrest⟩
  · exact ⟨List.append_nil before', hrest.symm⟩

/-- Written as an offset, the place of an error is the length of the text before it. -/
theorem ParseError.TellsAt.map_offsetOf {before rest : List Char} {e : Stop}
    (h : e.TellsAt rest before rest) :
    (e.map (offsetOf (before ++ rest))).TellsAt (byteLength before) before rest := by
  cases e with
  | malformed place fault =>
    obtain ⟨rfl, h⟩ := h
    exact ⟨offsetOf_append before place, h⟩
  | escape place =>
    obtain ⟨rfl, h⟩ := h
    exact ⟨offsetOf_append before place, h⟩
  | unsupported name => exact h

namespace Selector

/-- The errors of texts are those of their characters, with places written as offsets. -/
theorem exists_of_parse_eq_error {text : String} {e : ParseError Nat}
    (h : parse text = .error e) :
    ∃ stop : Stop, parseChars text.toList = .error stop ∧
      stop.map (offsetOf text.toList) = e := by
  unfold parse at h
  cases hp : parseChars text.toList with
  | error stop =>
    rw [hp] at h
    exact ⟨stop, rfl, Except.error.inj h⟩
  | ok s =>
    rw [hp] at h
    contradiction

/-- An error whose offset is where the first part of a text ends is at the second part. -/
theorem exists_of_parse_append_eq_error {before rest : String} {e : ParseError Nat}
    (h : parse (before ++ rest) = .error e) (hp : e.place? = some before.utf8ByteSize) :
    ∃ stop : Stop, parseChars (before.toList ++ rest.toList) = .error stop ∧
      stop.place? = some rest.toList ∧
      stop.map (offsetOf (before.toList ++ rest.toList)) = e := by
  obtain ⟨stop, hstop, rfl⟩ := exists_of_parse_eq_error h
  rw [String.toList_append] at hstop hp ⊢
  refine ⟨stop, hstop, ?_, rfl⟩
  rw [ParseError.place?_map] at hp
  obtain ⟨place, hplace, hoffset⟩ := Option.map_eq_some_iff.1 hp
  obtain ⟨front, heq⟩ := (tells_of_parseChars hstop).place?_suffix hplace
  rw [← heq, offsetOf_append, ← byteLength_toList] at hoffset
  rw [hplace, (append_inj_of_byteLength heq hoffset).2]

/-- **Every error tells the truth about its text**: the text splits at the offset of the error, and
what the error tells is so of the two parts. -/
theorem parse_error_tells (text : String) (e : ParseError Nat) (h : parse text = .error e) :
    ∃ before rest : String, text = before ++ rest ∧
      e.TellsAt before.utf8ByteSize before.toList rest.toList := by
  obtain ⟨stop, hstop, rfl⟩ := exists_of_parse_eq_error h
  obtain ⟨before, rest, heq, htells⟩ := tells_of_parseChars hstop
  refine ⟨String.ofList before, String.ofList rest, ?_, ?_⟩
  · rw [← String.ofList_append, ← heq, String.ofList_toList]
  · rw [heq, ← byteLength_toList, String.toList_ofList, String.toList_ofList]
    exact htells.map_offsetOf

/-- A pseudo-class of no known name, in capitals and behind characters of more than one byte. -/
theorem parse_error_tells_capital :
    let e : ParseError Nat := .malformed 11 (.unknownPseudoClass "élan")
    parse "é :not( *:ÉLAN(" = .error e ∧
      ∃ before rest : String, "é :not( *:ÉLAN(" = before ++ rest ∧
        e.TellsAt before.utf8ByteSize before.toList rest.toList := by
  intro e
  have h : parse "é :not( *:ÉLAN(" = .error e := by decide +kernel
  exact ⟨h, parse_error_tells _ e h⟩

end Selector

end DocQuery
