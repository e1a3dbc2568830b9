import DocQuery.Proofs.Grammar.Bracketed

/-!
# Where the readers stop

A reader of selector text that fails has read part of what it was looking for, and the place of
its error is what is left of the text behind that part. Two things are said of every such error:
what it tells of the text is there, and the part before its place is good, in that something else
could have followed.

- `ParseError.place?`: the place of an error, for those that have one.
- `Fault.Tells`, `ParseError.TellsAt`: what an error tells of the text before its place and of the
  text from there on.
- `readName_error`, `readIdentifier_error`, `readQuoted_error`, `readValue_error`,
  `readOperator_error`: the errors of each reader.
-/

namespace DocQuery

open Grammar

/-! ## Places -/

namespace ParseError

/-- The place of the error; a pseudo-class that is not supported is told by its name alone. -/
def place? {Place : Type} : ParseError Place → Option Place
  | malformed place _ => some place
  | escape place => some place
  | unsupported _ => none

@[simp] theorem place?_map {α β : Type} (f : α → β) (e : ParseError α) :
    (e.map f).place? = e.place?.map f := by
  cases e <;> rfl

theorem map_map {α β γ : Type} (f : α → β) (g : β → γ) (e : ParseError α) :
    (e.map f).map g = e.map (g ∘ f) := by
  cases e <;> rfl

/-- Only the place of the error matters for how places are written. -/
theorem map_congr {α β : Type} {f g : α → β} {e : ParseError α}
    (h : ∀ place ∈ e.place?, f place = g place) : e.map f = e.map g := by
  cases e with
  | malformed place fault => exact congrArg (malformed · fault) (h place rfl)
  | escape place => exact congrArg escape (h place rfl)
  | unsupported name => rfl

end ParseError

/-! ## What an error tells -/

/-- The text goes on behind a colon with a whole identifier that is `name` in lower case. -/
def NamesPseudoClass (name : String) (before rest : List Char) : Prop :=
  before.getLast? = some ':' ∧ ∃ identifier after, rest = identifier ++ after ∧
    IsIdentifier identifier ∧ Boundary after ∧ name = String.ofList (Text.lowerCase identifier)

/-- What a fault tells of the text before its place and of the rest from there on. -/
def Fault.Tells (before rest : List Char) : Fault → Prop
  | unexpectedEnd => rest.length ≤ 1
  | unexpectedCharacter c => rest.head? = some c
  | emptyName => before.getLast? = some '#' ∧ Boundary rest
  | unknownOperator operator =>
    ∃ c d after, operator = String.ofList [c, d] ∧ rest = c :: d :: after ∧ c ≠ '=' ∧
      operator ∉ ["~=", "^=", "$=", "*="]
  | unterminatedString => rest = []
  | lineBreakInString => ∃ c ∈ rest.head?, isLineBreak c = true
  | missingClosingBracket => rest.head? ≠ some ']'
  | missingOpeningParenthesis => rest.head? ≠ some '('
  | missingClosingParenthesis => rest = []
  | unknownPseudoClass name =>
    NamesPseudoClass name before rest ∧ name ≠ "not" ∧ name ∉ unsupportedPseudoClasses
  | trailing c => c = ')' ∧ rest.head? = some c

/-- The error is at `place`, which is where `before` ends and `rest` begins, and it tells the truth
about both. -/
def ParseError.TellsAt {Place : Type} (place : Place) (before rest : List Char) :
    ParseError Place → Prop
  | malformed p fault => p = place ∧ fault.Tells before rest
  | escape p => p = place ∧ rest.head? = some '\\'
  | unsupported name => NamesPseudoClass name before rest ∧ name ∈ unsupportedPseudoClasses

theorem getLast?_append_of_eq_some {before : List Char} {c : Char}
    (h : before.getLast? = some c) (front : List Char) :
    (front ++ before).getLast? = some c := by
  rw [List.getLast?_append, h]
  rfl

/-- More text in front changes nothing in what an error tells. -/
theorem Fault.Tells.append_left {before rest : List Char} {fault : Fault}
    (h : fault.Tells before rest) (front : List Char) : fault.Tells (front ++ before) rest := by
  cases fault with
  | emptyName => exact ⟨getLast?_append_of_eq_some h.1 front, h.2⟩
  | unknownPseudoClass name => exact ⟨⟨getLast?_append_of_eq_some h.1.1 front, h.1.2⟩, h.2⟩
  | _ => exact h

theorem ParseError.TellsAt.append_left {Place : Type} {place : Place} {before rest : List Char}
    {e : ParseError Place} (h : e.TellsAt place before rest) (front : List Char) :
    e.TellsAt place (front ++ before) rest := by
  cases e with
  | malformed p fault => exact ⟨h.1, h.2.append_left front⟩
  | escape p => exact h
  | unsupported name => exact ⟨⟨getLast?_append_of_eq_some h.1.1 front, h.1.2⟩, h.2⟩

theorem ParseError.TellsAt.place?_eq {Place : Type} {place p : Place} {before rest : List Char}
    {e : ParseError Place} (h : e.TellsAt place before rest) (hp : e.place? = some p) :
    p = place := by
  cases e with
  | malformed q fault => exact (Option.some.inj hp).symm.trans h.1
  | escape q => exact (Option.some.inj hp).symm.trans h.1
  | unsupported name => contradiction

/-! ## Reading in steps -/

/-- A reading in two steps fails in the first one or in the second one. -/
theorem error_or_exists_of_bind_eq_error {ε α β : Type} {r : Except ε α} {f : α → Except ε β}
    {e : ε} (h : (r >>= f) = .error e) : r = .error e ∨ ∃ a, r = .ok a ∧ f a = .error e := by
  cases r with
  | error e' => exact .inl (congrArg Except.error (Except.error.inj h))
  | ok a => exact .inr ⟨a, rfl, h⟩

theorem eq_error_of_map_eq_error {ε α β : Type} {r : Except ε α} {f : α → β} {e : ε}
    (h : r.map f = .error e) : r = .error e := by
  cases r with
  | error e' => exact congrArg Except.error (Except.error.inj h)
  | ok a => contradiction

/-! ## Names -/

/-- A name that is not read has a backslash behind it, or it is empty. -/
theorem readName_error {cs : List Char} {e : Stop} (h : readName cs = .error e) :
    (∃ name after, cs = name ++ '\\' :: after ∧ (∀ c ∈ name, isNameChar c = true) ∧
        e = .escape ('\\' :: after)) ∨
      Boundary cs ∧ e = .malformed cs .emptyName := by
  have hcs : cs.takeWhile isNameChar ++ cs.dropWhile isNameChar = cs :=
    List.takeWhile_append_dropWhile
  simp only [readName] at h
  split at h
  · rename_i hb
    obtain ⟨after, hrest⟩ := List.head?_eq_some_iff.1 hb
    refine .inl ⟨cs.takeWhile isNameChar, after, ?_, ?_, ?_⟩
    · rw [← hrest, hcs]
    · exact fun c hc => List.all_eq_true.mp List.all_takeWhile c hc
    · rw [← hrest]
      exact (Except.error.inj h).symm
  · rename_i hb
    split at h
    · rename_i hnil
      -- no name has been read, so that what is left is the whole text
      have hrest : cs.dropWhile isNameChar = cs := by rw [hnil] at hcs; exact hcs
      rw [hrest] at h hb
      refine .inr ⟨?_, (Except.error.inj h).symm⟩
      intro c hc
      obtain ⟨tail, rfl⟩ := List.head?_eq_some_iff.1 hc
      refine ⟨?_, ?_⟩
      · cases hname : isNameChar c with
        | false => rfl
        | true => simp [hname] at hnil
      · rintro rfl
        exact hb rfl
    · contradiction

/-- A name is read up to its end. -/
theorem boundary_of_readName {cs name rest : List Char} (h : readName cs = .ok (name, rest)) :
    Boundary rest := by
  intro c hc
  have hrest := (readName_eq_ok h).2.1
  refine ⟨?_, ?_⟩
  · have hhead := List.head?_dropWhile_not isNameChar cs
    rw [← hrest, Option.mem_def.1 hc] at hhead
    simpa using hhead
  · rintro rfl
    have hb : rest.head? = some '\\' := hc
    simp only [readName, ← hrest] at h
    rw [if_pos hb] at h
    contradiction

/-! ## Identifiers -/

/-- An identifier is read up to its end. -/
theorem boundary_of_readIdentifier {cs name rest : List Char}
    (h : readIdentifier cs = .ok (name, rest)) : Boundary rest := by
  unfold readIdentifier at h
  split at h
  · obtain ⟨⟨plain, after⟩, hp, he⟩ := exists_of_map_eq_ok h
    obtain ⟨-, rfl⟩ := Prod.mk.inj he
    exact boundary_of_readName (readName_of_readPlainIdentifier hp)
  · exact boundary_of_readName (readName_of_readPlainIdentifier h)

/-- The errors of identifiers without a hyphen. With one letter more, what has been read before the
place of the error would be one. -/
theorem readPlainIdentifier_error {cs : List Char} {e : Stop}
    (h : readPlainIdentifier cs = .error e) :
    ∃ before rest, cs = before ++ rest ∧ e.TellsAt rest before rest ∧
      ∃ c tail, before ++ ['a'] = c :: tail ∧ isNameStart c = true ∧
        ∀ d ∈ tail, isNameChar d = true := by
  have ha : isNameStart 'a' = true := by decide
  unfold readPlainIdentifier at h
  split at h
  · obtain rfl := Except.error.inj h
    exact ⟨[], [], rfl, ⟨rfl, Nat.zero_le 1⟩, 'a', [], rfl, ha, by simp⟩
  · rename_i c tail
    split at h
    · rename_i hc
      rcases readName_error h with ⟨name, after, hcs, hname, rfl⟩ | ⟨hboundary, -⟩
      · refine ⟨name, '\\' :: after, hcs, ⟨rfl, rfl⟩, ?_⟩
        cases name with
        | nil => exact ⟨'a', [], rfl, ha, by simp⟩
        | cons d name =>
          obtain ⟨rfl, -⟩ := List.cons.inj hcs
          have hslash : c ≠ '\\' := by
            rintro rfl
            exact absurd (hname '\\' List.mem_cons_self) (by decide)
          have hstart : isNameStart c = true := by simpa [hslash] using hc
          refine ⟨c, name ++ ['a'], rfl, hstart, ?_⟩
          simpa [or_imp, forall_and, isNameChar_of_isNameStart ha] using
            fun d hd => hname d (List.mem_cons_of_mem c hd)
      -- the name is not empty, since it starts with a letter, an underscore or a backslash
      · obtain ⟨hname, hslash⟩ := hboundary c rfl
        rcases (Bool.or_eq_true _ _).mp hc with hstart | hb
        · rw [isNameChar_of_isNameStart hstart] at hname
          contradiction
        · exact absurd (by simpa using hb) hslash
    · obtain rfl := Except.error.inj h
      exact ⟨[], c :: tail, rfl, ⟨rfl, rfl⟩, 'a', [], rfl, ha, by simp⟩

/-- The errors of identifiers. With one letter more, what has been read before the place of the
error would be an identifier. -/
theorem readIdentifier_error {cs : List Char} {e : Stop} (h : readIdentifier cs = .error e) :
    ∃ before rest, cs = before ++ rest ∧ e.TellsAt rest before rest ∧
      IsIdentifier (before ++ ['a']) := by
  unfold readIdentifier at h
  split at h
  · obtain ⟨before, rest, rfl, htells, hident⟩ :=
      readPlainIdentifier_error (eq_error_of_map_eq_error h)
    exact ⟨'-' :: before, rest, rfl, htells.append_left ['-'], isIdentifier_hyphen_iff.2 hident⟩
  · obtain ⟨before, rest, rfl, htells, c, tail, heq, hc, htail⟩ := readPlainIdentifier_error h
    refine ⟨before, rest, rfl, htells, ?_⟩
    have hne : c ≠ '-' := by
      rintro rfl
      exact absurd hc (by simp [isNameStart_hyphen])
    rw [heq]
    exact (isIdentifier_cons_iff hne).2 ⟨hc, htail⟩

/-! ## Values and operators -/

/-- The errors of quoted texts. What has been read is a text that may be quoted. -/
theorem readQuoted_error {mark : Char} {cs : List Char} {e : Stop}
    (h : readQuoted mark cs = .error e) :
    ∃ value rest, cs = value ++ rest ∧ e.TellsAt rest value rest ∧ IsQuotable mark value := by
  have hcs : cs.takeWhile (isQuotable mark) ++ cs.dropWhile (isQuotable mark) = cs :=
    List.takeWhile_append_dropWhile
  have hvalue : IsQuotable mark (cs.takeWhile (isQuotable mark)) := fun c hc =>
    isQuotable_eq_true_iff.1 (List.all_eq_true.mp List.all_takeWhile c hc)
  refine ⟨_, _, hcs.symm, ?_, hvalue⟩
  unfold readQuoted at h
  split at h
  · rename_i hdrop
    obtain rfl := Except.error.inj h
    rw [hdrop]
    exact ⟨rfl, rfl⟩
  · rename_i c after hdrop
    rw [hdrop]
    split at h
    · contradiction
    · rename_i hmark
      split at h
      · rename_i hslash
        obtain rfl := Except.error.inj h
        exact ⟨rfl, congrArg some hslash⟩
      · rename_i hslash
        obtain rfl := Except.error.inj h
        -- the text stops at what it may not hold, and that is neither the mark nor a backslash
        have hstop : isQuotable mark c = false := by
          have hhead := List.head?_dropWhile_not (isQuotable mark) cs
          rw [hdrop] at hhead
          simpa using hhead
        refine ⟨rfl, c, rfl, ?_⟩
        simpa [isQuotable, hmark, hslash] using hstop

/-- The errors of values. What has been read before the place of the error goes on to a value in
front of any text. -/
theorem readValue_error {cs : List Char} {e : Stop} (h : readValue cs = .error e) :
    ∃ before rest, cs = before ++ rest ∧ e.TellsAt rest before rest ∧
      ∃ more value, ∀ after, Value (before ++ (more ++ after)) value after := by
  have hquoted : ∀ {mark : Char} {tail : List Char}, mark = '"' ∨ mark = '\'' →
      readQuoted mark tail = .error e →
      ∃ before rest, mark :: tail = before ++ rest ∧ e.TellsAt rest before rest ∧
        ∃ more value, ∀ after, Value (before ++ (more ++ after)) value after := by
    intro mark tail hm hq
    obtain ⟨value, rest, rfl, htells, hvalue⟩ := readQuoted_error hq
    refine ⟨mark :: value, rest, rfl, htells.append_left [mark], [mark], value, ?_⟩
    exact fun after => .quoted hm hvalue
  unfold readValue at h
  split at h
  · obtain rfl := Except.error.inj h
    have hident : IsIdentifier ['a'] := isIdentifier_of_all (by decide) (by decide)
    exact ⟨[], [], rfl, ⟨rfl, Nat.zero_le 1⟩, ['a'], ['a'], fun after => .bare hident⟩
  · exact hquoted (.inl rfl) h
  · exact hquoted (.inr rfl) h
  · obtain ⟨before, rest, rfl, htells, hident⟩ := readIdentifier_error h
    refine ⟨before, rest, rfl, htells, ['a'], before ++ ['a'], fun after => ?_⟩
    rw [← List.append_assoc]
    exact .bare hident

/-- An operator that is not read stops where it begins. -/
theorem readOperator_error {cs : List Char} {e : Stop} (h : readOperator cs = .error e) :
    e.TellsAt cs [] cs := by
  unfold readOperator at h
  split at h
  any_goals contradiction
  · rename_i c d tail hequals hlisted hprefix hsuffix hcontains
    obtain rfl := Except.error.inj h
    refine ⟨rfl, c, d, tail, rfl, rfl, fun hc => hequals hc, ?_⟩
    have hpairs : ["~=", "^=", "$=", "*="] =
        [['~', '='], ['^', '='], ['$', '='], ['*', '=']].map String.ofList := by decide
    rw [hpairs]
    intro hmem
    obtain ⟨pair, hpair, heq⟩ := List.mem_map.1 hmem
    obtain rfl : pair = [c, d] := String.ofList_injective heq
    simp only [List.mem_cons, List.cons.injEq, and_true, List.not_mem_nil, or_false] at hpair
    rcases hpair with ⟨hc, hd⟩ | ⟨hc, hd⟩ | ⟨hc, hd⟩ | ⟨hc, hd⟩
    · exact hlisted hc hd
    · exact hprefix hc hd
    · exact hsuffix hc hd
    · exact hcontains hc hd
  · rename_i hlong
    obtain rfl := Except.error.inj h
    refine ⟨rfl, ?_⟩
    show cs.length ≤ 1
    match cs with
    | [] => exact Nat.zero_le 1
    | [c] => exact Nat.le_refl 1
    | c :: d :: tail => exact (hlong c d tail rfl).elim

/-- A bracket that is not there is missed at the place where it should stand. -/
theorem closeBracket_error {cs : List Char} {e : Stop} (h : closeBracket cs = .error e) :
    e.TellsAt cs [] cs := by
  unfold closeBracket at h
  split at h
  · contradiction
  · rename_i hbracket
    obtain rfl := Except.error.inj h
    refine ⟨rfl, fun hhead => ?_⟩
    obtain ⟨tail, rfl⟩ := List.head?_eq_some_iff.1 hhead
    exact hbracket tail rfl

/-! ## Compounds -/

/-- The errors at the start of a compound are those of its tag name. -/
theorem openCompound_error {cs : List Char} {e : Stop} (h : openCompound cs = .error e) :
    ∃ before rest, cs = before ++ rest ∧ e.TellsAt rest before rest ∧
      IsIdentifier (before ++ ['a']) ∧ cs ≠ [] := by
  unfold openCompound at h
  split at h
  · contradiction
  · contradiction
  · rename_i c tail _
    split at h
    · contradiction
    · obtain ⟨before, rest, hcs, htells, hident⟩ :=
        readIdentifier_error (eq_error_of_map_eq_error h)
      exact ⟨before, rest, hcs, htells, hident, List.cons_ne_nil c tail⟩

end DocQuery
