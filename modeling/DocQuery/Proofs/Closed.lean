import DocQuery.Proofs.Errors.Truth
import DocQuery.Proofs.Grammar.Completeness
import DocQuery.Proofs.Grammar.Exchange

/-!
# Closed texts

Whether a text is a selector does not say whether it may go on: a comment may be open at its end,
or the last compound may be empty, and then what comes next belongs to it. A closing parenthesis
tells. Where no negation is open, it is refused as text behind the selector, and there is no other
place where a reader fails in this way. So the texts that are refused for an added parenthesis, and
nothing else, are the groups of the grammar that stand in front of any rest.

- `Selector.IsClosed`: an added closing parenthesis is the only fault of the text.
- `StopsInside`: readings that never complain about text behind the selector.
- `Draft.step_trailing`: the one step that does.
- `Selector.isClosed_iff_stands`: the closed texts, by the grammar.
-/

namespace DocQuery

open Grammar

/-- With a closing parenthesis added, the text is refused for this parenthesis, as text behind the
selector. -/
def Selector.IsClosed (text : String) : Prop :=
  parse (text ++ ")") = .error (.malformed text.utf8ByteSize (.trailing ')'))

instance (text : String) : Decidable (Selector.IsClosed text) :=
  decidable_of_iff (Selector.parse (text ++ ")") = _) Iff.rfl

/-! ## Readings inside the selector -/

/-- Whatever stops the reading, it is not text behind the selector. -/
def StopsInside {α : Type} (read : Except Stop α) : Prop :=
  ∀ place c, read ≠ .error (.malformed place (.trailing c))

namespace StopsInside

variable {α β : Type} {read : Except Stop α}

theorem map (h : StopsInside read) (f : α → β) : StopsInside (read.map f) :=
  fun place c hmap => h place c (eq_error_of_map_eq_error hmap)

theorem bind (h : StopsInside read) {f : α → Except Stop β} (hf : ∀ a, StopsInside (f a)) :
    StopsInside (read >>= f) := by
  intro place c hbind
  rcases error_or_exists_of_bind_eq_error hbind with hr | ⟨a, -, ha⟩
  · exact h place c hr
  · exact hf a place c ha

theorem readName (cs : List Char) : StopsInside (readName cs) := by
  intro place c h
  rcases readName_error h with ⟨_, _, -, -, he⟩ | ⟨-, he⟩
  · cases he
  · cases he

theorem readPlainIdentifier (cs : List Char) : StopsInside (readPlainIdentifier cs) := by
  intro place c h
  unfold DocQuery.readPlainIdentifier at h
  split at h
  · cases h
  · split at h
    · exact StopsInside.readName _ place c h
    · cases h

theorem readIdentifier (cs : List Char) : StopsInside (readIdentifier cs) := by
  unfold DocQuery.readIdentifier
  split
  · exact (readPlainIdentifier _).map _
  · exact readPlainIdentifier cs

theorem readQuoted (mark : Char) (cs : List Char) : StopsInside (readQuoted mark cs) := by
  intro place c h
  unfold DocQuery.readQuoted at h
  split at h
  · cases h
  · split at h
    · cases h
    · split at h
      · cases h
      · cases h

theorem readValue (cs : List Char) : StopsInside (readValue cs) := by
  unfold DocQuery.readValue
  split
  · exact fun _ _ => nofun
  · exact readQuoted _ _
  · exact readQuoted _ _
  · exact readIdentifier cs

theorem readOperator (cs : List Char) : StopsInside (readOperator cs) := by
  intro place c h
  unfold DocQuery.readOperator at h
  split at h
  all_goals cases h

theorem closeBracket (cs : List Char) : StopsInside (closeBracket cs) := by
  intro place c h
  unfold DocQuery.closeBracket at h
  split at h
  all_goals cases h

theorem readTestOf (name : String) (cs : List Char) : StopsInside (readTestOf name cs) := by
  unfold DocQuery.readTestOf
  split
  · exact fun _ _ => nofun
  · exact fun _ _ => nofun
  · refine (readOperator cs).bind fun _ => (readValue _).bind fun _ => ?_
    exact (closeBracket _).bind fun _ _ _ => nofun

theorem readTest (cs : List Char) : StopsInside (readTest cs) :=
  (readIdentifier _).bind fun _ => readTestOf _ _

theorem openCompound (cs : List Char) : StopsInside (openCompound cs) := by
  unfold DocQuery.openCompound
  split
  · exact fun _ _ => nofun
  · exact fun _ _ => nofun
  · split
    · exact fun _ _ => nofun
    · exact (readIdentifier _).map _

theorem nextCompound (draft : Draft) (cs : List Char) : StopsInside (draft.nextCompound cs) :=
  (openCompound cs).map _

theorem openNegation (draft : Draft) (cs : List Char) : StopsInside (draft.openNegation cs) := by
  unfold Draft.openNegation
  split
  · exact nextCompound _ _
  · exact fun _ _ => nofun

theorem pseudoClass (draft : Draft) (cs : List Char) : StopsInside (draft.pseudoClass cs) := by
  refine (readIdentifier cs).bind fun _ => ?_
  dsimp only
  split
  · exact openNegation draft _
  · split
    · exact fun _ _ => nofun
    · exact fun _ _ => nofun

end StopsInside

/-! ## The end of the selector -/

/-- What is refused as text behind the selector is a closing parenthesis behind a compound, where
no negation is open. -/
theorem Draft.endCompound_trailing {draft : Draft} {cs place : List Char} {c : Char}
    (h : draft.endCompound cs = .error (.malformed place (.trailing c))) :
    draft.negations = [] ∧ skipBlank cs = place ∧ ∃ rest, place = ')' :: rest := by
  unfold endCompound at h
  split at h
  · unfold endText at h
    split at h
    · cases h
    · cases h
  · exact absurd h (StopsInside.nextCompound _ _ place c)
  · rename_i rest heq
    unfold closeNegation at h
    split at h
    · rename_i hnone
      cases h
      exact ⟨hnone, heq, rest, rfl⟩
    · cases h
  · split at h
    · exact absurd h (StopsInside.nextCompound _ _ place c)
    · split at h
      · exact absurd h (StopsInside.nextCompound _ _ place c)
      · cases h

theorem Draft.step_trailing {draft : Draft} {cs place : List Char} {c : Char}
    (h : draft.step cs = .error (.malformed place (.trailing c))) :
    draft.negations = [] ∧ ¬ StartsQualifier cs ∧ skipBlank cs = place ∧
      ∃ rest, place = ')' :: rest := by
  unfold step at h
  split at h
  · exact absurd h ((StopsInside.readName _).map _ place c)
  · exact absurd h ((StopsInside.readIdentifier _).map _ place c)
  · exact absurd h ((StopsInside.readTest _).map _ place c)
  · exact absurd h (StopsInside.pseudoClass _ _ place c)
  · rename_i hid hclass htest hpseudo
    obtain ⟨hnone, hplace⟩ := endCompound_trailing h
    exact ⟨hnone, not_startsQualifier_of_ne hid hclass htest hpseudo, hplace⟩

namespace Grammar

/-- The step that meets text behind the selector turns the invariant into a derivation of what
stands before that text. -/
theorem Reaches.derives_of_trailing {text cs place : List Char} {draft : Draft} {c : Char}
    (hd : Reaches text draft cs)
    (h : draft.step cs = .error (.malformed place (.trailing c))) :
    ∃ s, Derives .group text s place ∧ place ≠ [] := by
  obtain ⟨hnone, hcs, hplace, rest, rfl⟩ := Draft.step_trailing h
  obtain ⟨group, right, hn, hp, hparts⟩ := hd
  rw [hnone] at hn
  obtain rfl : text = group := hn
  have hb : Blank cs (')' :: rest) := hplace ▸ blank_skipBlank cs
  exact ⟨_, hp.derives_close (hparts.derives hcs) hb, List.cons_ne_nil _ _⟩

theorem Reaches.derives_of_run_trailing {text cs place : List Char} {draft : Draft} {c : Char}
    (hd : Reaches text draft cs) (h : draft.run cs = .error (.malformed place (.trailing c))) :
    ∃ s, Derives .group text s place ∧ place ≠ [] := by
  fun_induction Draft.run draft cs with
  | case1 draft cs e hstep =>
    obtain rfl := Except.error.inj h
    exact hd.derives_of_trailing hstep
  | case2 draft cs s hstep => contradiction
  | case3 draft cs next rest hstep ih => exact ih (hd.step hstep) h

theorem derives_of_parseChars_trailing {text place : List Char} {c : Char}
    (h : parseChars text = .error (.malformed place (.trailing c))) :
    ∃ s, Derives .group text s place ∧ place ≠ [] := by
  rcases error_or_exists_of_bind_eq_error h with ho | ⟨⟨parts, rest⟩, ho, h⟩
  · exact absurd ho (StopsInside.openCompound _ place c)
  · exact (Reaches.openCompound ho).derives_of_run_trailing h

/-- A group in front of a closing parenthesis is read up to the parenthesis, which is refused. -/
theorem Derives.parseChars_eq_trailing {text rest : List Char} {s : Selector}
    (h : Derives .group text s (')' :: rest)) :
    parseChars text = .error (.malformed (')' :: rest) (.trailing ')')) := by
  obtain ⟨pending, parts, -, hrun⟩ := h.isRead (.inr (.inr ⟨rest, rfl⟩)) []
  show startRun {} (skipBlank text) = _
  rw [hrun, run_paren_nil]

end Grammar

/-- **The closed texts are the groups of the grammar that stand in front of any rest.** -/
theorem Selector.isClosed_iff_stands (text : String) :
    IsClosed text ↔ ∃ s, Stands .group text.toList s := by
  constructor
  · intro h
    obtain ⟨stop, hstop, hplace, hmap⟩ := exists_of_parse_append_eq_error h rfl
    cases stop with
    | malformed place fault =>
      obtain ⟨-, rfl⟩ := ParseError.malformed.inj hmap
      obtain rfl := Option.some.inj hplace
      obtain ⟨s, hs, hne⟩ := derives_of_parseChars_trailing hstop
      obtain ⟨front, heq, hfront⟩ := hs.stands hne
      exact ⟨s, List.append_cancel_right heq ▸ hfront⟩
    | escape place => cases hmap
    | unsupported name => cases hmap
  · rintro ⟨s, hs⟩
    have hread := (hs [')']).parseChars_eq_trailing
    have htext : (text ++ ")").toList = text.toList ++ [')'] := String.toList_append
    show parse (text ++ ")") = _
    rw [parse, htext, hread]
    show Except.error (ParseError.malformed (offsetOf (text.toList ++ [')']) [')']) _) = _
    rw [offsetOf_append, byteLength_toList]

end DocQuery
