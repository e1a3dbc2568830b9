import DocQuery.Proofs.Errors.Truth

/-!
# Messages stay on their line

The message of an error repeats parts of the text that was read: single characters and operators
between quotation marks, and names of pseudo-classes as they are. Between quotation marks whatever
would change the layout is shown by its code point. A name that is shown as it is has come from an
identifier by lower-casing, and neither identifiers nor lower-casing bring such characters in.

- `Text.BreaksLine`, `Text.KeepsLine`: control characters and the line and paragraph separators,
  and text that holds none of them.
- `Text.not_breaksLine_of_mem_encode`: between quotation marks there are none of them.
- `Text.not_breaksLine_of_mem_lowerAfter`: lower-casing makes none of them.
- `ParseError.keepsLine_of_tellsAt`: the message of an error that tells the truth has none of them.
- `Selector.parse_message_keepsLine`: the messages of whole texts.
-/

namespace DocQuery

open Grammar

namespace Text

/-! ## Characters that change the layout -/

/-- A control character of either block, or the line or the paragraph separator. -/
def BreaksLine (c : Char) : Prop :=
  c.toNat ≤ 0x1F ∨ 0x7F ≤ c.toNat ∧ c.toNat ≤ 0x9F ∨ 0x2028 ≤ c.toNat ∧ c.toNat ≤ 0x2029

instance (c : Char) : Decidable (BreaksLine c) := inferInstanceAs (Decidable (_ ∨ _))

/-- Text that holds no such character. -/
def KeepsLine (s : String) : Prop := ∀ c ∈ s.toList, ¬ BreaksLine c

/-- Characters that are at hand are looked through one after the other. -/
theorem not_breaksLine_of_all {cs : List Char} (h : cs.all fun c => !decide (BreaksLine c)) :
    ∀ c ∈ cs, ¬ BreaksLine c := by
  simpa using h

instance (s : String) : Decidable (KeepsLine s) :=
  decidable_of_iff (s.toList.all fun c => !decide (BreaksLine c)) (by simp [KeepsLine])

theorem keepsLine_ofList {cs : List Char} (h : ∀ c ∈ cs, ¬ BreaksLine c) :
    KeepsLine (String.ofList cs) := by
  rw [KeepsLine, String.toList_ofList]
  exact h

theorem KeepsLine.append {s t : String} (hs : KeepsLine s) (ht : KeepsLine t) :
    KeepsLine (s ++ t) := by
  rw [KeepsLine, String.toList_append]
  exact List.forall_mem_append.2 ⟨hs, ht⟩

/-- A class of characters that is apart from all of them holds none of them. -/
theorem not_breaksLine_of_covers {t : CodeTable} {c : Char}
    (ht : t.Apart 0 0x1F ∧ t.Apart 0x7F 0x9F ∧ t.Apart 0x2028 0x2029)
    (hc : t.covers c.toNat = true) : ¬ BreaksLine c := by
  obtain ⟨hlow, hhigh, hseparator⟩ := ht
  rintro (h | h | h)
  · simp [CodeTable.not_covers_of_apart hlow (Nat.zero_le _) h] at hc
  · simp [CodeTable.not_covers_of_apart hhigh h.1 h.2] at hc
  · simp [CodeTable.not_covers_of_apart hseparator h.1 h.2] at hc

theorem not_breaksLine_of_isPrintable {c : Char} (h : isPrintable c = true) : ¬ BreaksLine c := by
  intro hc
  rw [isPrintable_eq_false hc] at h
  contradiction

/-! ## Numbers -/

theorem not_breaksLine_digitChar (n : Nat) : ¬ BreaksLine n.digitChar := by
  have hdigit : ∀ m < 16, ¬ BreaksLine m.digitChar := by decide
  by_cases hn : n < 16
  · exact hdigit n hn
  · rw [Nat.digitChar_eq_star.2 (by omega)]
    decide

theorem not_breaksLine_of_mem_toDigits {base n : Nat} (hb : 1 < base) {c : Char}
    (h : c ∈ base.toDigits n) : ¬ BreaksLine c := by
  induction n using Nat.strongRecOn with
  | ind n ih =>
    rw [Nat.toDigits_eq_if hb] at h
    split at h
    · obtain rfl := List.mem_singleton.1 h
      exact not_breaksLine_digitChar n
    · rename_i hn
      have hpos : 0 < n := by omega
      rcases List.mem_append.1 h with h | h
      · exact ih (n / base) (Nat.div_lt_self hpos hb) h
      · obtain rfl := List.mem_singleton.1 h
        exact not_breaksLine_digitChar (n % base)

theorem keepsLine_toString (n : Nat) : KeepsLine (toString n) := by
  rw [Nat.toString_eq_ofList_toDigits]
  exact keepsLine_ofList fun _ hd => not_breaksLine_of_mem_toDigits (by decide) hd

/-! ## Quoted text -/

theorem not_breaksLine_of_mem_escapeCode (c : Char) :
    ∀ d ∈ Quoted.escapeCode c, ¬ BreaksLine d := by
  have hopen : ∀ d ∈ ['\\', 'u', '\x7b'], ¬ BreaksLine d := not_breaksLine_of_all (by decide)
  have hclose : ∀ d ∈ ['\x7d'], ¬ BreaksLine d := not_breaksLine_of_all (by decide)
  have hdigits : ∀ d ∈ Nat.toDigits 16 c.toNat, ¬ BreaksLine d := fun _ hd =>
    not_breaksLine_of_mem_toDigits (by decide) hd
  rw [Quoted.escapeCode]
  exact List.forall_mem_append.2 ⟨List.forall_mem_append.2 ⟨hopen, hdigits⟩, hclose⟩

/-- Whatever the character is, what stands for it between the marks keeps the layout. -/
theorem not_breaksLine_of_mem_encodeChar {mark : Char} (hm : ¬ BreaksLine mark) (c : Char) :
    ∀ d ∈ Quoted.encodeChar mark c, ¬ BreaksLine d := by
  fun_cases Quoted.encodeChar mark c with
  | case1 => exact not_breaksLine_of_all (by decide)
  | case2 => exact not_breaksLine_of_all (by decide)
  | case3 => exact not_breaksLine_of_all (by decide)
  | case4 => exact not_breaksLine_of_all (by decide)
  | case5 _ _ _ _ hc =>
    have hescaped : ¬ BreaksLine c := by
      rcases hc with rfl | rfl
      · exact hm
      · decide
    exact List.forall_mem_cons.2 ⟨by decide, List.forall_mem_singleton.2 hescaped⟩
  | case6 => exact not_breaksLine_of_mem_escapeCode c
  | case7 _ _ _ _ _ hc =>
    have hshown : isCombining c = false ∧ isPrintable c = true := by simpa using hc
    exact List.forall_mem_singleton.2 (not_breaksLine_of_isPrintable hshown.2)

theorem not_breaksLine_of_mem_encode {mark : Char} (hm : ¬ BreaksLine mark) (cs : List Char) :
    ∀ d ∈ Quoted.encode mark cs, ¬ BreaksLine d := by
  have hcs : ∀ d ∈ cs.flatMap (Quoted.encodeChar mark), ¬ BreaksLine d := by
    intro d hd
    obtain ⟨c, -, hd⟩ := List.mem_flatMap.1 hd
    exact not_breaksLine_of_mem_encodeChar hm c d hd
  have hmark : ∀ d ∈ [mark], ¬ BreaksLine d := List.forall_mem_singleton.2 hm
  exact List.forall_mem_append.2 ⟨List.forall_mem_cons.2 ⟨hm, hcs⟩, hmark⟩

theorem keepsLine_quotedChar (c : Char) : KeepsLine (Quoted.quotedChar c) :=
  keepsLine_ofList (not_breaksLine_of_mem_encode (by decide) [c])

theorem keepsLine_quotedText (s : String) : KeepsLine (Quoted.quotedText s) :=
  keepsLine_ofList (not_breaksLine_of_mem_encode (by decide) s.toList)

/-! ## Lower case -/

/-- The lower-case form of a character is the character itself, or it comes from a run, and the
forms of the runs are apart from the characters that change the layout. -/
theorem not_breaksLine_of_mem_lowerChar {c : Char} (hc : ¬ BreaksLine c) :
    ∀ d ∈ lowerChar c, ¬ BreaksLine d := by
  unfold lowerChar
  split
  · exact not_breaksLine_of_all (by decide)
  split
  · rename_i r hr
    obtain ⟨-, hletter, hspan⟩ := caseRuns_apart r (List.mem_of_find?_eq_some hr)
    have hin := List.find?_some hr
    simp only [CaseRun.contains, Bool.and_eq_true, decide_eq_true_eq] at hin
    generalize hform : r.target + (c.toNat - r.first) = form
    have hvalid : form.isValidChar := by
      rw [Nat.isValidChar]
      omega
    have hcode : (Char.ofNat form).toNat = form := by
      rw [Char.ofNat, dif_pos hvalid]
      rfl
    refine List.forall_mem_singleton.2 ?_
    rw [BreaksLine, hcode]
    omega
  · exact List.forall_mem_singleton.2 hc

theorem not_breaksLine_of_mem_lowerAfter {cs : List Char} (hcs : ∀ c ∈ cs, ¬ BreaksLine c)
    (before : List Char) : ∀ d ∈ lowerAfter before cs, ¬ BreaksLine d := by
  induction cs generalizing before with
  | nil => simp [lowerAfter]
  | cons c cs ih =>
    obtain ⟨hc, hcs⟩ := List.forall_mem_cons.1 hcs
    rw [lowerAfter]
    refine List.forall_mem_append.2 ⟨?_, ih hcs (c :: before)⟩
    split
    · refine List.forall_mem_singleton.2 ?_
      split <;> decide
    · exact not_breaksLine_of_mem_lowerChar hc

end Text

open Text

/-! ## Names -/

theorem not_breaksLine_of_isNameChar {c : Char} (h : isNameChar c = true) : ¬ BreaksLine c := by
  simp only [isNameChar, isNameStart, Bool.or_eq_true, beq_iff_eq] at h
  rcases h with ((h | rfl) | h) | rfl
  · exact not_breaksLine_of_covers alphabeticCodes_apart h
  · decide
  · exact not_breaksLine_of_covers numericCodes_apart h
  · decide

/-- A pseudo-class is told by the lower-case form of an identifier. -/
theorem keepsLine_of_namesPseudoClass {name : String} {before rest : List Char}
    (h : NamesPseudoClass name before rest) : KeepsLine name := by
  obtain ⟨-, identifier, after, -, hid, -, rfl⟩ := h
  refine keepsLine_ofList (not_breaksLine_of_mem_lowerAfter (fun c hc => ?_) [])
  exact not_breaksLine_of_isNameChar ((isName_of_isIdentifier hid).2 c hc)

/-! ## Messages -/

/-- What a message says by itself keeps the layout, and so does what it repeats. -/
theorem Fault.keepsLine_of_tells {before rest : List Char} {fault : Fault}
    (h : fault.Tells before rest) : KeepsLine fault.message := by
  cases fault with
  | unexpectedCharacter c => exact .append (by decide) (keepsLine_quotedChar c)
  | unknownOperator operator => exact .append (by decide) (keepsLine_quotedText operator)
  | unknownPseudoClass name =>
    have hname := keepsLine_of_namesPseudoClass h.1
    exact .append (.append (by decide) hname) (by decide)
  | trailing c => exact .append (.append (by decide) (keepsLine_quotedChar c)) (by decide)
  | _ => decide

theorem ParseError.keepsLine_of_tellsAt {place : Nat} {before rest : List Char}
    {e : ParseError Nat} (h : e.TellsAt place before rest) : KeepsLine e.message := by
  cases e with
  | malformed offset fault =>
    have hfault := Fault.keepsLine_of_tells h.2
    exact .append (.append (.append (by decide) (keepsLine_toString offset)) (by decide)) hfault
  | escape offset => exact .append (.append (by decide) (keepsLine_toString offset)) (by decide)
  | unsupported name =>
    have hname := keepsLine_of_namesPseudoClass h.1
    exact .append (.append (by decide) hname) (by decide)

namespace Selector

/-- **Messages of errors hold no control characters and no line breaks**, whatever the text is. -/
theorem parse_message_keepsLine (text : String) (e : ParseError Nat) (h : parse text = .error e) :
    KeepsLine e.message := by
  obtain ⟨stop, hstop, rfl⟩ := exists_of_parse_eq_error h
  obtain ⟨before, rest, heq, htells⟩ := tells_of_parseChars hstop
  rw [heq]
  exact ParseError.keepsLine_of_tellsAt htells.map_offsetOf

/-- Two characters that are no operator, a control character and a line separator. -/
theorem parse_message_keepsLine_bell :
    let e : ParseError Nat := .malformed 2 (.unknownOperator "\x07\u2028")
    parse "[a\x07\u2028b]" = .error e ∧ KeepsLine e.message := by
  intro e
  have h : parse "[a\x07\u2028b]" = .error e := by decide +kernel
  exact ⟨h, parse_message_keepsLine _ e h⟩

end Selector

end DocQuery
