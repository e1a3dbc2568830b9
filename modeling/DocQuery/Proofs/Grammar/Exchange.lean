import DocQuery.Proofs.Grammar.Soundness

/-!
# Phrases in front of another rest

The grammar asks for no longest reading, so a phrase that stands in front of one rest stands in
front of any other one. Two phrases need the end of the input and are the exceptions: an open
comment and the empty compound. Both leave nothing behind them, and an open comment can be closed.

- `Grammar.Blank.exists_closing`: spacing in front of another rest, with its last comment closed.
- `Grammar.Stands`: a phrase is complete, whatever follows.
- `Grammar.Derives.stands`: in front of something, every phrase is.
- `Grammar.Reaches.exchange`: what has been read leads to the same draft in front of another rest.
-/

namespace DocQuery

namespace Grammar

/-! ## Spacing -/

/-- A comment with something behind it has its end, and one without can be given one. -/
theorem Comment.exists_closing {cs rest : List Char} (h : Comment cs rest) :
    ∃ front close, cs = front ++ rest ∧ (rest ≠ [] → close = []) ∧
      ∀ other, Comment (front ++ (close ++ other)) other := by
  cases h with
  | @closed body rest first =>
    refine ⟨'/' :: '*' :: (body ++ ['*', '/']), [], by simp, fun _ => rfl, fun other => ?_⟩
    have hc : Comment ('/' :: '*' :: (body ++ '*' :: '/' :: other)) other := .closed first
    simpa using hc
  | @unclosed body never =>
    refine ⟨'/' :: '*' :: body, ['*', '/'], by simp, fun h => absurd rfl h, fun other => ?_⟩
    -- the star of the added end opens no earlier end
    have first : ¬ ['*', '/'] <:+: body ++ ['*'] := by
      rw [List.infix_concat_iff]
      rintro (hsuffix | hinfix)
      · obtain ⟨front, hfront⟩ := hsuffix
        have hlast : (front ++ ['*']) ++ ['/'] = body ++ ['*'] := by simpa using hfront
        exact absurd (List.append_inj_right' hlast rfl) (by decide)
      · exact never hinfix
    exact .closed first

/-- Spacing stands in front of any other rest, too, once a comment that is still open has been
closed; none is open in front of something. -/
theorem Blank.exists_closing {cs rest : List Char} (h : Blank cs rest) :
    ∃ front close, cs = front ++ rest ∧ (rest ≠ [] → close = []) ∧
      ∀ other, Blank (front ++ (close ++ other)) other := by
  induction h with
  | nil => exact ⟨[], [], rfl, fun _ => rfl, fun other => .nil⟩
  | @space c cs rest hc _ ih =>
    obtain ⟨front, close, rfl, hclose, hblank⟩ := ih
    exact ⟨c :: front, close, rfl, hclose, fun other => .space hc (hblank other)⟩
  | @comment cs mid rest hc _ ih =>
    obtain ⟨front, close, rfl, hclose, hblank⟩ := ih
    obtain ⟨opening, ending, rfl, hending, hcomment⟩ := hc.exists_closing
    by_cases hmid : front ++ rest = []
    -- an open comment is the last thing in the text
    · obtain ⟨rfl, rfl⟩ := List.append_eq_nil_iff.1 hmid
      refine ⟨opening, ending ++ close, rfl, fun h => absurd rfl h, fun other => ?_⟩
      rw [List.append_assoc]
      exact .comment (hcomment (close ++ other)) (hblank other)
    · obtain rfl := hending hmid
      refine ⟨opening ++ front, close, by simp, hclose, fun other => ?_⟩
      rw [List.append_assoc]
      exact .comment (hcomment (front ++ (close ++ other))) (hblank other)

/-- Spacing in front of something stands in front of anything. -/
theorem Blank.exists_append {cs rest : List Char} (h : Blank cs rest) (hr : rest ≠ []) :
    ∃ front, cs = front ++ rest ∧ ∀ other, Blank (front ++ other) other := by
  obtain ⟨front, close, hcs, hclose, hblank⟩ := h.exists_closing
  obtain rfl := hclose hr
  exact ⟨front, hcs, hblank⟩

/-- Where the text breaks off behind the spacing, a part of what comes next may have been read. -/
theorem Blank.exists_closing_append {cs part rest : List Char} (h : Blank cs (part ++ rest)) :
    ∃ front close, cs = front ++ rest ∧
      ∀ other, Blank (front ++ (close ++ other)) (part ++ other) := by
  obtain ⟨front, close, rfl, hclose, hblank⟩ := h.exists_closing
  by_cases hpart : part = []
  · subst hpart
    exact ⟨front, close, rfl, hblank⟩
  · obtain rfl := hclose (List.append_ne_nil_of_left_ne_nil hpart rest)
    refine ⟨front ++ part, [], by simp, fun other => ?_⟩
    rw [List.append_assoc]
    exact hblank (part ++ other)

/-! ## Combinators -/

/-- A combinator stands between what is before it and any other compound that is not empty. -/
theorem Joint.exists_closing {mid right : List Char} {k : Combinator} (h : Joint mid k right) :
    mid ≠ [] ∧ ∃ front close, mid = front ++ right ∧ (right ≠ [] → close = []) ∧
      ∀ other, other ≠ [] → Joint (front ++ (close ++ other)) k other := by
  cases h with
  | sign hl hs hr =>
    rename_i after c
    obtain ⟨left, rfl, hleft⟩ := hl.exists_append (List.cons_ne_nil c after)
    obtain ⟨front, close, rfl, hclose, hblank⟩ := hr.exists_closing
    refine ⟨by simp, left ++ c :: front, close, by simp, hclose, fun other _ => ?_⟩
    rw [List.append_assoc]
    exact .sign (hleft _) hs (hblank other)
  | blank hb hne hr =>
    obtain ⟨front, rfl, hblank⟩ := hb.exists_append hr
    refine ⟨List.append_ne_nil_of_right_ne_nil front hr, front, [], rfl, fun _ => rfl, ?_⟩
    intro other hother
    refine .blank (hblank other) ?_ hother
    simpa using hne

/-! ## Phrases -/

/-- The characters are a whole phrase for the selector, whatever follows them. -/
def Stands (phrase : Phrase) (front : List Char) (s : Selector) : Prop :=
  ∀ rest, Derives phrase (front ++ rest) s rest

theorem Value.exists_append {cs value rest : List Char} (h : Value cs value rest) :
    ∃ front, cs = front ++ rest ∧ front ≠ [] ∧ ∀ other, Value (front ++ other) value other := by
  cases h with
  | bare hname => exact ⟨value, rfl, (isName_of_isIdentifier hname).1, fun _ => .bare hname⟩
  | @quoted mark _ _ hm hvalue =>
    refine ⟨mark :: (value ++ [mark]), by simp, List.cons_ne_nil _ _, fun other => ?_⟩
    have hv : Value (mark :: (value ++ mark :: other)) value other := .quoted hm hvalue
    simpa using hv

/-- Nothing at all is no whole compound: the empty one needs the end of the input. -/
theorem Stands.ne_nil {front : List Char} {s : Selector} (h : Stands .compound front s) :
    front ≠ [] := by
  rintro rfl
  rcases (h [',']).head with hnil | ⟨c, tail, heq, hc⟩
  · contradiction
  · obtain ⟨rfl, -⟩ := List.cons.inj heq
    exact (apart_of_startsCompound hc).1 rfl

/-- Qualifiers and parts say themselves where they end, and the other phrases may need the end of
the input. -/
def Phrase.EndsBefore : Phrase → List Char → Prop
  | .qualifier, _ => True
  | .parts, _ => True
  | _, rest => rest ≠ []

/-- **In front of something every phrase stands whole**, and it stands so in front of anything. -/
theorem Derives.stands {phrase : Phrase} {cs rest : List Char} {s : Selector}
    (h : Derives phrase cs s rest) (hr : phrase.EndsBefore rest) :
    ∃ front, cs = front ++ rest ∧ Stands phrase front s := by
  induction h with
  | @hasId name rest hname =>
    exact ⟨'#' :: name, rfl, fun other => .hasId hname⟩
  | @hasClass name rest hname =>
    exact ⟨'.' :: name, rfl, fun other => .hasClass hname⟩
  | @present cs name mid rest hn hname hb =>
    obtain ⟨between, rfl, hbetween⟩ := hb.exists_append (List.cons_ne_nil _ _)
    obtain ⟨front, rfl, hfront⟩ :=
      hn.exists_append (List.append_ne_nil_of_left_ne_nil (isName_of_isIdentifier hname).1 _)
    refine ⟨'[' :: (front ++ (name ++ (between ++ [']']))), by simp, fun other => ?_⟩
    have hd := Derives.present (hfront (name ++ (between ++ ']' :: other))) hname
      (hbetween (']' :: other))
    simpa using hd
  | @compare cs name mid operator right value after rest comparison valueText hn hname ho hc hr hv
      hb =>
    obtain ⟨ending, rfl, hending⟩ := hb.exists_append (List.cons_ne_nil _ _)
    obtain ⟨quoted, rfl, hquoted, hvalue⟩ := hv.exists_append
    obtain ⟨space, rfl, hspace⟩ := hr.exists_append (List.append_ne_nil_of_left_ne_nil hquoted _)
    obtain ⟨c, tail, heq, -⟩ := hc.exists_cons (space ++ (quoted ++ (ending ++ ']' :: rest)))
    obtain ⟨between, rfl, hbetween⟩ := ho.exists_append (heq ▸ List.cons_ne_nil c tail)
    obtain ⟨front, rfl, hfront⟩ :=
      hn.exists_append (List.append_ne_nil_of_left_ne_nil (isName_of_isIdentifier hname).1 _)
    refine ⟨'[' :: (front ++ (name ++ (between ++ (operator ++
      (space ++ (quoted ++ (ending ++ [']']))))))), by simp, fun other => ?_⟩
    have hd := Derives.compare
      (hfront (name ++ (between ++ (operator ++ (space ++ (quoted ++ (ending ++ ']' :: other)))))))
      hname (hbetween (operator ++ (space ++ (quoted ++ (ending ++ ']' :: other))))) hc
      (hspace (quoted ++ (ending ++ ']' :: other))) (hvalue (ending ++ ']' :: other))
      (hending (']' :: other))
    simpa using hd
  | @negation name inner rest s hname hl _ ih =>
    obtain ⟨group, rfl, hgroup⟩ := ih (List.cons_ne_nil _ _)
    refine ⟨':' :: (name ++ '(' :: (group ++ [')'])), by simp, fun other => ?_⟩
    have hd := Derives.negation hname hl (hgroup (')' :: other))
    simpa using hd
  | @tag name rest hname => exact ⟨name, rfl, fun other => .tag hname⟩
  | first _ ih =>
    obtain ⟨front, rfl, hfront⟩ := ih trivial
    exact ⟨front, rfl, fun other => .first (hfront other)⟩
  | starred _ ih =>
    obtain ⟨front, rfl, hfront⟩ := ih trivial
    exact ⟨'*' :: front, rfl, fun other => .starred (hfront other)⟩
  | more _ _ ih ihq =>
    obtain ⟨last, rfl, hlast⟩ := ihq trivial
    obtain ⟨front, rfl, hfront⟩ := ih trivial
    refine ⟨front ++ last, by simp, fun other => ?_⟩
    rw [List.append_assoc]
    exact .more (hfront (last ++ other)) (hlast other)
  | parts _ ih =>
    obtain ⟨front, rfl, hfront⟩ := ih trivial
    exact ⟨front, rfl, fun other => .parts (hfront other)⟩
  | star => exact ⟨['*'], rfl, fun other => .star⟩
  | nothing => exact absurd rfl hr
  | start hb _ ih =>
    obtain ⟨compound, rfl, hcompound⟩ := ih hr
    obtain ⟨front, rfl, hfront⟩ := hb.exists_append (List.append_ne_nil_of_right_ne_nil _ hr)
    refine ⟨front ++ compound, by simp, fun other => ?_⟩
    rw [List.append_assoc]
    exact .start (hfront (compound ++ other)) (hcompound other)
  | combine _ hj _ ihl ihs =>
    obtain ⟨compound, rfl, hcompound⟩ := ihs hr
    obtain ⟨hmid, between, close, rfl, hclose, hjoint⟩ := hj.exists_closing
    obtain rfl := hclose (List.append_ne_nil_of_right_ne_nil compound hr)
    obtain ⟨front, rfl, hfront⟩ := ihl hmid
    refine ⟨front ++ (between ++ compound), by simp, fun other => ?_⟩
    -- the compound is not empty, so that spacing alone may still be the combinator before it
    have hne : compound ++ other ≠ [] :=
      List.append_ne_nil_of_left_ne_nil (Stands.ne_nil hcompound) other
    rw [List.append_assoc, List.append_assoc]
    exact .combine (hfront (between ++ (compound ++ other))) (hjoint (compound ++ other) hne)
      (hcompound other)
  | single _ hb ih =>
    obtain ⟨space, rfl, hspace⟩ := hb.exists_append hr
    obtain ⟨front, rfl, hfront⟩ := ih (List.append_ne_nil_of_right_ne_nil space hr)
    refine ⟨front ++ space, by simp, fun other => ?_⟩
    rw [List.append_assoc]
    exact .single (hfront (space ++ other)) (hspace other)
  | union _ _ hb ihl ihr =>
    obtain ⟨space, rfl, hspace⟩ := hb.exists_append hr
    obtain ⟨member, rfl, hmember⟩ := ihr (List.append_ne_nil_of_right_ne_nil space hr)
    obtain ⟨front, rfl, hfront⟩ := ihl (List.cons_ne_nil _ _)
    refine ⟨front ++ ',' :: (member ++ space), by simp, fun other => ?_⟩
    have hd := Derives.union (hfront (',' :: (member ++ (space ++ other))))
      (hmember (space ++ other)) (hspace other)
    simpa using hd

/-! ## Drafts -/

theorem MemberStarts.exists_append {group start : List Char} {members : Option Selector}
    (h : MemberStarts group members start) :
    ∃ front, group = front ++ start ∧ ∀ other, MemberStarts (front ++ other) members other := by
  cases members with
  | none => exact ⟨[], h, fun other => rfl⟩
  | some s =>
    obtain ⟨front, rfl, hfront⟩ := Derives.stands h (List.cons_ne_nil _ _)
    refine ⟨front ++ [','], by simp, fun other => ?_⟩
    have hd : Derives .group (front ++ ',' :: other) s (',' :: other) := hfront (',' :: other)
    show Derives .group (front ++ [','] ++ other) s (',' :: other)
    simpa using hd

theorem LeftReaches.exists_closing {start right : List Char}
    {left : Option (Selector × Combinator)} (h : LeftReaches start left right) :
    ∃ front close, start = front ++ right ∧ (right ≠ [] → close = []) ∧
      ∀ other, other ≠ [] → LeftReaches (front ++ (close ++ other)) left other := by
  cases left with
  | none =>
    obtain ⟨front, close, rfl, hclose, hblank⟩ := Blank.exists_closing h
    exact ⟨front, close, rfl, hclose, fun other _ => hblank other⟩
  | some pair =>
    obtain ⟨mid, hchain, hjoint⟩ := h
    obtain ⟨hmid, between, close, rfl, hclose, hjoint⟩ := hjoint.exists_closing
    obtain ⟨front, rfl, hfront⟩ := hchain.stands hmid
    refine ⟨front ++ between, close, by simp, hclose, fun other hother => ?_⟩
    rw [List.append_assoc]
    exact ⟨_, hfront (between ++ (close ++ other)), hjoint other hother⟩

/-- The list under way leads up to any other compound that is not empty. -/
theorem PendingReaches.exists_closing {group right : List Char} {p : Pending}
    (h : PendingReaches group p right) :
    ∃ front close, group = front ++ right ∧ (right ≠ [] → close = []) ∧
      ∀ other, other ≠ [] → PendingReaches (front ++ (close ++ other)) p other := by
  obtain ⟨start, hstart, hleft⟩ := h
  obtain ⟨front, rfl, hfront⟩ := hstart.exists_append
  obtain ⟨between, close, rfl, hclose, hleft⟩ := hleft.exists_closing
  refine ⟨front ++ between, close, by simp, hclose, fun other hother => ?_⟩
  rw [List.append_assoc]
  exact ⟨_, hfront (between ++ (close ++ other)), hleft other hother⟩

/-- A compound has not begun, or what has been read of it stands whole. -/
theorem PartsReach.not_begun_or_exists {right rest : List Char} {parts : Option Selector}
    (h : PartsReach right parts rest) :
    parts = none ∧ right = rest ∧ (rest = [] ∨ StartsQualifier rest) ∨
      ∃ front, front ≠ [] ∧ right = front ++ rest ∧
        ∀ other, PartsReach (front ++ other) parts other := by
  cases parts with
  | none =>
    rcases h with rfl | ⟨rfl, hrest⟩
    · exact .inr ⟨['*'], List.cons_ne_nil _ _, rfl, fun other => .inl rfl⟩
    · exact .inl ⟨rfl, rfl, hrest⟩
  | some s =>
    obtain ⟨front, rfl, hfront⟩ := Derives.stands h trivial
    have hcompound : Stands .compound front s := fun other => .parts (hfront other)
    exact .inr ⟨front, hcompound.ne_nil, rfl, hfront⟩

/-- A list and its last compound, in front of another rest. Where the compound has not begun, a
qualifier has to come next. -/
theorem PendingReaches.exchange {group right rest : List Char} {p : Pending}
    {parts : Option Selector} (h : PendingReaches group p right)
    (hparts : PartsReach right parts rest) :
    ∃ front close, group = front ++ rest ∧ (rest ≠ [] → close = []) ∧
      ∀ other, (rest = [] ∨ StartsQualifier rest → StartsQualifier other) →
        ∃ right', PendingReaches (front ++ (close ++ other)) p right' ∧
          PartsReach right' parts other := by
  obtain ⟨front, close, rfl, hclose, hpending⟩ := h.exists_closing
  rcases hparts.not_begun_or_exists with ⟨rfl, rfl, hrest⟩ | ⟨begun, hbegun, rfl, hwhole⟩
  · refine ⟨front, close, rfl, hclose, fun other hother => ?_⟩
    have hq := hother hrest
    obtain ⟨c, tail, rfl, -⟩ := hq.exists_cons
    exact ⟨_, hpending _ (List.cons_ne_nil c tail), .inr ⟨rfl, .inr hq⟩⟩
  · obtain rfl := hclose (List.append_ne_nil_of_left_ne_nil hbegun rest)
    refine ⟨front ++ begun, [], by simp, fun _ => rfl, fun other _ => ⟨begun ++ other, ?_⟩⟩
    rw [List.append_assoc]
    exact ⟨hpending _ (List.append_ne_nil_of_left_ne_nil hbegun other), hwhole other⟩

/-- The open negations lead up to any other group, by induction on how many are open. -/
theorem NegationsReach.exists_append {text group : List Char} {negations : List Negation}
    (h : NegationsReach text negations group) :
    ∃ front, text = front ++ group ∧ ∀ other, NegationsReach (front ++ other) negations other := by
  induction negations generalizing group with
  | nil => exact ⟨[], h, fun other => rfl⟩
  | cons negation others ih =>
    obtain ⟨outer, right, name, hothers, houter, hparts, hid, hl⟩ := h
    obtain ⟨before, rfl, hbefore⟩ := ih hothers
    obtain ⟨front, close, rfl, hclose, hfront⟩ := houter.exchange hparts
    obtain rfl := hclose (List.cons_ne_nil _ _)
    refine ⟨before ++ (front ++ ':' :: (name ++ ['('])), by simp, fun other => ?_⟩
    have hcolon : StartsQualifier (':' :: (name ++ '(' :: other)) := ⟨':', rfl, by decide⟩
    obtain ⟨right', houter', hparts'⟩ := hfront _ fun _ => hcolon
    have hn : NegationsReach (before ++ (front ++ ':' :: (name ++ '(' :: other)))
        (negation :: others) other :=
      ⟨_, right', name, hbefore _, houter', hparts', hid, hl⟩
    simpa using hn

/-- **What has been read leads to the same draft in front of another rest**: at the end of the text
and at the start of a compound in front of a qualifier, and anywhere else in front of any rest. At
the end of the text a comment may have to be closed first. -/
theorem Reaches.exchange {text rest : List Char} {draft : Draft} (h : Reaches text draft rest) :
    ∃ front close, text = front ++ rest ∧ (rest ≠ [] → close = []) ∧
      ∀ other, (rest = [] ∨ StartsQualifier rest → StartsQualifier other) →
        Reaches (front ++ (close ++ other)) draft other := by
  obtain ⟨group, right, hn, hp, hparts⟩ := h
  obtain ⟨before, rfl, hbefore⟩ := hn.exists_append
  obtain ⟨front, close, rfl, hclose, hfront⟩ := hp.exchange hparts
  refine ⟨before ++ front, close, by simp, hclose, fun other hother => ?_⟩
  obtain ⟨right', hp', hparts'⟩ := hfront other hother
  rw [List.append_assoc]
  exact ⟨_, right', hbefore _, hp', hparts'⟩

end Grammar

end DocQuery
