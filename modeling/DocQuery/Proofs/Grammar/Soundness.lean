import DocQuery.Proofs.Grammar.Follow
import DocQuery.Selector.Parser

/-!
# What is read follows the grammar

The rules of the grammar grow to the right: a longer compound, chain or group is a shorter one and
something more. A draft is such a left part, under way at several levels at once, and the invariant
here says so. It is kept by every step of a run, and at the end it is a derivation of the group.

- `Grammar.PartsReach`, `Grammar.PendingReaches`, `Grammar.NegationsReach`: what the parts of a
  draft say of the text before the place that has been reached.
- `Grammar.Reaches`: the invariant of a whole draft.
- `Grammar.Reaches.step`: one step keeps the invariant.
- `Grammar.Reaches.derives_of_run`: a run from a draft that has it ends with a derivation.
- `Grammar.derives_of_parseChars`: a selector that is read is derived by the grammar.
-/

namespace DocQuery

namespace Grammar

/-! ## The invariant -/

/-- The compound that starts at `right` has been read up to `rest`. While it has no parts, either
a star has been read, or nothing has and the compound may still turn out to be empty. -/
def PartsReach (right : List Char) : Option Selector → List Char → Prop
  | some s, rest => Derives .parts right s rest
  | none, rest => right = '*' :: rest ∨ right = rest ∧ (rest = [] ∨ StartsQualifier rest)

/-- The member under way of the group that starts at `group` begins at `start`: there are no
members before it, or there are and a comma follows them. -/
def MemberStarts (group : List Char) : Option Selector → List Char → Prop
  | none, start => group = start
  | some members, start => Derives .group group members (',' :: start)

/-- What stands left of the compound that begins at `right`, in a member that begins at `start`:
spacing, or a chain and a combinator. -/
def LeftReaches (start : List Char) : Option (Selector × Combinator) → List Char → Prop
  | none, right => Blank start right
  | some (left, k), right => ∃ mid, Derives .chain start left mid ∧ Joint mid k right

/-- The group that starts at `group` has been read up to a compound that begins at `right`. -/
def PendingReaches (group : List Char) (p : Pending) (right : List Char) : Prop :=
  ∃ start, MemberStarts group p.members start ∧ LeftReaches start p.left right

/-- The innermost of the groups that are open begins at `group`: it is the whole text, or it
stands in a negation that is a part of a compound of the next group. -/
def NegationsReach (text : List Char) : List Negation → List Char → Prop
  | [], group => text = group
  | negation :: others, group =>
    ∃ outer right name, NegationsReach text others outer ∧
      PendingReaches outer negation.outer right ∧
      PartsReach right negation.parts (':' :: (name ++ '(' :: group)) ∧
      IsIdentifier name ∧ Text.lowerCase name = "not".toList

/-- Reading the text has led to the draft, and `rest` is left. -/
def Reaches (text : List Char) (draft : Draft) (rest : List Char) : Prop :=
  ∃ group right, NegationsReach text draft.negations group ∧
    PendingReaches group draft.pending right ∧ PartsReach right draft.parts rest

/-! ## Compounds -/

theorem partsReach_of_openCompound {cs rest : List Char} {parts : Option Selector}
    (h : openCompound cs = .ok (parts, rest)) : PartsReach cs parts rest := by
  unfold openCompound at h
  split at h
  · obtain ⟨rfl, rfl⟩ := Prod.mk.inj (Except.ok.inj h)
    exact .inr ⟨rfl, .inl rfl⟩
  · obtain ⟨rfl, rfl⟩ := Prod.mk.inj (Except.ok.inj h)
    exact .inl rfl
  -- neither the end nor a star: a qualifier opens the compound, or the name of a tag
  · rename_i c tail _
    split at h
    · rename_i hc
      obtain ⟨rfl, rfl⟩ := Prod.mk.inj (Except.ok.inj h)
      exact .inr ⟨rfl, .inr ⟨c, rfl, hc⟩⟩
    · obtain ⟨⟨name, after⟩, hn, he⟩ := exists_of_map_eq_ok h
      obtain ⟨rfl, rfl⟩ := Prod.mk.inj he
      obtain ⟨hname, heq⟩ := isIdentifier_of_readIdentifier hn
      rw [heq]
      exact .tag hname

/-- A qualifier is one more part of the compound. -/
theorem PartsReach.joinPart {right mid rest : List Char} {parts : Option Selector} {q : Selector}
    (h : PartsReach right parts mid) (hq : Derives .qualifier mid q rest) :
    PartsReach right (some (joinPart parts q)) rest := by
  cases parts with
  | some s => exact .more h hq
  | none =>
    rcases h with rfl | ⟨rfl, -⟩
    · exact .starred hq
    · exact .first hq

/-- Where no qualifier goes on, the compound is complete. -/
theorem PartsReach.derives {right rest : List Char} {parts : Option Selector}
    (h : PartsReach right parts rest) (hr : ¬ StartsQualifier rest) :
    Derives .compound right (parts.getD .universal) rest := by
  cases parts with
  | some s => exact .parts h
  | none =>
    rcases h with rfl | ⟨rfl, rfl | hq⟩
    · exact .star
    · exact .nothing
    · exact absurd hq hr

/-! ## Chains and groups -/

/-- A compound completes the chain that it ends. -/
theorem PendingReaches.derives_member {group right rest : List Char} {p : Pending} {s : Selector}
    (h : PendingReaches group p right) (hs : Derives .compound right s rest) :
    ∃ start, MemberStarts group p.members start ∧ Derives .chain start (p.member s) rest := by
  obtain ⟨start, hstart, hleft⟩ := h
  refine ⟨start, hstart, ?_⟩
  unfold Pending.member
  cases hl : p.left with
  | none =>
    rw [hl] at hleft
    exact .start hleft hs
  | some pair =>
    rw [hl] at hleft
    obtain ⟨mid, hchain, hjoint⟩ := hleft
    exact .combine hchain hjoint hs

/-- A compound and the spacing after it complete the group that they end. -/
theorem PendingReaches.derives_close {group right mid rest : List Char} {p : Pending}
    {s : Selector} (h : PendingReaches group p right) (hs : Derives .compound right s mid)
    (hb : Blank mid rest) : Derives .group group (p.close s) rest := by
  obtain ⟨start, hstart, hchain⟩ := h.derives_member hs
  unfold Pending.close
  cases hm : p.members with
  | none =>
    rw [hm] at hstart
    obtain rfl : group = start := hstart
    exact .single hchain hb
  | some members =>
    rw [hm] at hstart
    exact .union hstart hchain hb

/-- A comma ends a member, and the next one begins after it. -/
theorem PendingReaches.comma {group right mid after next : List Char} {p : Pending} {s : Selector}
    (h : PendingReaches group p right) (hs : Derives .compound right s mid)
    (hb : Blank mid (',' :: after)) (hn : Blank after next) :
    PendingReaches group (p.comma s) next :=
  ⟨after, h.derives_close hs hb, hn⟩

/-- A combinator makes what has been read the left side of the next compound. -/
theorem PendingReaches.combinator {group right mid next : List Char} {p : Pending} {s : Selector}
    {k : Combinator} (h : PendingReaches group p right) (hs : Derives .compound right s mid)
    (hj : Joint mid k next) : PendingReaches group (p.combinator s k) next := by
  obtain ⟨start, hstart, hchain⟩ := h.derives_member hs
  exact ⟨start, hstart, mid, hchain, hj⟩

/-! ## Steps -/

/-- At its first compound the text has led to a draft that is empty but for the start of it. -/
theorem Reaches.openCompound {text rest : List Char} {parts : Option Selector}
    (h : openCompound (skipBlank text) = .ok (parts, rest)) : Reaches text { parts } rest :=
  ⟨text, skipBlank text, rfl, ⟨text, rfl, blank_skipBlank text⟩, partsReach_of_openCompound h⟩

theorem Reaches.nextCompound {text group right rest : List Char} {draft next : Draft}
    (h : draft.nextCompound right = .ok (.reading next rest))
    (hn : NegationsReach text draft.negations group)
    (hp : PendingReaches group draft.pending right) : Reaches text next rest := by
  obtain ⟨parts, ho, rfl⟩ := exists_of_continueWith h
  exact ⟨group, right, hn, hp, partsReach_of_openCompound ho⟩

theorem Reaches.addPart {text mid rest : List Char} {draft : Draft} {q : Selector}
    (h : Reaches text draft mid) (hq : Derives .qualifier mid q rest) :
    Reaches text (draft.addPart q) rest := by
  obtain ⟨group, right, hn, hp, hparts⟩ := h
  exact ⟨group, right, hn, hp, hparts.joinPart hq⟩

/-- A negation that opens sets aside what has been read so far. -/
theorem Reaches.openNegation {text name cs rest : List Char} {draft next : Draft}
    (hd : Reaches text draft (':' :: (name ++ cs))) (hid : IsIdentifier name)
    (hl : Text.lowerCase name = "not".toList)
    (h : draft.openNegation cs = .ok (.reading next rest)) : Reaches text next rest := by
  unfold Draft.openNegation at h
  split at h
  · rename_i inner
    obtain ⟨group, right, hn, hp, hparts⟩ := hd
    -- the new group starts behind the parenthesis, and what was reached is kept on the stack
    refine Reaches.nextCompound h ?_ ⟨inner, rfl, blank_skipBlank inner⟩
    exact ⟨group, right, name, hn, hp, hparts, hid, hl⟩
  · contradiction

theorem Reaches.pseudoClass {text cs rest : List Char} {draft next : Draft}
    (hd : Reaches text draft (':' :: cs))
    (h : draft.pseudoClass cs = .ok (.reading next rest)) : Reaches text next rest := by
  obtain ⟨⟨name, after⟩, hn, h⟩ := exists_of_bind_eq_ok h
  obtain ⟨hid, rfl⟩ := isIdentifier_of_readIdentifier hn
  dsimp only at h
  split at h
  · rename_i hnot
    have hl : Text.lowerCase name = "not".toList := by rw [← hnot, String.toList_ofList]
    exact hd.openNegation hid hl h
  · split at h <;> contradiction

/-- A negation that closes is a part of the compound that it stands in. -/
theorem Reaches.closeNegation {text group right mid after cs rest : List Char}
    {draft next : Draft} (hn : NegationsReach text draft.negations group)
    (hp : PendingReaches group draft.pending right)
    (hs : Derives .compound right draft.compound mid) (hb : Blank mid (')' :: after))
    (h : draft.closeNegation cs after = .ok (.reading next rest)) : Reaches text next rest := by
  unfold Draft.closeNegation at h
  split at h
  · contradiction
  · rename_i negation others heq
    obtain ⟨rfl, rfl⟩ := Progress.reading.inj (Except.ok.inj h)
    rw [heq] at hn
    -- the top of the stack knows how far the compound around the negation had come
    obtain ⟨outer, left, name, hothers, houter, hparts, hid, hl⟩ := hn
    have hgroup : Derives .group group (draft.pending.close draft.compound) (')' :: after) :=
      hp.derives_close hs hb
    exact ⟨outer, left, hothers, houter, hparts.joinPart (.negation hid hl hgroup)⟩

theorem sign_of_ofChar? {c : Char} {k : Combinator} (h : Combinator.ofChar? c = some k) :
    Sign c k := by
  unfold Combinator.ofChar? at h
  split at h
  · exact Option.some.inj h ▸ .child
  · exact Option.some.inj h ▸ .adjacent
  · exact Option.some.inj h ▸ .sibling
  · contradiction

/-- What follows a compound keeps the invariant, where reading goes on. -/
theorem Reaches.endCompound {text cs rest : List Char} {draft next : Draft}
    (hd : Reaches text draft cs) (hcs : ¬ StartsQualifier cs)
    (h : draft.endCompound cs = .ok (.reading next rest)) : Reaches text next rest := by
  obtain ⟨group, right, hn, hp, hparts⟩ := hd
  have hs : Derives .compound right draft.compound cs := hparts.derives hcs
  have hb : Blank cs (skipBlank cs) := blank_skipBlank cs
  unfold Draft.endCompound at h
  split at h
  · exact absurd h Draft.endText_ne_reading
  · rename_i after heq
    rw [heq] at hb
    exact Reaches.nextCompound h hn (hp.comma hs hb (blank_skipBlank after))
  · rename_i after heq
    rw [heq] at hb
    exact Reaches.closeNegation hn hp hs hb h
  · rename_i c after _ _ heq
    rw [heq] at hb
    split at h
    · rename_i k hk
      have hj : Joint cs k (skipBlank after) :=
        .sign hb (sign_of_ofChar? hk) (blank_skipBlank after)
      exact Reaches.nextCompound h hn (hp.combinator hs hj)
    -- no sign: spacing alone is a combinator, and it has to hold something
    · split at h
      · rename_i hblank
        have hne : cs ≠ c :: after := by
          intro hcs
          have := (advances_skipBlank hblank).shorter
          rw [heq, ← hcs] at this
          exact absurd this (Nat.lt_irrefl _)
        have hj : Joint cs .descendant (c :: after) := .blank hb hne (List.cons_ne_nil c after)
        exact Reaches.nextCompound h hn (hp.combinator hs hj)
      · contradiction

/-- **One step keeps the invariant.** -/
theorem Reaches.step {text cs rest : List Char} {draft next : Draft}
    (hd : Reaches text draft cs) (h : draft.step cs = .ok (.reading next rest)) :
    Reaches text next rest := by
  unfold Draft.step at h
  split at h
  · obtain ⟨name, hname, rfl⟩ := exists_of_continueWith h
    obtain ⟨hn, rfl⟩ := isName_of_readName hname
    exact hd.addPart (.hasId hn)
  · obtain ⟨name, hname, rfl⟩ := exists_of_continueWith h
    obtain ⟨hn, rfl⟩ := isIdentifier_of_readIdentifier hname
    exact hd.addPart (.hasClass hn)
  · obtain ⟨test, htest, rfl⟩ := exists_of_continueWith h
    exact hd.addPart (derives_of_readTest htest)
  · exact hd.pseudoClass h
  · rename_i hid hclass htest hpseudo
    exact hd.endCompound (not_startsQualifier_of_ne hid hclass htest hpseudo) h

/-! ## Runs -/

/-- No step but the one at the end of the text finishes the selector. -/
theorem continueWith_ne_finished {α : Type} {read : Except Stop (α × List Char)} {f : α → Draft}
    {s : Selector} : continueWith read f ≠ .ok (.finished s) := by
  intro h
  obtain ⟨_, _, he⟩ := exists_of_map_eq_ok h
  contradiction

theorem openNegation_ne_finished {draft : Draft} {cs : List Char} {s : Selector} :
    draft.openNegation cs ≠ .ok (.finished s) := by
  intro h
  unfold Draft.openNegation at h
  split at h
  · exact continueWith_ne_finished h
  · contradiction

theorem pseudoClass_ne_finished {draft : Draft} {cs : List Char} {s : Selector} :
    draft.pseudoClass cs ≠ .ok (.finished s) := by
  intro h
  obtain ⟨⟨name, after⟩, -, h⟩ := exists_of_bind_eq_ok h
  dsimp only at h
  split at h
  · exact openNegation_ne_finished h
  · split at h <;> contradiction

/-- The step that finishes stands at the end of the text, with no negation open. -/
theorem endCompound_eq_finished {draft : Draft} {cs : List Char} {s : Selector}
    (h : draft.endCompound cs = .ok (.finished s)) :
    skipBlank cs = [] ∧ draft.negations = [] ∧ s = draft.pending.close draft.compound := by
  unfold Draft.endCompound at h
  split at h
  · rename_i heq
    unfold Draft.endText at h
    split at h
    · rename_i hnone
      exact ⟨heq, hnone, (Progress.finished.inj (Except.ok.inj h)).symm⟩
    · contradiction
  · exact absurd h continueWith_ne_finished
  · unfold Draft.closeNegation at h
    split at h
    · contradiction
    · exact absurd (Except.ok.inj h) (by simp)
  · split at h
    · exact absurd h continueWith_ne_finished
    · split at h
      · exact absurd h continueWith_ne_finished
      · contradiction

/-- The step that finishes turns the invariant into a derivation of the whole text. -/
theorem Reaches.derives_of_finished {text cs : List Char} {draft : Draft} {s : Selector}
    (hd : Reaches text draft cs) (h : draft.step cs = .ok (.finished s)) :
    Derives .group text s [] := by
  unfold Draft.step at h
  split at h
  · exact absurd h continueWith_ne_finished
  · exact absurd h continueWith_ne_finished
  · exact absurd h continueWith_ne_finished
  · exact absurd h pseudoClass_ne_finished
  · rename_i hid hclass htest hpseudo
    obtain ⟨hend, hnone, rfl⟩ := endCompound_eq_finished h
    obtain ⟨group, right, hn, hp, hparts⟩ := hd
    rw [hnone] at hn
    obtain rfl : text = group := hn
    have hs := hparts.derives (not_startsQualifier_of_ne hid hclass htest hpseudo)
    exact hp.derives_close hs (hend ▸ blank_skipBlank cs)

/-- **A run that succeeds derives the text that has led to its draft.** -/
theorem Reaches.derives_of_run {text cs : List Char} {draft : Draft} {s : Selector}
    (hd : Reaches text draft cs) (h : draft.run cs = .ok s) : Derives .group text s [] := by
  -- the run is followed step by step; what changes is the draft, and the invariant is about it
  fun_induction Draft.run draft cs with
  | case1 draft cs e he => contradiction
  | case2 draft cs t ht =>
    obtain rfl := Except.ok.inj h
    exact hd.derives_of_finished ht
  | case3 draft cs next rest hstep ih => exact ih (hd.step hstep) h

/-- Every selector that is read is derived by the grammar. -/
theorem derives_of_parseChars {text : List Char} {s : Selector} (h : parseChars text = .ok s) :
    Derives .group text s [] := by
  obtain ⟨⟨parts, rest⟩, ho, h⟩ := exists_of_bind_eq_ok h
  exact (Reaches.openCompound ho).derives_of_run h

end Grammar

end DocQuery
