import DocQuery.Document.Edit
import DocQuery.Proofs.Grammar.Completeness
import DocQuery.Selector.Matching

/-!
# Names of tags

A name in selector text and a name that an element is made with go through the same resolution.
Known names are told apart by their letters alone, whatever their ASCII case; all other names are
told apart by every character, and no two names from different sides of this line are the same.

- `Tag.SameName`: names that mean the same tag.
- `Tag.ofName_eq_ofName_iff`: these are the names with the same tag.
- `Tag.ofName_name_ofName`: the name of a tag resolves to the tag.
- `Selector.parse_tag`: an identifier is the selector of its tag.
- `Tag.names_resolve`: what this says about names, tags, and selectors for them.
-/

namespace DocQuery

namespace Tag

variable {n m : String}

/-- The names are the same text, or both are the same known name but for the case of ASCII
letters. -/
def SameName (n m : String) : Prop :=
  n = m ∨ asciiLower n = asciiLower m ∧ asciiLower n ∈ knownTagNames

/-! ## Resolution -/

theorem name_ofName (n : String) :
    (ofName n).name = if asciiLower n ∈ knownTagNames then asciiLower n else n := by
  by_cases h : asciiLower n ∈ knownTagNames
  · rw [ofName_of_mem h, if_pos h]
    rfl
  · rw [ofName_of_not_mem h, if_neg h]
    rfl

theorem isUnknown_ofName (n : String) :
    (ofName n).isUnknown = !decide (asciiLower n ∈ knownTagNames) := by
  by_cases h : asciiLower n ∈ knownTagNames
  · rw [ofName_of_mem h]
    simp [isUnknown, h]
  · rw [ofName_of_not_mem h]
    simp [isUnknown, h]

/-- Every known tag has a name in lower case, which resolves to the tag. -/
theorem name_of_known {g : Tag} (h : g.isUnknown = false) :
    asciiLower g.name = g.name ∧ ofName g.name = g := by
  cases g with
  | known n => exact ⟨asciiLower_of_mem n.property, ofName_known n⟩
  | unknown text => contradiction

/-- The name of a tag that some name resolves to resolves to the tag again. -/
theorem ofName_name_ofName (n : String) : ofName (ofName n).name = ofName n := by
  by_cases h : asciiLower n ∈ knownTagNames
  · rw [ofName_of_mem h]
    exact ofName_known ⟨asciiLower n, h⟩
  · rw [ofName_of_not_mem h]
    exact ofName_of_not_mem h

/-- **Names have the same tag exactly if they are the same name**, which known names are in any
case of their ASCII letters and other names only as they stand. -/
theorem ofName_eq_ofName_iff : ofName n = ofName m ↔ SameName n m := by
  constructor
  · intro h
    -- the tags have the same name and are on the same side of the known names
    have hname := congrArg name h
    have hunknown := congrArg isUnknown h
    rw [name_ofName, name_ofName] at hname
    rw [isUnknown_ofName, isUnknown_ofName] at hunknown
    have hside := decide_eq_decide.1 (Bool.not_inj hunknown)
    by_cases hn : asciiLower n ∈ knownTagNames
    · rw [if_pos hn, if_pos (hside.1 hn)] at hname
      exact .inr ⟨hname, hn⟩
    · rw [if_neg hn, if_neg (mt hside.2 hn)] at hname
      exact .inl hname
  · rintro (rfl | ⟨hlower, hn⟩)
    · rfl
    · have hm : asciiLower m ∈ knownTagNames := hlower ▸ hn
      rw [ofName_of_mem hn, ofName_of_mem hm]
      exact congrArg known (Subtype.ext hlower)

end Tag

/-! ## Selectors for tags -/

/-- An identifier is the selector of its tag. -/
theorem Selector.parse_tag {n : String} (h : IsIdentifier n.toList) :
    parse n = .ok (.tag (.ofName n)) := by
  rw [parse_eq_ok, Grammar.parseChars_eq_ok_iff]
  have htag : Grammar.Derives .parts (n.toList ++ [])
      (.tag (.ofName (String.ofList n.toList))) [] := .tag h
  rw [List.append_nil, String.ofList_toList] at htag
  exact .single (.start .nil (.parts htag)) .nil

theorem Selector.accepts_tag_ofName {t : Tree} {id : NodeId} {e : Element} {n m : String}
    (he : t.element? id = some e) (hm : e.tag = .ofName m) :
    (tag (.ofName n)).accepts t id = true ↔ Tag.SameName n m := by
  rw [accepts, he, Option.any_some, hm, beq_iff_eq, eq_comm, Tag.ofName_eq_ofName_iff]

namespace Tag

/-- **Names resolve in the same way on both sides of a query.** Two names have the same tag if they
are the same text, or the same known name but for the case of ASCII letters, and in no other case.
The name of such a tag is the canonical one of a known name and the text as it stands of another
one, and it resolves to the tag; so does the name of every known tag, which is in lower case. So an
identifier, read as a selector, accepts an element exactly if the identifier and the name that the
element was made with are the same in this sense. -/
theorem names_resolve :
    (∀ n m, ofName n = ofName m ↔
      n = m ∨ asciiLower n = asciiLower m ∧ asciiLower n ∈ knownTagNames) ∧
    (∀ n, (ofName n).name = if asciiLower n ∈ knownTagNames then asciiLower n else n) ∧
    (∀ n, ofName (ofName n).name = ofName n) ∧
    (∀ g : Tag, g.isUnknown = false → asciiLower g.name = g.name ∧ ofName g.name = g) ∧
    ∀ n, IsIdentifier n.toList → ∃ s, Selector.parse n = .ok s ∧
      ∀ (t : Tree) (id : NodeId) (e : Element) (m : String), t.element? id = some e →
        e.tag = ofName m → (s.accepts t id = true ↔
          n = m ∨ asciiLower n = asciiLower m ∧ asciiLower n ∈ knownTagNames) := by
  refine ⟨fun n m => ofName_eq_ofName_iff, name_ofName, ofName_name_ofName,
    fun g hg => name_of_known hg, fun n hn => ?_⟩
  exact ⟨_, Selector.parse_tag hn, fun t id e m he hm => Selector.accepts_tag_ofName he hm⟩

/-- A known name in two spellings, and a name with a letter whose lower case lies outside ASCII. -/
theorem names_resolve_spelled :
    let t := Tree.empty.perform
      [.appendElement 0 ⟨.ofName "Annotation-XML", []⟩, .appendElement 1 ⟨.ofName "É", []⟩]
    IsIdentifier "ANNOTATION-xml".toList ∧ IsIdentifier "é".toList ∧
      (∃ s, Selector.parse "ANNOTATION-xml" = .ok s ∧ s.accepts t 1 = true) ∧
      ∃ s, Selector.parse "é" = .ok s ∧ s.accepts t 2 = false := by
  intro t
  obtain ⟨-, -, -, -, hselect⟩ := names_resolve
  have hknown : IsIdentifier "ANNOTATION-xml".toList :=
    Grammar.isIdentifier_of_all (by decide) (by decide)
  have hother : IsIdentifier "é".toList := Grammar.isIdentifier_of_all (by decide) (by decide)
  refine ⟨hknown, hother, ?_, ?_⟩
  · obtain ⟨s, hs, haccepts⟩ := hselect "ANNOTATION-xml" hknown
    refine ⟨s, hs, (haccepts t 1 _ "Annotation-XML" rfl rfl).2 (.inr ⟨by decide, by decide⟩)⟩
  · obtain ⟨s, hs, haccepts⟩ := hselect "é" hother
    refine ⟨s, hs, Bool.eq_false_iff.2 fun h => ?_⟩
    have hsame := (haccepts t 2 _ "É" rfl rfl).1 h
    revert hsame
    decide

end Tag

end DocQuery
