import DocQuery.Document.Edit
import DocQuery.Proofs.Attributes
import DocQuery.Proofs.Grammar.Completeness
import DocQuery.Query.Select

/-!
# Classes

The classes of an element are the words of its class attribute, and the class selector asks for
one of the pieces of that attribute. Words and pieces are cut in two ways: neighbouring white space
has an empty piece between its characters, and nothing else is there that is no word. So the two
say the same about every class but the empty one.

- `Text.words_eq_filter`: the words of a text are its pieces, without the empty ones.
- `Text.HasRuns`: the runs of a text, with white space around them.
- `Text.words_eq_iff`: the words of a text are its runs, in their order.
- `Element.classes_agree`: classes, the test for a class, and queries for it.
-/

namespace DocQuery

namespace Text

variable {piece cs : List Char} {runs : List (List Char)}

/-! ## Words and pieces -/

/-- The words of a text are its pieces, without the empty ones. -/
theorem words_eq_filter (cs : List Char) :
    words cs = (splitAtBlanks cs).filter (!·.isEmpty) := by
  have hone : ∀ cs, (∀ c ∈ cs, isBlank c = false) → words cs = [cs].filter (!·.isEmpty) := by
    intro cs h
    cases cs with
    | nil => rfl
    | cons c cs => exact words_of_forall (by simp) h
  induction cs using cut_induction with
  | one cs h => rw [splitAtBlanks_of_forall h, hone cs h]
  | cut front c rest hfront hc ih =>
    rw [words_append front rest hc, splitAtBlanks_append front rest hc,
      splitAtBlanks_of_forall hfront, List.filter_append, hone front hfront, ih]

theorem mem_words_iff : piece ∈ words cs ↔ piece ≠ [] ∧ piece ∈ splitAtBlanks cs := by
  rw [words_eq_filter, List.mem_filter, and_comm]
  simp

/-! ## Runs -/

/-- The text holds these runs of characters that are not white space, in this order, and nothing
but white space before the first, between two neighbours, and behind the last. A run is never empty
and goes on as far as it can: behind it there is white space, or nothing. -/
inductive HasRuns : List Char → List (List Char) → Prop where
  | blank {gap : List Char} (h : ∀ c ∈ gap, isBlank c = true) : HasRuns gap []
  | run {gap run rest : List Char} {runs : List (List Char)}
      (hgap : ∀ c ∈ gap, isBlank c = true) (hne : run ≠ []) (hrun : ∀ c ∈ run, isBlank c = false)
      (hrest : StartsInBlank rest) (h : HasRuns rest runs) :
      HasRuns (gap ++ (run ++ rest)) (run :: runs)

/-- White space in front of a text changes none of its runs. -/
theorem HasRuns.cons {c : Char} (hc : isBlank c = true) (h : HasRuns cs runs) :
    HasRuns (c :: cs) runs := by
  cases h with
  | blank hgap => exact .blank (List.forall_mem_cons.2 ⟨hc, hgap⟩)
  | run hgap hne hrun hrest h => exact .run (List.forall_mem_cons.2 ⟨hc, hgap⟩) hne hrun hrest h

theorem HasRuns.append {run rest : List Char} (hne : run ≠ [])
    (hrun : ∀ c ∈ run, isBlank c = false) (hrest : StartsInBlank rest) (h : HasRuns rest runs) :
    HasRuns (run ++ rest) (run :: runs) :=
  @HasRuns.run [] run rest runs (List.forall_mem_nil _) hne hrun hrest h

/-- The words of a text are runs of it. -/
theorem hasRuns_words (cs : List Char) : HasRuns cs (words cs) := by
  induction cs using cut_induction with
  | one cs h =>
    cases cs with
    | nil => exact .blank (by simp)
    | cons c cs =>
      have hrun := HasRuns.append (by simp) h (.inl rfl) (.blank (List.forall_mem_nil _))
      rwa [List.append_nil, ← words_of_forall (by simp) h] at hrun
  | cut front c rest hfront hc ih =>
    rw [words_append front rest hc]
    cases front with
    | nil => exact ih.cons hc
    | cons d front =>
      rw [words_of_forall (by simp) hfront]
      exact .append (by simp) hfront (.inr ⟨c, rest, rfl, hc⟩) (ih.cons hc)

theorem words_append_of_forall {gap : List Char} (h : ∀ c ∈ gap, isBlank c = true)
    (cs : List Char) : words (gap ++ cs) = words cs := by
  induction gap with
  | nil => rfl
  | cons c gap ih =>
    obtain ⟨hc, hgap⟩ := List.forall_mem_cons.1 h
    rw [List.cons_append, words_of_isBlank hc, ih hgap]

/-- A text has no other runs than its words. -/
theorem HasRuns.words_eq (h : HasRuns cs runs) : words cs = runs := by
  induction h with
  | @blank gap hgap =>
    have hnone := words_append_of_forall hgap []
    rwa [List.append_nil] at hnone
  | @run gap run rest runs hgap hne hrun hrest _ ih =>
    rw [words_append_of_forall hgap]
    rcases hrest with rfl | ⟨c, after, rfl, hc⟩
    · rw [List.append_nil, words_of_forall hne hrun, ← ih]
      rfl
    · rw [words_of_isBlank hc] at ih
      rw [words_append run after hc, words_of_forall hne hrun, ih]
      rfl

/-- **The words of a text are its runs, in their order.** -/
theorem words_eq_iff : words cs = runs ↔ HasRuns cs runs := by
  constructor
  · rintro rfl
    exact hasRuns_words cs
  · exact HasRuns.words_eq

end Text

/-! ## Classes of an element -/

namespace Element

variable {e : Element}

theorem classes_of_hasFirst {value : String} (h : e.HasFirst "class" value) :
    e.classes = (Text.words value.toList).map String.ofList := by
  rw [classes, attribute?_eq_some_iff.2 h]

theorem map_toList_classes {value : String} (h : e.HasFirst "class" value) :
    e.classes.map String.toList = Text.words value.toList := by
  rw [classes_of_hasFirst h, List.map_map]
  simp [Function.comp_def]

theorem attribute?_eq_none {name : String} (h : ∀ a ∈ e.attributes, a.name ≠ name) :
    e.attribute? name = none := by
  rw [attribute?, Option.map_eq_none_iff, List.find?_eq_none]
  exact fun a ha => by simpa using h a ha

/-- The classes are the pieces of the class attribute, without the empty one. -/
theorem mem_classes_iff {v : String} :
    v ∈ e.classes ↔ v ≠ "" ∧ AttributeTest.accepts ⟨.listed, "class", v⟩ e = true := by
  rw [AttributeTest.accepts_eq_true_iff, ne_eq, ← String.toList_eq_nil_iff]
  constructor
  · intro hv
    cases hvalue : e.attribute? "class" with
    | none => simp [classes, hvalue] at hv
    | some value =>
      have hfirst := attribute?_eq_some_iff.1 hvalue
      rw [classes_of_hasFirst hfirst, List.mem_map] at hv
      obtain ⟨word, hword, rfl⟩ := hv
      rw [String.toList_ofList]
      obtain ⟨hne, hpiece⟩ := Text.mem_words_iff.1 hword
      exact ⟨hne, value, hfirst, Comparison.holds_listed_iff.2 hpiece⟩
  · rintro ⟨hne, value, hfirst, hholds⟩
    rw [classes_of_hasFirst hfirst, List.mem_map]
    refine ⟨v.toList, Text.mem_words_iff.2 ⟨hne, ?_⟩, String.ofList_toList⟩
    exact Comparison.holds_listed_iff.1 hholds

/-- The test for a class that is not empty asks whether it is among the classes. -/
theorem accepts_listed_class {v : String} (hv : v ≠ "") :
    AttributeTest.accepts ⟨.listed, "class", v⟩ = fun e => decide (v ∈ e.classes) := by
  funext e
  rw [Bool.eq_iff_iff, decide_eq_true_iff, mem_classes_iff, and_iff_right hv]

end Element

/-- The class selector for an identifier is read from its text. -/
theorem Selector.parse_class {x : String} (h : IsIdentifier x.toList) :
    parse ("." ++ x) = .ok (.test ⟨.listed, "class", x⟩) := by
  rw [parse_eq_ok, Grammar.parseChars_eq_ok_iff, String.toList_append]
  have hclass : Grammar.Derives .qualifier ('.' :: (x.toList ++ []))
      (.test ⟨.listed, "class", String.ofList x.toList⟩) [] := .hasClass h
  rw [List.append_nil, String.ofList_toList] at hclass
  exact .single (.start .nil (.parts (.first hclass))) .nil

namespace Element

/-- **Classes, and tests for them, agree.** The classes of an element are the runs of the first
class attribute, in their order, and none without such an attribute. The test for a class that is
not empty accepts just the elements that have it among their classes, and a query for `.x` finds
the visited elements with the class `x`. The empty text is no class of any element, but the test
for it accepts some. -/
theorem classes_agree :
    (∀ (e : Element) (value : String), e.HasFirst "class" value → ∀ runs,
      e.classes.map String.toList = runs ↔ Text.HasRuns value.toList runs) ∧
    (∀ e : Element, (∀ a ∈ e.attributes, a.name ≠ "class") → e.classes = []) ∧
    (∀ (t : Tree) (id : NodeId) (e : Element) (v : String), t.element? id = some e → v ≠ "" →
      ((Selector.test ⟨.listed, "class", v⟩).accepts t id = true ↔ v ∈ e.classes)) ∧
    (∀ (t : Tree) (start : NodeId) (x : String), IsIdentifier x.toList →
      t.selectAll start ("." ++ x) =
        .ok ((t.levelOrder start).filter fun id => (t.element? id).any (x ∈ ·.classes))) ∧
    (∀ e : Element, "" ∉ e.classes) ∧
    ∃ (t : Tree) (id : NodeId), (Selector.test ⟨.listed, "class", ""⟩).accepts t id = true := by
  refine ⟨fun e value h runs => ?_, fun e h => ?_, fun t id e v he hv => ?_, fun t start x hx => ?_,
    fun e hempty => (mem_classes_iff.1 hempty).1 rfl, ?_⟩
  · rw [map_toList_classes h, Text.words_eq_iff]
  · rw [classes, attribute?_eq_none h]
  · rw [Selector.accepts, he, Option.any_some, accepts_listed_class hv, decide_eq_true_iff]
  · have hne : x ≠ "" := by
      rintro rfl
      exact hx
    rw [Tree.selectAll, Selector.parse_class hx]
    refine congrArg Except.ok (List.filter_congr fun id _ => ?_)
    rw [Selector.accepts, accepts_listed_class hne]
  · exact ⟨Tree.empty.perform [.appendElement 0 ⟨.ofName "p", [⟨"class", ""⟩]⟩], 1, by decide⟩

/-- Two class attributes, of which the first counts, with white space of several kinds around its
words. -/
theorem classes_agree_unicode :
    let e : Element := ⟨.ofName "p", [⟨"class", "\u2003note\u0085\u0085x "⟩, ⟨"class", "y"⟩]⟩
    let t := Tree.empty.perform
      [.appendElement 0 ⟨.ofName "div", [⟨"class", "notes"⟩]⟩, .appendElement 1 e]
    e.HasFirst "class" "\u2003note\u0085\u0085x " ∧ IsIdentifier "note".toList ∧
      e.classes.map String.toList = [['n', 'o', 't', 'e'], ['x']] ∧
      t.selectAll 1 ".note" = .ok [2] ∧
      (Selector.test ⟨.listed, "class", "y"⟩).accepts t 2 = false := by
  intro e t
  obtain ⟨hruns, -, htest, hselect, -, -⟩ := classes_agree
  have hfirst : e.HasFirst "class" "\u2003note\u0085\u0085x " :=
    ⟨[], [⟨"class", "y"⟩], rfl, by simp⟩
  have hid : IsIdentifier "note".toList := Grammar.isIdentifier_of_all (by decide) (by decide)
  have hclasses : Text.HasRuns "\u2003note\u0085\u0085x ".toList [['n', 'o', 't', 'e'], ['x']] :=
    Text.words_eq_iff.1 (by decide)
  have hwalk : t.levelOrder 1 = [1, 2] := by decide +kernel
  have hnote :
      (t.levelOrder 1).filter (fun id => (t.element? id).any ("note" ∈ ·.classes)) = [2] := by
    rw [hwalk]
    decide
  refine ⟨hfirst, hid, (hruns e _ hfirst _).2 hclasses, ?_, ?_⟩
  · rw [← hnote]
    exact hselect t 1 "note" hid
  · rw [Bool.eq_false_iff, ne_eq, htest t 2 e "y" rfl (by decide)]
    decide

end Element

end DocQuery
