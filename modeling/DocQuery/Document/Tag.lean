/-!
# Element tags

The tag of an element is one of the known HTML names, or any other text.

- `knownTagNames`: the known names in their canonical lower-case spelling.
- `Tag`: a known name, or an unknown one kept as it was written.
- `Tag.ofName`: a name resolved to its tag; the ASCII letter case of known names does not matter.
- `Tag.name`: the canonical name of a known tag, the text of an unknown one.
-/

namespace DocQuery

/-- The elements of current HTML, the entry points of MathML and SVG, and the obsolete elements
that documents still hold, in canonical spelling. -/
def knownTagNames : List String :=
  ["html", "head", "title", "base", "link", "meta", "style", "script", "noscript", "template",
   "body", "article", "section", "nav", "aside", "h1", "h2", "h3", "h4", "h5", "h6", "hgroup",
   "header", "footer", "address", "p", "hr", "pre", "blockquote", "ol", "ul", "li", "dl", "dt",
   "dd", "figure", "figcaption", "main", "div", "a", "em", "strong", "small", "s", "cite", "q",
   "dfn", "abbr", "data", "time", "code", "var", "samp", "kbd", "sub", "sup", "i", "b", "u",
   "mark", "ruby", "rt", "rp", "bdi", "bdo", "span", "br", "wbr", "ins", "del", "image", "img",
   "iframe", "embed", "object", "param", "video", "audio", "source", "track", "canvas", "map",
   "area", "math", "mi", "mo", "mn", "ms", "mtext", "mglyph", "malignmark", "annotation-xml",
   "svg", "foreignobject", "desc", "table", "caption", "colgroup", "col", "tbody", "thead",
   "tfoot", "tr", "td", "th", "form", "fieldset", "legend", "label", "input", "button", "select",
   "datalist", "optgroup", "option", "textarea", "keygen", "output", "progress", "meter",
   "details", "summary", "menu", "menuitem", "applet", "acronym", "bgsound", "dir", "frame",
   "frameset", "noframes", "isindex", "listing", "xmp", "nextid", "noembed", "plaintext", "rb",
   "strike", "basefont", "big", "blink", "center", "font", "marquee", "multicol", "nobr",
   "spacer", "tt", "rtc"]

/-- The tag of an element. Known tags are the same when their names are; unknown tags are the same
when their texts are, letter case included. -/
inductive Tag where
  | known (name : { n : String // n ∈ knownTagNames })
  | unknown (text : String)
  deriving DecidableEq

namespace Tag

/-- The name with its ASCII letters in lower case; all other characters stay. -/
def asciiLower (name : String) : String := String.ofList (name.toList.map Char.toLower)

/-- The tag of a name: known if the name is, whatever the case of its ASCII letters, and
otherwise unknown, with the name as it stands. -/
def ofName (name : String) : Tag :=
  if h : asciiLower name ∈ knownTagNames then .known ⟨asciiLower name, h⟩ else .unknown name

/-- The canonical name of a known tag, the text of an unknown one. -/
def name : Tag → String
  | known n => n.val
  | unknown text => text

/-- Whether the tag is outside the known names. -/
def isUnknown : Tag → Bool
  | known _ => false
  | unknown _ => true

/-! ## Names and tags -/

@[simp] theorem name_known (n : { n : String // n ∈ knownTagNames }) : (known n).name = n.val := rfl

@[simp] theorem name_unknown (text : String) : (unknown text).name = text := rfl

theorem ofName_of_mem {name : String} (h : asciiLower name ∈ knownTagNames) :
    ofName name = known ⟨asciiLower name, h⟩ := dif_pos h

theorem ofName_of_not_mem {name : String} (h : asciiLower name ∉ knownTagNames) :
    ofName name = unknown name := dif_neg h

/-- The canonical spelling has no upper-case letters. -/
theorem asciiLower_of_mem {name : String} (h : name ∈ knownTagNames) : asciiLower name = name := by
  have hall : ∀ n ∈ knownTagNames, n.toList.map Char.toLower = n.toList := by decide +kernel
  rw [asciiLower, hall name h, String.ofList_toList]

/-- A known tag is the tag of its name. -/
theorem ofName_known (n : { n : String // n ∈ knownTagNames }) : ofName n.val = known n := by
  have hlower : asciiLower n.val = n.val := asciiLower_of_mem n.property
  have hmem : asciiLower n.val ∈ knownTagNames := by
    rw [hlower]
    exact n.property
  rw [ofName_of_mem hmem]
  exact congrArg known (Subtype.ext hlower)

end Tag

end DocQuery
