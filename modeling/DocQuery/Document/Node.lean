import DocQuery.Document.Tag
import DocQuery.Text.Words

/-!
# Nodes of a document

- `NodeId`: nodes are numbered in the order in which they are made.
- `Element`: a tag and a list of attributes, in which a name may occur more than once.
- `Content`: what a node is, with its text or its element.
- `Node`: a node with its links to parent and children.
- `Element.attribute?`: the value of the first attribute of a name.
- `Element.classes`: the words of the class attribute.
-/

namespace DocQuery

/-- The number of a node; the document itself is node 0. -/
abbrev NodeId := Nat

/-- A name and a value on an element. -/
structure Attribute where
  name : String
  value : String
  deriving DecidableEq

/-- A tag and the attributes in the order of their declaration. -/
structure Element where
  tag : Tag
  attributes : List Attribute := []
  deriving DecidableEq

namespace Element

/-- The value of the first attribute with exactly this name. -/
def attribute? (e : Element) (name : String) : Option String :=
  (e.attributes.find? (·.name == name)).map (·.value)

/-- The value of the attribute `id`. -/
def id? (e : Element) : Option String := e.attribute? "id"

/-- The words of the attribute `class`; none if there is no such attribute. -/
def classes (e : Element) : List String :=
  match e.attribute? "class" with
  | some value => (Text.words value.toList).map String.ofList
  | none => []

end Element

/-- What a node is. Text that is white space throughout is kept apart from other text. -/
inductive Content where
  | document
  | element (e : Element)
  | text (s : String)
  | whitespace (s : String)
  | comment (s : String)
  | cdata (s : String)
  deriving DecidableEq

namespace Content

/-- Running text as the content of a node. The empty text counts as white space. -/
def ofText (s : String) : Content :=
  if s.toList.all Text.isBlank then whitespace s else text s

/-- The element that the node is, if it is one. -/
def element? : Content → Option Element
  | element e => some e
  | _ => none

/-- The text of a text node other than white space. -/
def text? : Content → Option String
  | text s => some s
  | _ => none

end Content

/-- A node and its place in the tree: its parent, its children in order, and its own position
among the children of its parent. -/
structure Node where
  content : Content
  parent : Option NodeId := none
  children : List NodeId := []
  index : Nat := 0

end DocQuery
