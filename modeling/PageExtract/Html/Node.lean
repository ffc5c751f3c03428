/-!
# Nodes of a document

The outermost node is the document itself.  Below it most nodes are elements.
An element has a name in one of three vocabularies, attributes and children.
The other nodes are texts, comments and the document type.

The contents of a `template` element are no part of the document.  So such an
element has no children unless it stands in another vocabulary than HTML.

`content` is the text of a node: the texts below it, one after another.
-/

namespace PageExtract.Html

/-- The vocabularies that elements come from. -/
inductive Vocabulary where
  | html
  | mathml
  | svg
  deriving DecidableEq, Repr

/-- The name of an element in its vocabulary. -/
structure ElementName where
  /-- The vocabulary. -/
  vocabulary : Vocabulary
  /-- The name. -/
  name : String
  deriving DecidableEq, Repr

/-- The vocabularies that names of attributes come from. -/
inductive AttrVocabulary where
  | none
  | xlink
  | xml
  | xmlns
  deriving DecidableEq, Repr

/-- An attribute. -/
structure Attr where
  /-- The vocabulary of the name. -/
  vocabulary : AttrVocabulary := .none
  /-- The name. -/
  name : String
  /-- The value. -/
  value : String
  deriving DecidableEq, Repr

/-- A node with what is below it. -/
inductive Node where
  | document (children : List Node)
  | element (name : ElementName) (attrs : List Attr) (children : List Node)
  | text (content : String)
  | comment (content : String)
  | doctype (name : String)
  deriving Repr

namespace Node

/-- Whether a node is an element. -/
def isElement : Node → Bool
  | element .. => true
  | _ => false

/-- The children of a node. -/
def children : Node → List Node
  | document cs => cs
  | element _ _ cs => cs
  | _ => []

/-- The value of the first attribute of a name. -/
def attr? (name : String) : Node → Option String
  | element _ attrs _ => (attrs.find? fun a => a.name == name).map Attr.value
  | _ => none

mutual

/-- The characters of the texts at and below a node. -/
def contentChars : Node → List Char
  | document cs => contentCharsOf cs
  | element _ _ cs => contentCharsOf cs
  | text s => s.toList
  | comment _ => []
  | doctype _ => []

/-- The characters of the texts of a list of nodes. -/
def contentCharsOf : List Node → List Char
  | [] => []
  | n :: rest => contentChars n ++ contentCharsOf rest

end

/-- The text of a node. -/
def content (n : Node) : String := String.ofList n.contentChars

end Node

end PageExtract.Html
