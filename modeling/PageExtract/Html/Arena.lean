import PageExtract.Html.Node

/-!
# A tree under construction

While a document is read, nodes are added, moved and taken out.  An *arena*
holds them in the order in which they were made, and a node is known by its
place there.  Each knows its parent and its children.  The first node is the
document itself.

`Arena.freeze` makes a list of nodes out of the finished tree.
-/

namespace PageExtract.Html

/-- What a node under construction is. -/
inductive Item where
  /-- The document, or the contents of a template. -/
  | root
  /-- An element.  The contents of a template have a root of their own. -/
  | element (name : ElementName) (attrs : List Attr) (contents : Option Nat)
  | text (content : String)
  | comment (content : String)
  | doctype (name : String)

/-- A node under construction. -/
structure Entry where
  /-- What it is. -/
  item : Item
  /-- Its parent. -/
  parent : Option Nat := none
  /-- Its children, in order. -/
  children : Array Nat := #[]

instance : Inhabited Entry := ⟨{ item := .root }⟩

/-- The nodes of a tree under construction. -/
structure Arena where
  /-- The nodes. -/
  entries : Array Entry := #[{ item := .root }]

namespace Arena

/-- The node that stands for the document. -/
def document : Nat := 0

/-- A node. -/
def get (a : Arena) (id : Nat) : Entry := a.entries.getD id default

/-- Adds a node that has no parent. -/
def add (a : Arena) (item : Item) : Nat × Arena :=
  (a.entries.size, ⟨a.entries.push { item }⟩)

/-- Changes a node. -/
def update (a : Arena) (id : Nat) (f : Entry → Entry) : Arena := ⟨a.entries.modify id f⟩

/-- The name of an element, and that of an element without a name for other nodes. -/
def name (a : Arena) (id : Nat) : ElementName :=
  match (a.get id).item with
  | .element name _ _ => name
  | _ => htmlRoot
where
  /-- The name of what is no element. -/
  htmlRoot : ElementName := ⟨.html, ""⟩

/-- The attributes of an element. -/
def attrs (a : Arena) (id : Nat) : List Attr :=
  match (a.get id).item with
  | .element _ attrs _ => attrs
  | _ => []

/-- Where children of a node are put: into the contents of a template. -/
def inside (a : Arena) (id : Nat) : Nat :=
  match (a.get id).item with
  | .element _ _ (some contents) => contents
  | _ => id

/-- Takes a node out of its parent. -/
def detach (a : Arena) (id : Nat) : Arena :=
  match (a.get id).parent with
  | none => a
  | some parent =>
      (a.update parent fun e => { e with children := e.children.filter (· != id) }).update id
        fun e => { e with parent := none }

/-- Makes a node the last child of another. -/
def append (a : Arena) (parent id : Nat) : Arena :=
  let a := a.detach id
  (a.update parent fun e => { e with children := e.children.push id }).update id
    fun e => { e with parent := some parent }

/-- Puts a node before one of its new siblings. -/
def insertBefore (a : Arena) (sibling id : Nat) : Arena :=
  let a := a.detach id
  match (a.get sibling).parent with
  | none => a
  | some parent =>
      let put (children : Array Nat) : Array Nat :=
        (children.toList.flatMap fun c => if c = sibling then [id, c] else [c]).toArray
      (a.update parent fun e => { e with children := put e.children }).update id
        fun e => { e with parent := some parent }

/-- Moves all children of a node to the end of another. -/
def moveChildren (a : Arena) (source target : Nat) : Arena :=
  (a.get source).children.foldl (fun a id => a.append target id) a

/-- The sibling right before a node. -/
def previous (a : Arena) (id : Nat) : Option Nat := do
  let parent ← (a.get id).parent
  let before := (a.get parent).children.toList.takeWhile (· != id)
  before.getLast?

/-- Lengthens a text node, unless the node is something else. -/
def lengthen? (a : Arena) (id : Option Nat) (content : String) : Option Arena := do
  let id ← id
  match (a.get id).item with
  | .text old => some (a.update id fun e => { e with item := .text (old ++ content) })
  | _ => none

/-- Adds a text at the end of a node.  It joins a text that stands there. -/
def appendText (a : Arena) (parent : Nat) (content : String) : Arena :=
  match a.lengthen? (a.get parent).children.back? content with
  | some a => a
  | none =>
      let (id, a) := a.add (.text content)
      a.append parent id

/-- Adds a text before a node.  It joins a text that stands there. -/
def insertTextBefore (a : Arena) (sibling : Nat) (content : String) : Arena :=
  match a.lengthen? (a.previous sibling) content with
  | some a => a
  | none =>
      let (id, a) := a.add (.text content)
      a.insertBefore sibling id

/-- Gives an element the attributes it does not have. -/
def addAttrs (a : Arena) (id : Nat) (attrs : List Attr) : Arena :=
  a.update id fun e => match e.item with
    | .element name old contents =>
      let new := attrs.filter fun x => !old.any fun y => y.name == x.name
      { e with item := .element name (old ++ new) contents }
    | _ => e

/-- The node at some place and what is below it, to a depth of `levels`. -/
def freezeNode (a : Arena) : Nat → Nat → List Node
  | 0, _ => []
  | levels + 1, id =>
      let e := a.get id
      match e.item with
      | .root => []
      | .element name attrs _ =>
        [.element name attrs (e.children.toList.flatMap (a.freezeNode levels))]
      | .text s => [.text s]
      | .comment s => [.comment s]
      | .doctype s => [.doctype s]

/-- The nodes of the document.  No tree is deeper than it has nodes. -/
def freeze (a : Arena) : List Node :=
  (a.get document).children.toList.flatMap (a.freezeNode a.entries.size)

end Arena

end PageExtract.Html
