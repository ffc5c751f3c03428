import PageExtract.Html.Arena
import PageExtract.Html.ElementClass
import PageExtract.Html.Foreign
import PageExtract.Html.OldLayout

/-!
# The state of construction

The tree is built token by token.  What a token does depends on the *mode*,
which says what part of a document is being read, and on the *open elements*,
those whose end has not come yet.  They form a stack, innermost first.

Elements that format text are also kept in a list of their own, since they go on
formatting where an end tag in the wrong place has closed them.  A marker in
that list shuts off what came before it, for instance at the start of a cell.

New nodes go into the innermost open element.  Where that is a part of a table
that may not hold them, and `foster` is set, they go before the table.
-/

namespace PageExtract.Html

/-- The parts of a document, as far as tags are treated apart in them. -/
inductive Mode where
  | initial
  | beforeHtml
  | beforeHead
  | inHead
  | inHeadNoscript
  | afterHead
  | inBody
  | text
  | inTable
  | inTableText
  | inCaption
  | inColumnGroup
  | inTableBody
  | inRow
  | inCell
  | inTemplate
  | afterBody
  | inFrameset
  | afterFrameset
  | afterAfterBody
  | afterAfterFrameset
  deriving DecidableEq, Repr

/-- An entry of the list of formatting elements. -/
inductive Formatting where
  /-- What came before is shut off. -/
  | marker
  /-- An element with the tag that made it. -/
  | element (id : Nat) (tag : StartTag)

/-- The state of construction. -/
structure Builder where
  /-- The nodes. -/
  arena : Arena := {}
  /-- The part of the document that is being read. -/
  mode : Mode := .initial
  /-- The mode to go back to after text. -/
  returnMode : Mode := .initial
  /-- The modes of the open templates, innermost first. -/
  templateModes : List Mode := []
  /-- The open elements, innermost first. -/
  stack : List Nat := []
  /-- The formatting elements, latest first. -/
  formatting : List Formatting := []
  /-- The head. -/
  head : Option Nat := none
  /-- The open form. -/
  form : Option Nat := none
  /-- Whether a frameset may still come. -/
  framesetOk : Bool := true
  /-- Whether nodes that a table may not hold go before it. -/
  foster : Bool := false
  /-- Whether old layout rules hold. -/
  oldLayout : Bool := false
  /-- Characters of a table that have not been placed, latest first. -/
  tableText : List (List Char) := []
  /-- Whether a line feed that comes next is dropped. -/
  skipNewline : Bool := false
  /-- How the characters that follow are read. -/
  reading : Reading := .markup
  /-- The name of the element whose text is read. -/
  readingEnd : String := ""

/-- A step of construction. -/
abbrev Build := StateM Builder

/-- What is left to do with a token. -/
inductive Outcome where
  /-- Nothing. -/
  | done
  /-- Treat it again in the mode that holds now. -/
  | again
  /-- Treat it by the rules of a mode. -/
  | by (mode : Mode)

namespace Build

/-- Moves to a mode. -/
def setMode (mode : Mode) : Build Unit := modify fun b => { b with mode }

/-- Moves to a mode and treats the token there. -/
def againIn (mode : Mode) : Build Outcome := do
  setMode mode
  return .again

/-- Changes the tree. -/
def onArena (f : Arena → Arena) : Build Unit := modify fun b => { b with arena := f b.arena }

/-- Adds a node that has no parent. -/
def newNode (item : Item) : Build Nat :=
  modifyGet fun b =>
    let (id, arena) := b.arena.add item
    (id, { b with arena })

/-- The name of an element. -/
def nameOf (id : Nat) : Build ElementName := return (← get).arena.name id

/-- The innermost open element. -/
def current? : Build (Option Nat) := return (← get).stack.head?

/-- The name of the innermost open element. -/
def currentName : Build ElementName := do
  match ← current? with
  | some id => nameOf id
  | none => return ⟨.html, ""⟩

/-- Whether the innermost open element is one of some elements of HTML. -/
def currentIsAny (names : List String) : Build Bool := do
  let e ← currentName
  return e.vocabulary == .html && names.contains e.name

/-- Whether the innermost open element is a certain element of HTML. -/
def currentIs (name : String) : Build Bool := currentIsAny [name]

/-! ## The stack -/

/-- Closes the innermost open element. -/
def pop : Build Unit := modify fun b => { b with stack := b.stack.drop 1 }

/-- Opens an element. -/
def push (id : Nat) : Build Unit := modify fun b => { b with stack := id :: b.stack }

/-- Takes an element out of the stack. -/
def unstack (id : Nat) : Build Unit := modify fun b => { b with stack := b.stack.filter (· != id) }

/-- Closes open elements while `p` holds of the innermost. -/
def popWhile (p : ElementName → Bool) : Build Unit :=
  modify fun b => { b with stack := b.stack.dropWhile fun id => p (b.arena.name id) }

/-- Closes open elements up to one of some elements of HTML, which is closed too. -/
def popThroughAny (names : List String) : Build Unit := do
  popWhile fun e => !(e.vocabulary == .html && names.contains e.name)
  pop

/-- Closes open elements up to an element of HTML, which is closed too. -/
def popThrough (name : String) : Build Unit := popThroughAny [name]

/-- Closes open elements up to one of some elements of HTML, which stay open. -/
def popTo (names : List String) : Build Unit :=
  popWhile fun e => !(e.vocabulary == .html && names.contains e.name)

/-- Whether an element that `p` holds of is open within a range. -/
def inRangeBy (a : Arena) (range : Range) (p : Nat → Bool) : List Nat → Bool
  | [] => false
  | id :: rest =>
      if p id then true
      else if (a.name id).bounds range then false
      else inRangeBy a range p rest

/-- Whether one of some elements of HTML is open within a range. -/
def hasAny (range : Range) (names : List String) : Build Bool := do
  let b ← get
  return inRangeBy b.arena range
    (fun id => (b.arena.name id).vocabulary == .html && names.contains (b.arena.name id).name)
    b.stack

/-- Whether an element of HTML is open within a range. -/
def has (range : Range) (name : String) : Build Bool := hasAny range [name]

/-- Whether a certain node is open within the normal range. -/
def hasNode (id : Nat) : Build Bool := do
  let b ← get
  return inRangeBy b.arena .normal (· == id) b.stack

/-- Whether an element of HTML is open at all. -/
def isOpen (name : String) : Build Bool := do
  let b ← get
  return b.stack.any fun id => b.arena.name id == htmlName name

/-- Closes elements whose end tag is implied, except those of one name. -/
def closeImpliedExcept (name : String) : Build Unit :=
  popWhile fun e => e.vocabulary == .html && e.name != name && impliedNames.contains e.name

/-- Closes elements whose end tag is implied. -/
def closeImplied : Build Unit := closeImpliedExcept ""

/-- Closes elements whose end tag is implied where a template ends. -/
def closeThoroughlyImplied : Build Unit :=
  popWhile fun e => e.vocabulary == .html && thoroughlyImpliedNames.contains e.name

/-- Closes an open paragraph. -/
def closeParagraph : Build Unit := do
  closeImpliedExcept "p"
  popThrough "p"

/-- Closes a paragraph that a block would stand in. -/
def endParagraph : Build Unit := do
  if ← has .button "p" then closeParagraph

/-- Forgets the formatting elements back to the last marker. -/
def clearToMarker : Build Unit :=
  modify fun b => { b with
    formatting := (b.formatting.dropWhile fun f => match f with
      | .marker => false
      | .element .. => true).drop 1 }

/-- Shuts off the formatting elements that there are. -/
def putMarker : Build Unit := modify fun b => { b with formatting := .marker :: b.formatting }

/-! ## Inserting -/

/-- A place for a new node. -/
inductive Place where
  /-- At the end of a node. -/
  | within (parent : Nat)
  /-- Before a node. -/
  | before (sibling : Nat)

/-- Where nodes go that the table they stand in may not hold. -/
def fosterPlace (b : Builder) : Place :=
  let isTable (id : Nat) : Bool := b.arena.name id == htmlName "table"
  let isTemplate (id : Nat) : Bool := b.arena.name id == htmlName "template"
  match b.stack.find? fun id => isTable id || isTemplate id with
  | none => .within (b.arena.inside (b.stack.getLast?.getD Arena.document))
  | some id =>
      if isTemplate id then .within (b.arena.inside id)
      else match (b.arena.get id).parent with
        | some _ => .before id
        | none =>
          let below := (b.stack.dropWhile (· != id)).drop 1
          .within (b.arena.inside (below.head?.getD Arena.document))

/-- Where a node goes that is meant for some element. -/
def placeIn (b : Builder) (target : Nat) : Place :=
  let e := b.arena.name target
  let isTablePart := e.vocabulary == .html &&
    ["table", "tbody", "tfoot", "thead", "tr"].contains e.name
  if b.foster && isTablePart then fosterPlace b else .within (b.arena.inside target)

/-- Where a new node goes. -/
def place (b : Builder) : Place := placeIn b (b.stack.head?.getD Arena.document)

/-- Puts a node at a place. -/
def put (p : Place) (id : Nat) : Build Unit :=
  onArena fun a => match p with
    | .within parent => a.append parent id
    | .before sibling => a.insertBefore sibling id

/-- Adds characters where new nodes go. -/
def insertChars (chars : List Char) : Build Unit := do
  let b ← get
  let content := String.ofList chars
  match place b with
  | .within parent =>
      if parent = Arena.document then return
      else onArena fun a => a.appendText parent content
  | .before sibling => onArena fun a => a.insertTextBefore sibling content

/-- Adds a comment where new nodes go. -/
def insertComment (content : String) : Build Unit := do
  let id ← newNode (.comment content)
  put (place (← get)) id

/-- Adds a comment at the end of a node. -/
def insertCommentIn (parent : Nat) (content : String) : Build Unit := do
  let id ← newNode (.comment content)
  onArena fun a => a.append parent id

/-- Makes an element.  A template gets contents of its own. -/
def newElement (name : ElementName) (attrs : List Attr) : Build Nat := do
  if name = htmlName "template" then
    let contents ← newNode .root
    newNode (.element name attrs (some contents))
  else newNode (.element name attrs none)

/-- Adds an element where new nodes go, without opening it. -/
def insertClosed (name : ElementName) (attrs : List Attr) : Build Nat := do
  let id ← newElement name attrs
  put (place (← get)) id
  return id

/-- Adds an element where new nodes go and opens it. -/
def insertNamed (name : ElementName) (attrs : List Attr) : Build Nat := do
  let id ← insertClosed name attrs
  push id
  return id

/-- Adds the element of a tag and opens it. -/
def insertTag (tag : StartTag) : Build Unit := do
  let _ ← insertNamed (htmlName tag.name) tag.attrs

/-- Adds the element of a tag, which holds nothing. -/
def insertVoid (tag : StartTag) : Build Unit := do
  let _ ← insertClosed (htmlName tag.name) tag.attrs

/-- Adds an element of HTML without attributes and opens it. -/
def insertPlain (name : String) : Build Nat := insertNamed (htmlName name) []

/-- Adds the element of a tag and reads what follows as its text. -/
def insertText (tag : StartTag) (reading : Reading) : Build Unit := do
  insertTag tag
  modify fun b =>
    { b with reading, readingEnd := tag.name, returnMode := b.mode, mode := .text }

/-- Says that no frameset may come any more. -/
def noFrameset : Build Unit := modify fun b => { b with framesetOk := false }

/-! ## Finding the mode again -/

/-- The mode that fits the open elements. -/
def fittingMode (b : Builder) : List Nat → Mode
  | [] => .inBody
  | id :: rest =>
      let e := b.arena.name id
      let last := rest.isEmpty
      let name := if e.vocabulary == .html then e.name else ""
      if (name == "td" || name == "th") && !last then .inCell
      else if name == "tr" then .inRow
      else if name == "tbody" || name == "thead" || name == "tfoot" then .inTableBody
      else if name == "caption" then .inCaption
      else if name == "colgroup" then .inColumnGroup
      else if name == "table" then .inTable
      else if name == "template" then b.templateModes.head?.getD .inBody
      else if name == "head" && !last then .inHead
      else if name == "body" then .inBody
      else if name == "frameset" then .inFrameset
      else if name == "html" then (if b.head.isNone then .beforeHead else .afterHead)
      else if last then .inBody
      else fittingMode b rest

/-- Moves to the mode that fits the open elements. -/
def resetMode : Build Unit := modify fun b => { b with mode := fittingMode b b.stack }

end Build

end PageExtract.Html
