import PageExtract.Html.Builder

/-!
# Elements that format text

An element that formats text goes on doing so when it is closed by accident.
`reopen` opens such elements again before more text comes.  `closeFormatting`
treats the end tag of one.  If a block has been opened inside, the tree is
rearranged so that the element ends before the block and another of its kind
starts inside it.  At most eight blocks are treated so.

No more than three elements that were made by equal tags are kept.
-/

namespace PageExtract.Html.Build

/-- Whether an entry is a certain element. -/
def isEntryOf (id : Nat) : Formatting → Bool
  | .marker => false
  | .element x _ => x == id

/-- Whether an element is among the formatting elements. -/
def isFormatting (b : Builder) (id : Nat) : Bool := b.formatting.any (isEntryOf id)

/-- Forgets a formatting element. -/
def forgetFormatting (id : Nat) : Build Unit :=
  modify fun b => { b with formatting := b.formatting.filter (!isEntryOf id ·) }

/-- Whether two tags have the same name and the same attributes in any order. -/
def sameTag (s t : StartTag) : Bool :=
  let has (attrs : List Attr) (a : Attr) : Bool :=
    attrs.any fun x => x.name == a.name && x.value == a.value
  s.name == t.name && s.attrs.length == t.attrs.length && s.attrs.all (has t.attrs)

/-- A list of formatting elements, latest first, without the third element that
an equal tag made. -/
def dropThird (tag : StartTag) : Nat → List Formatting → List Formatting
  | _, [] => []
  | _, .marker :: rest => .marker :: rest
  | seen, .element id t :: rest =>
      if sameTag t tag then
        if seen = 2 then rest else .element id t :: dropThird tag (seen + 1) rest
      else .element id t :: dropThird tag seen rest

/-- Adds the element of a tag, opens it and remembers it as a formatting element. -/
def insertFormatting (tag : StartTag) : Build Unit := do
  let id ← insertNamed (htmlName tag.name) tag.attrs
  modify fun b =>
    { b with formatting := .element id tag :: dropThird tag 0 b.formatting }

/-- Opens formatting elements again, given earliest first, and lists them latest first. -/
def reopenAll : List Formatting → List Formatting → Build (List Formatting)
  | done, [] => return done
  | done, .marker :: rest => reopenAll (.marker :: done) rest
  | done, .element _ tag :: rest => do
      let id ← insertNamed (htmlName tag.name) tag.attrs
      reopenAll (.element id tag :: done) rest

/-- Opens the formatting elements again that have been closed by accident. -/
def reopen : Build Unit := do
  let b ← get
  let isClosed (f : Formatting) : Bool := match f with
    | .marker => false
    | .element id _ => !b.stack.contains id
  let closed := b.formatting.takeWhile isClosed
  if closed.isEmpty then return
  let again ← reopenAll [] closed.reverse
  modify fun b => { b with formatting := again ++ b.formatting.drop closed.length }

/-- Treats an end tag by closing the innermost open element of its name, unless
a special element is in the way. -/
def closeOrdinary (name : String) : Build Unit := do
  let b ← get
  let isTarget (id : Nat) : Bool := b.arena.name id == htmlName name
  match b.stack.find? fun id => isTarget id || (b.arena.name id).isSpecial with
  | none => return
  | some id =>
    if isTarget id then
      closeImpliedExcept name
      modify fun b => { b with stack := (b.stack.dropWhile (· != id)).drop 1 }

/-- The latest formatting element of a name, back to the last marker. -/
def findFormatting (b : Builder) (name : String) : List Formatting → Option (Nat × StartTag)
  | [] => none
  | .marker :: _ => none
  | .element id tag :: rest =>
      if tag.name == name then some (id, tag) else findFormatting b name rest

/-- Where a new formatting element is put in the list. -/
inductive Bookmark where
  /-- In place of an element. -/
  | replacing (id : Nat)
  /-- Right after an element. -/
  | after (id : Nat)

/-- Goes up the elements between a block and the formatting element it stands
in.  Those that format text are made anew, so that the block gets copies of
them, and the others are closed.  `last` is what the next copy will hold. -/
def copyBetween (block : Nat) : Nat → Bookmark → Nat → List Nat → Build (Bookmark × Nat)
  | _, mark, last, [] => return (mark, last)
  | steps, mark, last, node :: rest => do
      if 3 ≤ steps then forgetFormatting node
      let entry := (← get).formatting.find? (isEntryOf node)
      match entry with
      | some (.element _ tag) =>
        let copy ← newElement (htmlName tag.name) tag.attrs
        modify fun b => { b with
          formatting := b.formatting.map fun f => if isEntryOf node f then .element copy tag else f
          stack := b.stack.map fun id => if id = node then copy else id }
        onArena fun a => a.append copy last
        copyBetween block (steps + 1) (if last = block then .after copy else mark) copy rest
      | _ =>
        unstack node
        copyBetween block (steps + 1) mark last rest

/-- Puts a formatting element into the list at a bookmark. -/
def putFormatting (mark : Bookmark) (new : Formatting) : List Formatting → List Formatting
  | [] => [new]
  | f :: rest => match mark with
    | .replacing id => if isEntryOf id f then new :: rest else f :: putFormatting mark new rest
    | .after id => if isEntryOf id f then new :: f :: rest else f :: putFormatting mark new rest

/-- Rearranges the tree around a formatting element that holds a block. -/
def splitFormatting (element : Nat) (tag : StartTag) (block : Nat) : Build Unit := do
  let b ← get
  let below := b.stack.takeWhile (· != element)
  let between := (below.dropWhile (· != block)).drop 1
  let ancestor := ((b.stack.dropWhile (· != element)).drop 1).head?.getD Arena.document
  let (mark, last) ← copyBetween block 0 (.replacing element) block between
  onArena fun a => a.detach last
  put (placeIn (← get) ancestor) last
  let copy ← newElement (htmlName tag.name) tag.attrs
  onArena fun a => (a.moveChildren block copy).append block copy
  modify fun b => { b with
    formatting := match mark with
      | .replacing _ => putFormatting mark (.element copy tag) b.formatting
      | .after _ =>
        putFormatting mark (.element copy tag) (b.formatting.filter (!isEntryOf element ·))
    stack := (b.stack.filter (· != element)).flatMap fun id =>
      if id = block then [copy, block] else [id] }

/-- Treats the end tag of a formatting element, once for each block inside it. -/
def closeFormattingRounds (name : String) : Nat → Build Unit
  | 0 => return
  | rounds + 1 => do
      let b ← get
      match findFormatting b name b.formatting with
      | none => closeOrdinary name
      | some (element, tag) =>
        if !b.stack.contains element then forgetFormatting element
        else if !(← hasNode element) then return
        else
          let below := b.stack.takeWhile (· != element)
          match below.reverse.find? fun id => (b.arena.name id).isSpecial with
          | none =>
            modify fun b => { b with stack := (b.stack.dropWhile (· != element)).drop 1 }
            forgetFormatting element
          | some block =>
            splitFormatting element tag block
            closeFormattingRounds name rounds

/-- Treats the end tag of a formatting element. -/
def closeFormatting (name : String) : Build Unit := do
  let b ← get
  match b.stack with
  | [] => return
  | id :: _ =>
    if b.arena.name id == htmlName name && !isFormatting b id then pop
    else closeFormattingRounds name 8

end PageExtract.Html.Build
