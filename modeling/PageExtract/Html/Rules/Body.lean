import PageExtract.Html.Rules.Head

/-!
# In the body

What a token does in the body of a document.  A block ends an open paragraph.
Items of lists end one another.  Formatting elements that have been closed by
accident are opened again before a text or an element that they format.
-/

namespace PageExtract.Html.Build

/-- Ends an item that another item of the same kind ends.  `names` are those of
the kind. -/
def endItem (names : List String) : Build Unit := do
  let b ← get
  let nameOf (id : Nat) : ElementName := b.arena.name id
  let isItem (id : Nat) : Bool :=
    (nameOf id).vocabulary == .html && names.contains (nameOf id).name
  let stops (id : Nat) : Bool :=
    (nameOf id).isSpecial &&
      !((nameOf id).vocabulary == .html && ["address", "div", "p"].contains (nameOf id).name)
  match b.stack.find? fun id => isItem id || stops id with
  | none => return
  | some id =>
    if isItem id then
      closeImpliedExcept (nameOf id).name
      popThrough (nameOf id).name

/-- Treats the end tag of an element that must be open in a range. -/
def endWithin (range : Range) (names : List String) (except : String) : Build Unit := do
  if ← hasAny range names then
    closeImpliedExcept except
    popThroughAny names

/-- Adds an element that formatting may surround. -/
def insertFormatted (tag : StartTag) : Build Unit := do
  reopen
  insertTag tag

/-- Adds an element that formatting may surround and that holds nothing. -/
def insertFormattedVoid (tag : StartTag) : Build Unit := do
  reopen
  insertVoid tag

/-- Adds an element of another vocabulary. -/
def insertForeign (v : Vocabulary) (tag : StartTag) : Build Unit := do
  let attrs := tag.attrs.map (Attr.inVocabulary v)
  let name := elementIn v tag.name
  if tag.selfClosing then
    let _ ← insertClosed name attrs
  else
    let _ ← insertNamed name attrs

/-- Closes an open selection list. -/
def endSelect : Build Bool := do
  if ← has .normal "select" then
    popThrough "select"
    return true
  else return false

/-- Whether a tag is that of a hidden input. -/
def isHiddenInput (tag : StartTag) : Bool :=
  tag.attrs.any fun a => a.name == "type" &&
    a.value.toList.map Char.toLower == "hidden".toList

/-- A start tag in the body. -/
def startInBody (tag : StartTag) : Build Outcome := do
  match tag.name with
  | "html" =>
    if !(← isOpen "template") then
      match (← get).stack.getLast? with
      | some id => onArena fun a => a.addAttrs id tag.attrs
      | none => return .done
    return .done
  | "body" =>
    let b ← get
    match b.stack.reverse with
    | _ :: second :: _ =>
      if b.arena.name second == htmlName "body" && !(← isOpen "template") then
        noFrameset
        onArena fun a => a.addAttrs second tag.attrs
      return .done
    | _ => return .done
  | "frameset" =>
    let b ← get
    match b.stack.reverse with
    | first :: second :: _ =>
      if b.arena.name second == htmlName "body" && b.framesetOk then
        onArena fun a => a.detach second
        modify fun b => { b with stack := [first] }
        insertTag tag
        setMode .inFrameset
      return .done
    | _ => return .done
  | "pre" | "listing" =>
    endParagraph
    insertTag tag
    modify fun b => { b with skipNewline := true, framesetOk := false }
    return .done
  | "form" =>
    let inTemplate ← isOpen "template"
    if (← get).form.isSome && !inTemplate then return .done
    endParagraph
    insertTag tag
    if !inTemplate then modify fun b => { b with form := b.stack.head? }
    return .done
  | "li" =>
    noFrameset
    endItem ["li"]
    endParagraph
    insertTag tag
    return .done
  | "dd" | "dt" =>
    noFrameset
    endItem ["dd", "dt"]
    endParagraph
    insertTag tag
    return .done
  | "plaintext" =>
    endParagraph
    insertTag tag
    modify fun b => { b with reading := .plain }
    return .done
  | "button" =>
    endWithin .normal ["button"] ""
    insertFormatted tag
    noFrameset
    return .done
  | "a" =>
    let b ← get
    match findFormatting b "a" b.formatting with
    | some (id, _) =>
      closeFormatting "a"
      forgetFormatting id
      unstack id
    | none => pure ()
    reopen
    insertFormatting tag
    return .done
  | "nobr" =>
    reopen
    if ← has .normal "nobr" then
      closeFormatting "nobr"
      reopen
    insertFormatting tag
    return .done
  | "applet" | "marquee" | "object" =>
    insertFormatted tag
    putMarker
    noFrameset
    return .done
  | "table" =>
    if !(← get).oldLayout then endParagraph
    insertTag tag
    noFrameset
    setMode .inTable
    return .done
  | "area" | "br" | "embed" | "img" | "keygen" | "wbr" =>
    insertFormattedVoid tag
    noFrameset
    return .done
  | "image" =>
    insertFormattedVoid { tag with name := "img" }
    noFrameset
    return .done
  | "input" =>
    let _ ← endSelect
    insertFormattedVoid tag
    if !isHiddenInput tag then noFrameset
    return .done
  | "param" | "source" | "track" =>
    insertVoid tag
    return .done
  | "hr" =>
    endParagraph
    if ← has .normal "select" then closeImplied
    insertVoid tag
    noFrameset
    return .done
  | "textarea" =>
    insertText tag .escapable
    modify fun b => { b with skipNewline := true, framesetOk := false }
    return .done
  | "xmp" =>
    endParagraph
    reopen
    noFrameset
    insertText tag .raw
    return .done
  | "iframe" =>
    noFrameset
    insertText tag .raw
    return .done
  | "noembed" =>
    insertText tag .raw
    return .done
  | "select" =>
    if ← endSelect then return .done
    insertFormatted tag
    noFrameset
    return .done
  | "option" =>
    if ← has .normal "select" then closeImpliedExcept "optgroup"
    else if ← currentIs "option" then pop
    insertFormatted tag
    return .done
  | "optgroup" =>
    if ← has .normal "select" then closeImplied
    else if ← currentIs "option" then pop
    insertFormatted tag
    return .done
  | "rb" | "rtc" =>
    if ← has .normal "ruby" then closeImplied
    insertTag tag
    return .done
  | "rp" | "rt" =>
    if ← has .normal "ruby" then closeImpliedExcept "rtc"
    insertTag tag
    return .done
  | "math" =>
    reopen
    insertForeign .mathml tag
    return .done
  | "svg" =>
    reopen
    insertForeign .svg tag
    return .done
  | "frame" | "head" => return .done
  | name =>
    if headNames.contains name then return .by .inHead
    else if blockNames.contains name then
      endParagraph
      insertTag tag
      return .done
    else if headingNames.contains name then
      endParagraph
      if ← currentIsAny headingNames then pop
      insertTag tag
      return .done
    else if formattingNames.contains name then
      reopen
      insertFormatting tag
      return .done
    else if tablePartNames.contains name then return .done
    else
      insertFormatted tag
      return .done

/-- Ends the open form. -/
def endForm : Build Unit := do
  if ← isOpen "template" then endWithin .normal ["form"] ""
  else
    let form := (← get).form
    modify fun b => { b with form := none }
    match form with
    | none => return
    | some id =>
      if ← hasNode id then
        closeImplied
        unstack id

/-- An end tag in the body. -/
def endInBody (name : String) : Build Outcome := do
  match name with
  | "template" => return .by .inHead
  | "body" =>
    if ← has .normal "body" then setMode .afterBody
    return .done
  | "html" =>
    if ← has .normal "body" then againIn .afterBody else return .done
  | "form" =>
    endForm
    return .done
  | "p" =>
    if !(← has .button "p") then
      let _ ← insertPlain "p"
    closeParagraph
    return .done
  | "li" =>
    endWithin .item ["li"] "li"
    return .done
  | "dd" | "dt" =>
    endWithin .normal [name] name
    return .done
  | "applet" | "marquee" | "object" =>
    if ← has .normal name then
      closeImplied
      popThrough name
      clearToMarker
    return .done
  | "br" => startInBody { name := "br", attrs := [], selfClosing := false }
  | name =>
    if closableNames.contains name then
      endWithin .normal [name] ""
      return .done
    else if headingNames.contains name then
      endWithin .normal headingNames ""
      return .done
    else if formattingNames.contains name then
      closeFormatting name
      return .done
    else
      closeOrdinary name
      return .done

/-- In the body. -/
def inBody : Token → Build Outcome
  | .null => return .done
  | .space cs => do
      reopen
      insertChars cs
      return .done
  | .word cs => do
      reopen
      insertChars cs
      noFrameset
      return .done
  | .comment c => do
      insertComment c
      return .done
  | .doctype _ => return .done
  | .startTag tag => startInBody tag
  | .endTag name => endInBody name
  | .eof => do
      if (← get).templateModes.isEmpty then return .done else return .by .inTemplate

/-- In the text of an element. -/
def inText : Token → Build Outcome
  | .space cs => do
      insertChars cs
      return .done
  | .word cs => do
      insertChars cs
      return .done
  | .endTag _ => do
      pop
      modify fun b => { b with mode := b.returnMode, reading := .markup }
      return .done
  | .eof => do
      pop
      modify fun b => { b with mode := b.returnMode, reading := .markup }
      return .again
  | _ => return .done

end PageExtract.Html.Build
