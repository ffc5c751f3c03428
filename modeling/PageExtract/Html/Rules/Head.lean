import PageExtract.Html.Formatting

/-!
# Before the body

What a token does before the body of a document has started.  The elements
`html` and `head` are made even if no tag asks for them.  A tag that belongs into
the body ends the head.

Each function here gives the rules of one mode.
-/

namespace PageExtract.Html.Build

/-- Whether an end tag of this name has an effect before the body. -/
def endsHead (name : String) : Bool := ["head", "body", "html", "br"].contains name

/-- Ends the innermost template. -/
def endTemplate : Build Unit := do
  if ← isOpen "template" then
    closeThoroughlyImplied
    popThrough "template"
    clearToMarker
    modify fun b => { b with templateModes := b.templateModes.drop 1 }
    resetMode

/-- Starts a template. -/
def startTemplate (tag : StartTag) : Build Unit := do
  insertTag tag
  putMarker
  modify fun b => { b with
    framesetOk := false
    mode := .inTemplate
    templateModes := .inTemplate :: b.templateModes }

/-- At the very start. -/
def initial : Token → Build Outcome
  | .space _ => return .done
  | .comment c => do
      insertCommentIn Arena.document c
      return .done
  | .doctype d => do
      let id ← newNode (.doctype (d.name.getD ""))
      onArena fun a => a.append Arena.document id
      modify fun b => { b with oldLayout := d.hasOldLayout }
      setMode .beforeHtml
      return .done
  | _ => do
      modify fun b => { b with oldLayout := true }
      againIn .beforeHtml

/-- Makes the outermost element. -/
def startHtml (attrs : List Attr) : Build Unit := do
  let id ← newElement (htmlName "html") attrs
  onArena fun a => a.append Arena.document id
  push id

/-- Before the outermost element. -/
def beforeHtml : Token → Build Outcome
  | .space _ => return .done
  | .doctype _ => return .done
  | .comment c => do
      insertCommentIn Arena.document c
      return .done
  | .startTag tag => do
      if tag.name = "html" then
        startHtml tag.attrs
        setMode .beforeHead
        return .done
      else
        startHtml []
        againIn .beforeHead
  | .endTag name => do
      if endsHead name then
        startHtml []
        againIn .beforeHead
      else return .done
  | _ => do
      startHtml []
      againIn .beforeHead

/-- Makes the head. -/
def startHead (attrs : List Attr) : Build Unit := do
  let id ← insertNamed (htmlName "head") attrs
  modify fun b => { b with head := some id }
  setMode .inHead

/-- Makes the head and treats the token there. -/
def impliedHead : Build Outcome := do
  startHead []
  return .again

/-- Before the head. -/
def beforeHead : Token → Build Outcome
  | .space _ => return .done
  | .doctype _ => return .done
  | .comment c => do
      insertComment c
      return .done
  | .startTag tag =>
      if tag.name = "html" then return .by .inBody
      else if tag.name = "head" then do
        startHead tag.attrs
        return .done
      else impliedHead
  | .endTag name => if endsHead name then impliedHead else return .done
  | _ => impliedHead

/-- Ends the head and treats the token after it. -/
def leaveHead : Build Outcome := do
  pop
  againIn .afterHead

/-- In the head. -/
def inHead : Token → Build Outcome
  | .space cs => do
      insertChars cs
      return .done
  | .doctype _ => return .done
  | .comment c => do
      insertComment c
      return .done
  | .startTag tag => do
      match tag.name with
      | "html" => return .by .inBody
      | "base" | "basefont" | "bgsound" | "link" | "meta" =>
        insertVoid tag
        return .done
      | "title" =>
        insertText tag .escapable
        return .done
      | "noscript" =>
        insertTag tag
        setMode .inHeadNoscript
        return .done
      | "noframes" | "style" =>
        insertText tag .raw
        return .done
      | "script" =>
        insertText tag .script
        return .done
      | "template" =>
        startTemplate tag
        return .done
      | "head" => return .done
      | _ => leaveHead
  | .endTag name => do
      match name with
      | "head" =>
        pop
        setMode .afterHead
        return .done
      | "body" | "html" | "br" => leaveHead
      | "template" =>
        endTemplate
        return .done
      | _ => return .done
  | _ => leaveHead

/-- In the head, in content for readers without scripts. -/
def inHeadNoscript : Token → Build Outcome := fun t =>
  let leave : Build Outcome := do
    pop
    againIn .inHead
  match t with
  | .doctype _ => return .done
  | .space _ => inHead t
  | .comment _ => inHead t
  | .startTag tag =>
      match tag.name with
      | "html" => return .by .inBody
      | "basefont" | "bgsound" | "link" | "meta" | "noframes" | "style" => inHead t
      | "head" | "noscript" => return .done
      | _ => leave
  | .endTag name =>
      match name with
      | "noscript" => do
        pop
        setMode .inHead
        return .done
      | "br" => leave
      | _ => return .done
  | _ => leave

/-- Makes the body and treats the token there. -/
def impliedBody : Build Outcome := do
  let _ ← insertPlain "body"
  againIn .inBody

/-- Between the head and the body. -/
def afterHead : Token → Build Outcome := fun t =>
  match t with
  | .space cs => do
      insertChars cs
      return .done
  | .doctype _ => return .done
  | .comment c => do
      insertComment c
      return .done
  | .startTag tag => do
      match tag.name with
      | "html" => return .by .inBody
      | "body" =>
        insertTag tag
        noFrameset
        setMode .inBody
        return .done
      | "frameset" =>
        insertTag tag
        setMode .inFrameset
        return .done
      | "head" => return .done
      | name =>
        if headNames.contains name then
          match (← get).head with
          | none => return .done
          | some head =>
            push head
            let outcome ← inHead t
            unstack head
            return outcome
        else impliedBody
  | .endTag name =>
      match name with
      | "template" => inHead t
      | "body" | "html" | "br" => impliedBody
      | _ => return .done
  | _ => impliedBody

end PageExtract.Html.Build
