import PageExtract.Html.Rules.Table

/-!
# Templates, frames, foreign content and the end

What a token does in the contents of a template, in a set of frames, inside SVG
and MathML, and after the body.
-/

namespace PageExtract.Html.Build

/-- Goes on in the contents of a template as in another part of a document. -/
def templateAs (mode : Mode) : Build Outcome := do
  modify fun b => { b with templateModes := mode :: b.templateModes.drop 1 }
  againIn mode

/-- In the contents of a template. -/
def inTemplate : Token → Build Outcome := fun t => do
  match t with
  | .startTag tag =>
    match tag.name with
    | "caption" | "colgroup" | "tbody" | "tfoot" | "thead" => templateAs .inTable
    | "col" => templateAs .inColumnGroup
    | "tr" => templateAs .inTableBody
    | "td" | "th" => templateAs .inRow
    | name => if headNames.contains name then return .by .inHead else templateAs .inBody
  | .endTag name => if name = "template" then return .by .inHead else return .done
  | .eof =>
    if ← isOpen "template" then
      popThrough "template"
      clearToMarker
      modify fun b => { b with templateModes := b.templateModes.drop 1 }
      resetMode
      return .again
    else return .done
  | _ => inBody t

/-- After the body. -/
def afterBody : Token → Build Outcome := fun t => do
  match t with
  | .space _ => inBody t
  | .comment c =>
    insertCommentIn ((← get).stack.getLast?.getD Arena.document) c
    return .done
  | .doctype _ => return .done
  | .startTag tag => if tag.name = "html" then inBody t else againIn .inBody
  | .endTag name =>
    if name = "html" then
      setMode .afterAfterBody
      return .done
    else againIn .inBody
  | .eof => return .done
  | _ => againIn .inBody

/-- In a set of frames. -/
def inFrameset : Token → Build Outcome := fun t => do
  match t with
  | .space cs =>
    insertChars cs
    return .done
  | .comment c =>
    insertComment c
    return .done
  | .startTag tag =>
    match tag.name with
    | "html" => inBody t
    | "frameset" =>
      insertTag tag
      return .done
    | "frame" =>
      insertVoid tag
      return .done
    | "noframes" => inHead t
    | _ => return .done
  | .endTag name =>
    if name = "frameset" && (← get).stack.length != 1 then
      pop
      if !(← currentIs "frameset") then setMode .afterFrameset
    return .done
  | _ => return .done

/-- After a set of frames. -/
def afterFrameset : Token → Build Outcome := fun t => do
  match t with
  | .space cs =>
    insertChars cs
    return .done
  | .comment c =>
    insertComment c
    return .done
  | .startTag tag =>
    match tag.name with
    | "html" => inBody t
    | "noframes" => inHead t
    | _ => return .done
  | .endTag name =>
    if name = "html" then setMode .afterAfterFrameset
    return .done
  | _ => return .done

/-- After the end of the outermost element. -/
def afterAfterBody : Token → Build Outcome := fun t => do
  match t with
  | .comment c =>
    insertCommentIn Arena.document c
    return .done
  | .space _ => inBody t
  | .doctype _ => return .done
  | .eof => return .done
  | .startTag tag => if tag.name = "html" then inBody t else againIn .inBody
  | _ => againIn .inBody

/-- After the end of the outermost element, where it held a set of frames. -/
def afterAfterFrameset : Token → Build Outcome := fun t => do
  match t with
  | .comment c =>
    insertCommentIn Arena.document c
    return .done
  | .space _ => inBody t
  | .startTag tag =>
    match tag.name with
    | "html" => inBody t
    | "noframes" => inHead t
    | _ => return .done
  | _ => return .done

/-- Treats a token by the rules of a mode. -/
def byMode (mode : Mode) (t : Token) : Build Outcome :=
  match mode with
  | .initial => initial t
  | .beforeHtml => beforeHtml t
  | .beforeHead => beforeHead t
  | .inHead => inHead t
  | .inHeadNoscript => inHeadNoscript t
  | .afterHead => afterHead t
  | .inBody => inBody t
  | .text => inText t
  | .inTable => inTable t
  | .inTableText => inTableText t
  | .inCaption => inCaption t
  | .inColumnGroup => inColumnGroup t
  | .inTableBody => inTableBody t
  | .inRow => inRow t
  | .inCell => inCell t
  | .inTemplate => inTemplate t
  | .afterBody => afterBody t
  | .inFrameset => inFrameset t
  | .afterFrameset => afterFrameset t
  | .afterAfterBody => afterAfterBody t
  | .afterAfterFrameset => afterAfterFrameset t

/-! ## Foreign content -/

/-- Whether text and tags inside an element of another vocabulary are HTML. -/
def holdsHtml (a : Arena) (id : Nat) : Bool :=
  let e := a.name id
  e.isSvgHtml ||
    e == ⟨.mathml, "annotation-xml"⟩ &&
      (a.attrs id).any fun x => x.name == "encoding" &&
        ["text/html", "application/xhtml+xml"].any fun known =>
          known.toList == x.value.toList.map Char.toLower

/-- Whether a token is treated by the rules for foreign content. -/
def isForeign (b : Builder) (t : Token) : Bool :=
  match b.stack with
  | [] => false
  | id :: _ =>
    let e := b.arena.name id
    if e.vocabulary == .html then false
    else match t with
      | .eof => false
      | .startTag tag =>
        !(e.isMathText && tag.name != "mglyph" && tag.name != "malignmark") &&
        !(e == ⟨.mathml, "annotation-xml"⟩ && tag.name == "svg") &&
        !holdsHtml b.arena id
      | .space _ | .word _ | .null => !e.isMathText && !holdsHtml b.arena id
      | _ => true

/-- Leaves foreign content and treats the token in the mode that holds. -/
def breakOut (t : Token) : Build Outcome := do
  let b ← get
  let stays (id : Nat) : Bool :=
    let e := b.arena.name id
    e.vocabulary == .html || e.isMathText || e.isSvgHtml
  modify fun b => { b with stack := b.stack.dropWhile (!stays ·) }
  byMode b.mode t

/-- Treats an end tag in foreign content: closes the innermost open element of
its name in any case, or leaves the tag to the mode where HTML comes first. -/
def endForeign (b : Builder) (name : String) : List Nat → Option (List Nat)
  | [] => some b.stack
  | [_] => some b.stack
  | id :: rest =>
      let e := b.arena.name id
      if e.vocabulary == .html then none
      else if e.name.toList.map Char.toLower == name.toList then some rest
      else endForeign b name rest

/-- Treats a token by the rules for foreign content. -/
def inForeign (t : Token) : Build Outcome := do
  match t with
  | .null =>
    insertChars ['\uFFFD']
    return .done
  | .space cs =>
    insertChars cs
    return .done
  | .word cs =>
    insertChars cs
    noFrameset
    return .done
  | .comment c =>
    insertComment c
    return .done
  | .doctype _ => return .done
  | .eof => return .done
  | .startTag tag =>
    if tag.breaksOut then breakOut t
    else
      insertForeign (← currentName).vocabulary tag
      return .done
  | .endTag name =>
    if name = "br" || name = "p" then breakOut t
    else
      let b ← get
      match endForeign b name b.stack with
      | some stack =>
        modify fun b => { b with stack }
        return .done
      | none => byMode b.mode t

/-! ## Every token -/

/-- Treats a token until nothing is left to do with it.  Treating it again closes
an element or moves from one part of the document to the next, so the number of
open elements and of parts bounds how often that happens. -/
def treat : Nat → Option Mode → Token → Build Unit
  | 0, _, _ => return
  | steps + 1, mode, t => do
      let b ← get
      let outcome ← match mode with
        | some mode => byMode mode t
        | none => if isForeign b t then inForeign t else byMode b.mode t
      match outcome with
      | .done => return
      | .again => treat steps none t
      | .by mode => treat steps (some mode) t

/-- A run without the line feed it starts with, if that is to be dropped. -/
def withoutNewline (b : Builder) (t : Token) : Option Token :=
  match b.skipNewline, t with
  | true, .space ('\n' :: []) => none
  | true, .space ('\n' :: cs) => some (.space cs)
  | _, t => some t

/-- Builds a token into the tree. -/
def accept (t : Token) : Build Unit := do
  let b ← get
  let t := withoutNewline b t
  modify fun b => { b with skipNewline := false }
  match t with
  | none => return
  | some t => treat (2 * b.stack.length + 2 * b.templateModes.length + 24) none t

end PageExtract.Html.Build
