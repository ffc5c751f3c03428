import PageExtract.Html.Rules.Body

/-!
# In tables

What a token does inside a table.  A table holds captions, columns and rows, and
makes the parts between itself and a cell that no tag asks for.  Whatever else
comes is treated as in the body, but goes before the table.
-/

namespace PageExtract.Html.Build

/-- Treats a token as in the body, with new nodes going before the table. -/
def fostered (t : Token) : Build Outcome := do
  modify fun b => { b with foster := true }
  let outcome ← inBody t
  match outcome with
  | .by .inHead =>
    let outcome ← inHead t
    modify fun b => { b with foster := false }
    return outcome
  | outcome =>
    modify fun b => { b with foster := false }
    return outcome

/-- Closes what is open in a table. -/
def clearToTable : Build Unit := popTo ["table", "template", "html"]

/-- Closes what is open in a group of rows. -/
def clearToRows : Build Unit := popTo ["tbody", "tfoot", "thead", "template", "html"]

/-- Closes what is open in a row. -/
def clearToRow : Build Unit := popTo ["tr", "template", "html"]

/-- Begins to collect the characters of a table. -/
def collectText : Build Outcome := do
  modify fun b => { b with tableText := [], returnMode := b.mode, mode := .inTableText }
  return .again

/-- Characters in a table. -/
def charsInTable (t : Token) : Build Outcome := do
  if ← currentIsAny ["table", "tbody", "template", "tfoot", "thead", "tr"] then collectText
  else fostered t

/-- Closes a table. -/
def endTable : Build Bool := do
  if ← has .table "table" then
    popThrough "table"
    resetMode
    return true
  else return false

/-- In a table. -/
def inTable : Token → Build Outcome := fun t => do
  match t with
  | .space _ => charsInTable t
  | .word _ => charsInTable t
  | .null => charsInTable t
  | .comment c =>
    insertComment c
    return .done
  | .doctype _ => return .done
  | .eof => return .by .inBody
  | .startTag tag =>
    match tag.name with
    | "caption" =>
      clearToTable
      putMarker
      insertTag tag
      setMode .inCaption
      return .done
    | "colgroup" =>
      clearToTable
      insertTag tag
      setMode .inColumnGroup
      return .done
    | "col" =>
      clearToTable
      let _ ← insertPlain "colgroup"
      againIn .inColumnGroup
    | "tbody" | "tfoot" | "thead" =>
      clearToTable
      insertTag tag
      setMode .inTableBody
      return .done
    | "td" | "th" | "tr" =>
      clearToTable
      let _ ← insertPlain "tbody"
      againIn .inTableBody
    | "table" => if ← endTable then return .again else return .done
    | "style" | "script" | "template" => return .by .inHead
    | "input" =>
      if isHiddenInput tag then
        insertVoid tag
        return .done
      else fostered t
    | "form" =>
      if (← get).form.isNone && !(← isOpen "template") then
        let id ← insertClosed (htmlName "form") tag.attrs
        modify fun b => { b with form := some id }
      return .done
    | _ => fostered t
  | .endTag name =>
    match name with
    | "table" =>
      let _ ← endTable
      return .done
    | "body" | "caption" | "col" | "colgroup" | "html" | "tbody" | "td" | "tfoot" | "th"
    | "thead" | "tr" => return .done
    | "template" => return .by .inHead
    | _ => fostered t

/-- Adds characters before a table, one run after another. -/
def fosterText : List (List Char) → Build Unit
  | [] => return
  | cs :: rest => do
      let _ ← fostered (.run cs)
      fosterText rest

/-- Places the characters that a table has collected. -/
def placeTableText : Build Unit := do
  let runs := (← get).tableText.reverse
  modify fun b => { b with tableText := [], mode := b.returnMode }
  if runs.all fun cs => cs.all isSpace then insertChars runs.flatten
  else fosterText runs

/-- In the characters of a table. -/
def inTableText : Token → Build Outcome
  | .null => return .done
  | .space cs => do
      modify fun b => { b with tableText := cs :: b.tableText }
      return .done
  | .word cs => do
      modify fun b => { b with tableText := cs :: b.tableText }
      return .done
  | _ => do
      placeTableText
      return .again

/-- Closes a caption. -/
def endCaption : Build Bool := do
  if ← has .table "caption" then
    closeImplied
    popThrough "caption"
    clearToMarker
    setMode .inTable
    return true
  else return false

/-- In a caption. -/
def inCaption : Token → Build Outcome := fun t => do
  match t with
  | .startTag tag =>
    if tablePartNames.contains tag.name then
      if ← endCaption then return .again else return .done
    else inBody t
  | .endTag name =>
    match name with
    | "caption" =>
      let _ ← endCaption
      return .done
    | "table" => if ← endCaption then return .again else return .done
    | "body" | "col" | "colgroup" | "html" | "tbody" | "td" | "tfoot" | "th" | "thead"
    | "tr" => return .done
    | _ => inBody t
  | _ => inBody t

/-- In a group of columns. -/
def inColumnGroup : Token → Build Outcome := fun t => do
  let leave : Build Outcome := do
    if ← currentIs "colgroup" then
      pop
      againIn .inTable
    else return .done
  match t with
  | .space cs =>
    insertChars cs
    return .done
  | .comment c =>
    insertComment c
    return .done
  | .doctype _ => return .done
  | .eof => return .by .inBody
  | .startTag tag =>
    match tag.name with
    | "html" => return .by .inBody
    | "col" =>
      insertVoid tag
      return .done
    | "template" => return .by .inHead
    | _ => leave
  | .endTag name =>
    match name with
    | "colgroup" =>
      if ← currentIs "colgroup" then
        pop
        setMode .inTable
      return .done
    | "col" => return .done
    | "template" => return .by .inHead
    | _ => leave
  | _ => leave

/-- In a group of rows. -/
def inTableBody : Token → Build Outcome := fun t => do
  let leave : Build Outcome := do
    if ← hasAny .table ["tbody", "thead", "tfoot"] then
      clearToRows
      pop
      againIn .inTable
    else return .done
  match t with
  | .startTag tag =>
    match tag.name with
    | "tr" =>
      clearToRows
      insertTag tag
      setMode .inRow
      return .done
    | "th" | "td" =>
      clearToRows
      let _ ← insertPlain "tr"
      againIn .inRow
    | "caption" | "col" | "colgroup" | "tbody" | "tfoot" | "thead" => leave
    | _ => inTable t
  | .endTag name =>
    match name with
    | "tbody" | "tfoot" | "thead" =>
      if ← has .table name then
        clearToRows
        pop
        setMode .inTable
      return .done
    | "table" => leave
    | "body" | "caption" | "col" | "colgroup" | "html" | "td" | "th" | "tr" => return .done
    | _ => inTable t
  | _ => inTable t

/-- Closes a row. -/
def endRow : Build Bool := do
  if ← has .table "tr" then
    clearToRow
    pop
    setMode .inTableBody
    return true
  else return false

/-- In a row. -/
def inRow : Token → Build Outcome := fun t => do
  let leave : Build Outcome := do
    if ← endRow then return .again else return .done
  match t with
  | .startTag tag =>
    match tag.name with
    | "th" | "td" =>
      clearToRow
      insertTag tag
      setMode .inCell
      putMarker
      return .done
    | "caption" | "col" | "colgroup" | "tbody" | "tfoot" | "thead" | "tr" => leave
    | _ => inTable t
  | .endTag name =>
    match name with
    | "tr" =>
      let _ ← endRow
      return .done
    | "table" => leave
    | "tbody" | "tfoot" | "thead" => if ← has .table name then leave else return .done
    | "body" | "caption" | "col" | "colgroup" | "html" | "td" | "th" => return .done
    | _ => inTable t
  | _ => inTable t

/-- Closes the open cell. -/
def endCell : Build Unit := do
  closeImplied
  popThroughAny ["td", "th"]
  clearToMarker
  setMode .inRow

/-- In a cell. -/
def inCell : Token → Build Outcome := fun t => do
  match t with
  | .startTag tag =>
    if tablePartNames.contains tag.name then
      if ← hasAny .table ["td", "th"] then
        endCell
        return .again
      else return .done
    else inBody t
  | .endTag name =>
    match name with
    | "td" | "th" =>
      if ← has .table name then
        closeImplied
        popThrough name
        clearToMarker
        setMode .inRow
      return .done
    | "body" | "caption" | "col" | "colgroup" | "html" => return .done
    | "table" | "tbody" | "tfoot" | "thead" | "tr" =>
      if ← has .table name then
        endCell
        return .again
      else return .done
    | _ => inBody t
  | _ => inBody t

end PageExtract.Html.Build
