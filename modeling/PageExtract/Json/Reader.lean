import PageExtract.Json.Skip

/-!
# Readers of typed values

What a reader wants is known before the text is looked at, so a value of
another type is a fault.  A scalar of the wrong type is read to its end first.
A bracket of the wrong type is not entered.

`inObject` and `inStructure` enter a bracket, unless no level may be nested any
more.  `members` and `elements` read what stands inside, one value after
another, and stop at the closing bracket.

A fault of an object as a whole, such as a member that is missing, is placed
where reading stands once it has passed space and the closing bracket, if that
is what comes next (`Cursor.closed`).
-/

namespace PageExtract.Json

/-- The fault of a value of the wrong type. -/
def wrongType {α : Type} (wanted : String) (c : Cursor) : Except Fault α :=
  let mistake (found : Found) (after : Cursor) : Except Fault α :=
    after.faultHere (.wrongType found wanted)
  match c.rest with
  | [] => c.faultAhead .endInValue
  | 'n' :: _ => do mistake .null (← skipWord "ull".toList c.advance)
  | 't' :: _ => do mistake (.boolean true) (← skipWord "rue".toList c.advance)
  | 'f' :: _ => do mistake (.boolean false) (← skipWord "alse".toList c.advance)
  | '"' :: _ => do
      let (content, c) ← readString c
      mistake (.string content) c
  | '[' :: _ => mistake .sequence c
  | '{' :: _ => mistake .map c
  | x :: _ =>
      if x = '-' ∨ isDigit x then do
        let (found, c) ← readNumber c
        mistake found c
      else c.faultAhead .expectedValue

/-- Reads a value that must be a string. -/
def text : Reader String := fun c =>
  let c := c.skipSpace
  match c.rest with
  | '"' :: _ => readString c
  | _ => wrongType "a string" c

/-- Reads `null` as nothing and anything else as `read` does. -/
def optional {α : Type} (read : Reader α) : Reader (Option α) := fun c =>
  let c := c.skipSpace
  match c.rest with
  | 'n' :: _ => (skipWord "ull".toList c.advance).map (none, ·)
  | _ => (read c).map fun (value, c) => (some value, c)

/-- Passes the colon between the name of a member and its value. -/
def colon (c : Cursor) : Except Fault Cursor :=
  let c := c.skipSpace
  match c.rest with
  | [] => c.faultAhead .endInObject
  | ':' :: _ => .ok c.advance
  | _ => c.faultAhead .expectedColon

/-- Reads a colon and then a value. -/
def valueOf {α : Type} (read : Reader α) : Reader α := fun c => do read (← colon c)

/-! ## Brackets -/

/-- The position after space and a closing bracket, if one comes next. -/
def Cursor.closed (c : Cursor) (b : Bracket) : Position :=
  let c := c.skipSpace
  if c.at b.closer then c.advance.position else c.position

/-- A fault of a bracket as a whole. -/
def Cursor.faultClosed {α : Type} (c : Cursor) (b : Bracket) (cause : Cause) : Except Fault α :=
  .error ⟨cause, c.closed b⟩

/-- Reads a value that must be an object, with a reader of what follows the
opening brace.  There is none if no level is left. -/
def inObject {α : Type} (wanted : String) (levels : Option (Reader α)) : Reader α := fun c =>
  let c := c.skipSpace
  match c.rest with
  | '{' :: _ => match levels with
    | none => c.faultAhead .nestedTooDeep
    | some read => read c.advance
  | _ => wrongType wanted c

/-- Reads a value that must be an object or an array, with a reader for each. -/
def inStructure {α : Type} (wanted : String) (levels : Option (Reader α × Reader α)) :
    Reader α := fun c =>
  let c := c.skipSpace
  match c.rest with
  | '{' :: _ => match levels with
    | none => c.faultAhead .nestedTooDeep
    | some (object, _) => object c.advance
  | '[' :: _ => match levels with
    | none => c.faultAhead .nestedTooDeep
    | some (_, array) => array c.advance
  | _ => wrongType wanted c

/-- Moves to the next member and reads its name, or finds the end of the object. -/
def nextName (first : Bool) (c : Cursor) : Except Fault (Option String × Cursor) :=
  let c := c.skipSpace
  let name (c : Cursor) : Except Fault (Option String × Cursor) :=
    (readString c).map fun (s, c) => (some s, c)
  match c.rest with
  | [] => c.faultAhead .endInObject
  | '}' :: _ => .ok (none, c)
  | x :: _ =>
      if first then
        if x = '"' then name c else c.faultAhead .expectedKey
      else if x = ',' then
        let c := c.advance.skipSpace
        match c.rest with
        | [] => c.faultAhead .endInValue
        | '"' :: _ => name c
        | '}' :: _ => c.faultAhead .trailingComma
        | _ => c.faultAhead .expectedKey
      else c.faultAhead .expectedObjectSeparator

/-- Reads the members of an object one after another.  `step` takes what has been
made of the members before, the name of a member and the cursor after that
name.  Every member has a character, so the length of the text bounds their number. -/
def membersFrom {σ : Type} (step : σ → String → Reader σ) :
    Nat → Bool → σ → Reader σ
  | 0, _, _, c => c.faultAhead .endInObject
  | steps + 1, first, state, c => do
      let (name, c) ← nextName first c
      match name with
      | none => .ok (state, c)
      | some name => do
          let (state, c) ← step state name c
          membersFrom step steps false state c

/-- Reads the members of an object. -/
def members {σ : Type} (step : σ → String → Reader σ) (state : σ) : Reader σ := fun c =>
  membersFrom step (c.rest.length + 1) true state c

/-- Moves to the next element and reads it, or finds the end of the array. -/
def nextElement {α : Type} (first : Bool) (read : Reader α) (c : Cursor) :
    Except Fault (Option α × Cursor) :=
  let c := c.skipSpace
  let element (c : Cursor) : Except Fault (Option α × Cursor) :=
    (read c).map fun (value, c) => (some value, c)
  match c.rest with
  | [] => c.faultAhead .endInList
  | ']' :: _ => .ok (none, c)
  | x :: _ =>
      if first then element c
      else if x = ',' then
        let c := c.advance.skipSpace
        match c.rest with
        | [] => c.faultAhead .endInValue
        | ']' :: _ => c.faultAhead .trailingComma
        | _ => element c
      else c.faultAhead .expectedListSeparator

/-- Reads the elements of an array one after another, after those in `done`, which
is backwards.  Every element has a character, so the length of the text bounds
their number. -/
def elementsFrom {α : Type} (read : Reader α) : Nat → Bool → List α → Reader (List α)
  | 0, _, _, c => c.faultAhead .endInList
  | steps + 1, first, done, c => do
      let (value, c) ← nextElement first read c
      match value with
      | none => .ok (done.reverse, c)
      | some value => elementsFrom read steps false (value :: done) c

/-- Reads the elements of an array. -/
def elements {α : Type} (read : Reader α) : Reader (List α) := fun c =>
  elementsFrom read (c.rest.length + 1) true [] c

/-- Reads a member once.  A second time is a fault, by the member's first name. -/
def once {α σ : Type} (name : String) (given : Option α) (read : Reader α) (put : α → σ) :
    Reader σ := fun c =>
  match given with
  | some _ => c.faultClosed .object (.repeatedMember name)
  | none => (valueOf read c).map fun (value, c) => (put value, c)

/-- Passes the end of an object whose members have been read. -/
def closeObject (c : Cursor) : Except Fault Cursor :=
  let c := c.skipSpace
  match c.rest with
  | [] => c.faultAhead .endInObject
  | '}' :: _ => .ok c.advance
  | ',' :: _ => c.faultAhead .trailingComma
  | _ => c.faultAhead .trailingCharacters

/-- Passes the end of an array whose elements have been read. -/
def closeArray (c : Cursor) : Except Fault Cursor :=
  let c := c.skipSpace
  match c.rest with
  | [] => c.faultAhead .endInList
  | ']' :: _ => .ok c.advance
  | ',' :: _ =>
      let c := c.advance.skipSpace
      if c.at ']' then c.faultAhead .trailingComma else c.faultAhead .trailingCharacters
  | _ => c.faultAhead .trailingCharacters

end PageExtract.Json
