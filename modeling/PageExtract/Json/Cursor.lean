import PageExtract.Json.Fault

/-!
# Where reading stands

A *cursor* is the part of a text that has not been read, with the position of
its start.  A *reader* takes a cursor and gives a value and the cursor after
it, or a fault.

A fault is placed either *here*, after what has been read, or *ahead*, one byte
further, when the byte that comes next is what is wrong.  A character of
several bytes counts only its first byte as looked at.
-/

namespace PageExtract.Json

/-- The position after a character. -/
def Position.after (p : Position) (c : Char) : Position :=
  if c = '\n' then ⟨p.line + 1, 0⟩ else ⟨p.line, p.column + c.utf8Size⟩

/-- The position `n` bytes into a text that starts at `p`, or at its end if it is shorter. -/
def Position.afterBytes (p : Position) : Nat → List Char → Position
  | 0, _ => p
  | _, [] => p
  | n, c :: rest =>
      if c.utf8Size ≤ n then (p.after c).afterBytes (n - c.utf8Size) rest
      else ⟨p.line, p.column + n⟩

/-- The unread part of a text. -/
structure Cursor where
  /-- The characters to come. -/
  rest : List Char
  /-- Where they start. -/
  position : Position
  deriving DecidableEq, Repr

/-- A way to read a value from a cursor.  It gives the value and the cursor after it. -/
abbrev Reader (α : Type) := Cursor → Except Fault (α × Cursor)

namespace Cursor

/-- The cursor at the start of a text. -/
def start (text : String) : Cursor := ⟨text.toList, 1, 0⟩

/-- The position one byte further. -/
def ahead (c : Cursor) : Position := c.position.afterBytes 1 c.rest

/-- A fault in what has been read. -/
def faultHere {α : Type} (c : Cursor) (cause : Cause) : Except Fault α :=
  .error ⟨cause, c.position⟩

/-- A fault in the byte that comes next. -/
def faultAhead {α : Type} (c : Cursor) (cause : Cause) : Except Fault α :=
  .error ⟨cause, c.ahead⟩

/-- The cursor after the next character, or the same at the end. -/
def advance (c : Cursor) : Cursor :=
  match c.rest with
  | [] => c
  | x :: rest => ⟨rest, c.position.after x⟩

end Cursor

/-- Whether a character may stand between the parts of a JSON text. -/
def isSpace (c : Char) : Bool := c = ' ' || c = '\n' || c = '\t' || c = '\r'

/-- Passes the space that a list of characters starts with. -/
def skipSpaceFrom : List Char → Position → Cursor
  | [], p => ⟨[], p⟩
  | c :: rest, p => if isSpace c then skipSpaceFrom rest (p.after c) else ⟨c :: rest, p⟩

/-- Passes space. -/
def Cursor.skipSpace (c : Cursor) : Cursor := skipSpaceFrom c.rest c.position

/-- Passes the rest of a word such as `null`, whose letters must follow one another. -/
def skipWord : List Char → Cursor → Except Fault Cursor
  | [], c => .ok c
  | x :: word, c => match c.rest with
    | [] => c.faultHere .endInValue
    | y :: _ => if y = x then skipWord word c.advance else c.faultAhead .expectedWord

/-- Reads a whole text: a value and nothing but space after it. -/
def readAll {α : Type} (read : Reader α) (text : String) : Except Fault α := do
  let (value, c) ← read (Cursor.start text)
  let c := c.skipSpace
  match c.rest with
  | [] => .ok value
  | _ => c.faultAhead .trailingCharacters

end PageExtract.Json
