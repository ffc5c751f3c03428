import PageExtract.Json.Quoted
import PageExtract.Record.Basic

/-!
# Records as JSON

A record is written as an object with a member for each field, in order and
with repeats.  A text is written as a string and a list as an array.  There are
two layouts.  The compact one has no space at all.  The pretty one puts every
member and every item on a line of its own, two spaces further in than the
bracket it stands in.  A bracket with nothing in it stays on its line.
-/

namespace PageExtract

/-! ## The compact layout -/

mutual

/-- A value without space. -/
def Value.compactChars : Value → List Char
  | .text s => Json.quoteChars s
  | .list items => '[' :: Value.compactItems true items ++ [']']

/-- The items of a list without space.  A comma stands before all but the first. -/
def Value.compactItems (first : Bool) : List Record → List Char
  | [] => []
  | r :: rest => (if first then [] else [',']) ++ r.compactChars ++ Value.compactItems false rest

/-- A record without space. -/
def Record.compactChars : Record → List Char
  | ⟨fields⟩ => '{' :: Record.compactFields true fields ++ ['}']

/-- The members of a record without space.  A comma stands before all but the first. -/
def Record.compactFields (first : Bool) : List (String × Value) → List Char
  | [] => []
  | (name, value) :: rest =>
      (if first then [] else [',']) ++ Json.quoteChars name ++ ':' :: value.compactChars ++
        Record.compactFields false rest

end

/-- A record in the compact layout. -/
def Record.compact (r : Record) : String := String.ofList r.compactChars

/-! ## The pretty layout -/

/-- The start of a line at some depth. -/
def newLine (depth : Nat) : List Char := '\n' :: List.replicate (2 * depth) ' '

mutual

/-- A value whose closing bracket, if it has one, stands at some depth. -/
def Value.prettyChars (depth : Nat) : Value → List Char
  | .text s => Json.quoteChars s
  | .list [] => ['[', ']']
  | .list (r :: rest) =>
      '[' :: newLine (depth + 1) ++ r.prettyChars (depth + 1) ++
        Value.prettyItems (depth + 1) rest ++ newLine depth ++ [']']

/-- Further items of a list, each after a comma. -/
def Value.prettyItems (depth : Nat) : List Record → List Char
  | [] => []
  | r :: rest => ',' :: newLine depth ++ r.prettyChars depth ++ Value.prettyItems depth rest

/-- A record whose closing brace stands at some depth. -/
def Record.prettyChars (depth : Nat) : Record → List Char
  | ⟨[]⟩ => ['{', '}']
  | ⟨(name, value) :: rest⟩ =>
      '{' :: newLine (depth + 1) ++ Json.quoteChars name ++ ':' :: ' ' ::
        value.prettyChars (depth + 1) ++ Record.prettyFields (depth + 1) rest ++
        newLine depth ++ ['}']

/-- Further members of a record, each after a comma. -/
def Record.prettyFields (depth : Nat) : List (String × Value) → List Char
  | [] => []
  | (name, value) :: rest =>
      ',' :: newLine depth ++ Json.quoteChars name ++ ':' :: ' ' :: value.prettyChars depth ++
        Record.prettyFields depth rest

end

/-- A record in the pretty layout. -/
def Record.pretty (r : Record) : String := String.ofList (r.prettyChars 0)

end PageExtract
