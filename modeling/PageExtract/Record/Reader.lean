import PageExtract.Json.Reader
import PageExtract.Record.Basic

/-!
# Reading records

The JSON text of a record is read back: an object is a record, a string is a
text and an array is a list of records.  There are no other values.  Members
keep their order and may be repeated, and space may stand between the parts, so
one reader serves both layouts.

Records may nest without limit.  Each level has an opening bracket of its own,
so a text has no more levels than characters.
-/

namespace PageExtract

open Json

/-- What a value of a field is called in messages. -/
def Value.wanted : String := "a text or a list of records"

/-- What a record is called in messages. -/
def Record.wanted : String := "a record"

/-- Reads a text, or a list with a reader of its records. -/
def Value.readWith (record : Reader Record) : Reader Value := fun c =>
  let c := c.skipSpace
  match c.rest with
  | '"' :: _ => (readString c).map fun (s, c) => (.text s, c)
  | '[' :: _ => do
      let (items, c) ← elements record c.advance
      return (.list items, ← closeArray c)
  | _ => wrongType Value.wanted c

/-- Reads the fields of a record, from after the opening brace. -/
def Record.readFields (value : Reader Value) : Reader Record := fun c => do
  let step (fields : List (String × Value)) (name : String) : Reader (List (String × Value)) :=
    fun c => (valueOf value c).map fun (v, c) => ((name, v) :: fields, c)
  let (fields, c) ← members step [] c
  return (⟨fields.reverse⟩, ← closeObject c)

/-- Reads a record in which that many levels of records may be nested. -/
def Record.read : Nat → Reader Record
  | 0 => inObject Record.wanted none
  | levels + 1 =>
      inObject Record.wanted (some (Record.readFields (Value.readWith (Record.read levels))))

/-- Reads the text of a record. -/
def Record.parse (text : String) : Except Fault Record :=
  readAll (Record.read text.length) text

end PageExtract
