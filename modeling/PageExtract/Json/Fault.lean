import PageExtract.Text.Quoted

/-!
# What can be wrong with a JSON text

A *fault* is a cause with a position.  Reading stops at the first one.  Some
causes lie in the text itself, some in what the reader wanted to find at that
place: a value of another type, a member that is missing or repeated, or an
array that is too short.

A position is a line, counted from one, and a column, which counts the bytes of
the line that have been read.  So the column of a fault is that of the last
byte that was looked at, and zero if that byte ended the line before.
-/

namespace PageExtract.Json

/-- A place in a text. -/
structure Position where
  /-- The line, counted from one. -/
  line : Nat
  /-- The number of bytes of the line before this place. -/
  column : Nat
  deriving DecidableEq, Repr

/-- What a value turns out to be, in a message that says something else was wanted. -/
inductive Found where
  | null
  | boolean (value : Bool)
  | integer (value : Int)
  /-- A number with a fraction or an exponent, or out of the range of integers. -/
  | decimal (written : String)
  | string (content : String)
  | sequence
  | map
  deriving DecidableEq, Repr

/-- Why a text cannot be read. -/
inductive Cause where
  | endInValue
  | endInString
  | endInList
  | endInObject
  | expectedColon
  | expectedListSeparator
  | expectedObjectSeparator
  | expectedWord
  | expectedValue
  | expectedKey
  | invalidEscape
  | invalidNumber
  | numberOutOfRange
  | controlCharacter
  | loneSurrogate
  | halfSurrogatePair
  | trailingComma
  | trailingCharacters
  | nestedTooDeep
  | wrongType (found : Found) (wanted : String)
  | missingMember (name : String)
  | repeatedMember (name : String)
  | tooShort (length : Nat) (wanted : String)
  deriving DecidableEq, Repr

/-- A cause and the place where it shows. -/
structure Fault where
  /-- Why reading stopped. -/
  cause : Cause
  /-- Where it stopped. -/
  position : Position
  deriving DecidableEq, Repr

/-- A found value, as a message names it. -/
def Found.message : Found → String
  | .null => "null"
  | .boolean true => "boolean `true`"
  | .boolean false => "boolean `false`"
  | .integer n => "integer `" ++ toString n ++ "`"
  | .decimal written => "floating point `" ++ written ++ "`"
  | .string content => "string " ++ Text.Quoted.text content
  | .sequence => "sequence"
  | .map => "map"

/-- A cause in words. -/
def Cause.message : Cause → String
  | .endInValue => "EOF while parsing a value"
  | .endInString => "EOF while parsing a string"
  | .endInList => "EOF while parsing a list"
  | .endInObject => "EOF while parsing an object"
  | .expectedColon => "expected `:`"
  | .expectedListSeparator => "expected `,` or `]`"
  | .expectedObjectSeparator => "expected `,` or `\x7d`"
  | .expectedWord => "expected ident"
  | .expectedValue => "expected value"
  | .expectedKey => "key must be a string"
  | .invalidEscape => "invalid escape"
  | .invalidNumber => "invalid number"
  | .numberOutOfRange => "number out of range"
  | .controlCharacter => "control character (\\u0000-\\u001F) found while parsing a string"
  | .loneSurrogate => "lone leading surrogate in hex escape"
  | .halfSurrogatePair => "unexpected end of hex escape"
  | .trailingComma => "trailing comma"
  | .trailingCharacters => "trailing characters"
  | .nestedTooDeep => "recursion limit exceeded"
  | .wrongType found wanted => "invalid type: " ++ found.message ++ ", expected " ++ wanted
  | .missingMember name => "missing field `" ++ name ++ "`"
  | .repeatedMember name => "duplicate field `" ++ name ++ "`"
  | .tooShort length wanted => "invalid length " ++ toString length ++ ", expected " ++ wanted

/-- A fault in words. -/
def Fault.message (f : Fault) : String :=
  f.cause.message ++ " at line " ++ toString f.position.line ++
    " column " ++ toString f.position.column

end PageExtract.Json
