import PageExtract.Charset.Label
import PageExtract.Text.Blank
import PageExtract.Text.LowerCase
import PageExtract.Text.Split

/-!
# The text of a document

How the bytes of a document are read depends on three things, of which the first
that says anything decides: a byte order mark at their start, which is no part
of the text, the declared type of the document, and what a *detector* makes of the
bytes themselves.

A declared type is a list of segments between semicolons.  The first segment that
starts with `charset=` gives a label, which may stand in quotes.  If it stands
for no character set, the type says nothing, whatever comes later.

A detector goes by how likely the bytes are in each character set.  Nothing here
depends on how it does that, so every definition that needs one takes it as an
argument.  `Detector.plain` stands in where none is given.
-/

namespace PageExtract.Charset

/-- The character set that a byte order mark stands for, with the bytes after the mark. -/
def ofMark? : List UInt8 → Option (Charset × List UInt8)
  | 0xEF :: 0xBB :: 0xBF :: rest => some (utf8, rest)
  | 0xFE :: 0xFF :: rest => some (utf16 true, rest)
  | 0xFF :: 0xFE :: rest => some (utf16 false, rest)
  | _ => none

/-- A way to tell the character set of bytes that nothing is said of. -/
abbrev Detector := List UInt8 → Charset

/-- The detector that knows UTF-8 and the code page of western Windows, and no other
character set. -/
def Detector.plain : Detector := fun bytes =>
  if (Utf8.decode? bytes).isSome then utf8 else codePage .windows1252

/-- A list without some character at its ends. -/
def strip (c : Char) (cs : List Char) : List Char :=
  ((cs.dropWhile (· == c)).reverse.dropWhile (· == c)).reverse

/-- The start of a segment that gives a label. -/
def labelStart : List Char := ['c', 'h', 'a', 'r', 's', 'e', 't', '=']

/-- The label that a segment gives. -/
def segmentLabel? (segment : List Char) : Option String :=
  let segment := Text.trimList segment
  if labelStart.isPrefixOf segment then
    some (String.ofList (strip '\'' (strip '"' (segment.drop labelStart.length))))
  else none

/-- The label that a declared type gives. -/
def label? (contentType : String) : Option String :=
  (Text.splitAt ';' (Text.lower contentType).toList).findSome? segmentLabel?

/-- The character set that a declared type gives. -/
def declared? (contentType : Option String) : Option Charset :=
  contentType.bind fun t => (label? t).bind ofLabel?

/-- The text of a document. -/
def textOf (contentType : Option String) (bytes : List UInt8) (detect : Detector := .plain) :
    String :=
  String.ofList <|
    match ofMark? bytes with
    | some (c, rest) => c.decode rest
    | none => ((declared? contentType).getD (detect bytes)).decode bytes

end PageExtract.Charset
