import PageExtract.Html.Node

/-!
# Tokens

The text of a document is a sequence of tags, runs of characters, comments and
document types.  Characters come in runs that are all space or hold none, since
space is treated apart in many places.  The character NUL is a token of its own.

How characters are cut into tokens depends on where they stand.  `Reading`
lists the ways: as markup, as text with or without character references, as a
script, or as text to the end.
-/

namespace PageExtract.Html

/-- A start tag. -/
structure StartTag where
  /-- The name, in lower case. -/
  name : String
  /-- The attributes, each name once. -/
  attrs : List Attr
  /-- Whether the tag ends with a slash. -/
  selfClosing : Bool
  deriving Repr

/-- A document type. -/
structure Doctype where
  /-- The name. -/
  name : Option String := none
  /-- The public identifier. -/
  publicId : Option String := none
  /-- The system identifier. -/
  systemId : Option String := none
  /-- Whether the document type is so broken that old layout rules hold. -/
  oldLayout : Bool := false
  deriving Repr

/-- A piece of a document's text. -/
inductive Token where
  | doctype (d : Doctype)
  | startTag (tag : StartTag)
  | endTag (name : String)
  | comment (content : String)
  /-- Characters that are all space. -/
  | space (chars : List Char)
  /-- Characters none of which is space. -/
  | word (chars : List Char)
  | null
  | eof
  deriving Repr

/-- How characters are cut into tokens. -/
inductive Reading where
  /-- As markup. -/
  | markup
  /-- As text with character references, to the end tag. -/
  | escapable
  /-- As text, to the end tag. -/
  | raw
  /-- As a script, to the end tag. -/
  | script
  /-- As text, to the end of the document. -/
  | plain
  deriving DecidableEq, Repr

/-- Whether a character is space in HTML. -/
def isSpace (c : Char) : Bool := c = '\t' || c = '\n' || c = '\x0c' || c = '\r' || c = ' '

/-- A run of characters as a token. -/
def Token.run (chars : List Char) : Token :=
  match chars with
  | [] => .word []
  | c :: _ => if isSpace c then .space chars else .word chars

end PageExtract.Html
