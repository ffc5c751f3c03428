import PageExtract.Html.Lexer
import PageExtract.Html.Rules.Other

/-!
# Reading a document

Every text is a document.  Tokens are taken off it and built into a tree, one
after another, since the open elements decide how the characters that follow are
read.  The empty text makes a document with an empty head and an empty body.
-/

namespace PageExtract.Html

open Build

/-- Builds tokens into the tree. -/
def acceptAll : List Token → Build Unit
  | [] => return
  | t :: rest => do
      accept t
      acceptAll rest

/-- Whether literal sections may stand where the next characters go. -/
def allowsLiteral (b : Builder) : Bool :=
  match b.stack with
  | [] => false
  | id :: _ => (b.arena.name id).vocabulary != .html

/-- Builds the rest of a document.  Every step takes a character. -/
def buildFrom : Nat → List Char → Build Unit
  | 0, _ => return
  | _, [] => accept .eof
  | steps + 1, cs => do
      let b ← get
      let (tokens, rest) := nextTokens b.reading b.readingEnd (allowsLiteral b) cs
      acceptAll tokens
      buildFrom steps rest

/-- The document that a text is. -/
def parse (html : String) : Node :=
  let cs := sourceChars html
  let (_, b) := (buildFrom (cs.length + 1) cs).run {}
  .document b.arena.freeze

end PageExtract.Html
