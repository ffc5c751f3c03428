import PageExtract.Json.Number
import PageExtract.Json.Quoted

/-!
# Passing a value

A member that no one asks for is passed without being kept.  It must be well
formed, but it may nest without limit: what is open is held in a list of
brackets and not in the depth of a recursion.

After a comma another value has to come, so `[1,]` fails where that value is
missing.  In an object a string has to come.
-/

namespace PageExtract.Json

/-- The two kinds of bracket. -/
inductive Bracket where
  | list
  | object
  deriving DecidableEq, Repr

/-- The character that closes a bracket. -/
def Bracket.closer : Bracket → Char
  | .list => ']'
  | .object => '}'

/-- The cause of an end of the text inside a bracket. -/
def Bracket.endCause : Bracket → Cause
  | .list => .endInList
  | .object => .endInObject

/-- The cause of a missing comma. -/
def Bracket.separatorCause : Bracket → Cause
  | .list => .expectedListSeparator
  | .object => .expectedObjectSeparator

/-- Passes a value that is no bracket, or the opening of one. -/
def skipAtom (c : Cursor) : Except Fault (Option Bracket × Cursor) :=
  match c.rest with
  | [] => c.faultAhead .endInValue
  | 'n' :: _ => (skipWord "ull".toList c.advance).map (none, ·)
  | 't' :: _ => (skipWord "rue".toList c.advance).map (none, ·)
  | 'f' :: _ => (skipWord "alse".toList c.advance).map (none, ·)
  | '"' :: _ => (skipString c).map (none, ·)
  | '[' :: _ => .ok (some .list, c.advance)
  | '{' :: _ => .ok (some .object, c.advance)
  | x :: _ =>
      if x = '-' ∨ isDigit x then (skipNumber c).map (none, ·) else c.faultAhead .expectedValue

/-- Closes brackets as long as they close, and passes the comma that ends this.
`filled` says that the innermost bracket has a value in it.  Gives the brackets
that stay open. -/
def closeBrackets (filled : Bool) : List Bracket → Cursor → Except Fault (List Bracket × Cursor)
  | [], c => .ok ([], c)
  | b :: outer, c =>
      let c := c.skipSpace
      match c.rest with
      | [] => c.faultAhead b.endCause
      | x :: _ =>
        if x = ',' ∧ filled then .ok (b :: outer, c.advance)
        else if x = b.closer then closeBrackets true outer c.advance
        else if filled then c.faultAhead b.separatorCause
        else .ok (b :: outer, c)

/-- Passes the name of a member and its colon. -/
def skipName (c : Cursor) : Except Fault Cursor :=
  let c := c.skipSpace
  match c.rest with
  | [] => c.faultAhead .endInObject
  | '"' :: _ => do
      let c := (← skipString c).skipSpace
      match c.rest with
      | [] => c.faultAhead .endInObject
      | ':' :: _ => .ok c.advance
      | _ => c.faultAhead .expectedColon
  | _ => c.faultAhead .expectedKey

/-- Passes values until no bracket is open.  Every step passes a character, so
the length of the text bounds their number. -/
def skipValues : Nat → List Bracket → Cursor → Except Fault Cursor
  | 0, _, c => c.faultAhead .endInValue
  | steps + 1, stack, c => do
      let (opened, c) ← skipAtom c.skipSpace
      let (stack, c) ← match opened with
        | some b => closeBrackets false (b :: stack) c
        | none => closeBrackets true stack c
      match stack with
      | [] => .ok c
      | .list :: _ => skipValues steps stack c
      | .object :: _ => skipValues steps stack (← skipName c)

/-- Passes one value. -/
def skipValue (c : Cursor) : Except Fault Cursor := skipValues (c.rest.length + 1) [] c

end PageExtract.Json
