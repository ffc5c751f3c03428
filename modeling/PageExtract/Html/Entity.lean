import PageExtract.Html.EntityTable
import PageExtract.Text.Entries
import PageExtract.Text.Split
import Std.Data.HashMap

/-!
# Character references

A character can be written as an ampersand followed by its number or its name.
Numbers that stand for no character stand for U+FFFD, and those from 128 to 159
stand for what the code page of western Windows has there.  A semicolon after
the number may be missing.

For a name the longest one counts that the text starts with.  Most names need a
semicolon.  Those of older versions of HTML do not, but in the value of an
attribute such a name counts only if no letter, digit or equals sign follows.
-/

namespace PageExtract.Html

/-- A named character reference. -/
structure Entity where
  /-- The characters it stands for. -/
  chars : List Char
  /-- Whether the semicolon may be missing. -/
  bare : Bool

/-- The reference that an entry of the table describes, with its name. -/
def readEntity (entry : List Char) : String × Entity :=
  let isMark (c : Char) : Bool := c = '=' || c = '!'
  let name := entry.takeWhile (!isMark ·)
  let codes := (entry.dropWhile (!isMark ·)).drop 1
  (String.ofList name,
    { chars := (Text.splitAt '.' codes).map fun code => Char.ofNat (Text.hexNumber code)
      bare := entry.contains '!' })

/-- The named character references, by name. -/
def entities : Std.HashMap String Entity :=
  (Text.entries entityTable).foldl
    (fun map entry => let (name, e) := readEntity entry; map.insert name e) ∅

/-- What the numbers from 128 to 159 stand for, zero for the number itself. -/
def windowsNumbers : List Nat :=
  [0x20AC, 0, 0x201A, 0x0192, 0x201E, 0x2026, 0x2020, 0x2021, 0x02C6, 0x2030, 0x0160, 0x2039,
   0x0152, 0, 0x017D, 0, 0, 0x2018, 0x2019, 0x201C, 0x201D, 0x2022, 0x2013, 0x2014, 0x02DC,
   0x2122, 0x0161, 0x203A, 0x0153, 0, 0x017E, 0x0178]

/-- The character that a number stands for. -/
def numberedChar (n : Nat) : Char :=
  if n = 0 ∨ 0x10FFFF < n ∨ (0xD800 ≤ n ∧ n ≤ 0xDFFF) then '\uFFFD'
  else if 0x80 ≤ n ∧ n ≤ 0x9F then
    match windowsNumbers[n - 0x80]? with
    | some 0 => Char.ofNat n
    | some m => Char.ofNat m
    | none => Char.ofNat n
  else Char.ofNat n

/-- Whether a character is a digit in hexadecimal. -/
def isHexDigit (c : Char) : Bool :=
  c.isDigit || ('a' ≤ c && c ≤ 'f') || ('A' ≤ c && c ≤ 'F')

/-- A list without the semicolon it starts with. -/
def dropSemicolon : List Char → List Char
  | ';' :: rest => rest
  | rest => rest

/-- The number that decimal digits stand for. -/
def decimalNumber (cs : List Char) : Nat := cs.foldl (fun n c => n * 10 + (c.toNat - '0'.toNat)) 0

/-- The reference by number that follows an ampersand and a number sign. -/
def numericReference? (cs : List Char) : Option (List Char × List Char) :=
  match cs with
  | [] => none
  | x :: rest =>
      if x = 'x' ∨ x = 'X' then
        let digits := rest.takeWhile isHexDigit
        if digits = [] then none
        else
          some ([numberedChar (Text.hexNumber digits)], dropSemicolon (rest.dropWhile isHexDigit))
      else
        let digits := cs.takeWhile Char.isDigit
        if digits = [] then none
        else some ([numberedChar (decimalNumber digits)], dropSemicolon (cs.dropWhile Char.isDigit))

/-- The longest name among the first `n` letters that needs no semicolon, with its length. -/
def bareEntity? (letters : List Char) : Nat → Option (Entity × Nat)
  | 0 => none
  | n + 1 =>
      match entities[String.ofList (letters.take (n + 1))]? with
      | some e => if e.bare then some (e, n + 1) else bareEntity? letters n
      | none => bareEntity? letters n

/-- No name of a reference is longer than this. -/
def longestName : Nat := 32

/-- The reference by name that follows an ampersand. -/
def namedReference? (inAttribute : Bool) (cs : List Char) : Option (List Char × List Char) :=
  let letters := (cs.take longestName).takeWhile Char.isAlphanum
  let complete := match cs.drop letters.length with
    | ';' :: rest => (entities[String.ofList letters]?).map fun e => (e.chars, rest)
    | _ => none
  match complete with
  | some found => some found
  | none =>
    match bareEntity? letters letters.length with
    | none => none
    | some (e, n) =>
      let rest := cs.drop n
      let goesOn := match rest with
        | c :: _ => c = '=' || c.isAlphanum
        | [] => false
      if inAttribute && goesOn then none else some (e.chars, rest)

/-- The characters that a reference stands for and what follows it.  `cs` is what
follows the ampersand. -/
def reference? (inAttribute : Bool) (cs : List Char) : Option (List Char × List Char) :=
  match cs with
  | '#' :: rest => numericReference? rest
  | _ => namedReference? inAttribute cs

end PageExtract.Html
