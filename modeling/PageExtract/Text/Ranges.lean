import PageExtract.Text.Entries
import PageExtract.Text.Split

/-!
# Properties of code points

A property that many code points have is written as the list of its *ranges*, in
order, each with the value that the property has there.  A range is written in
hexadecimal as the gap since the end of the range before it, a dot and its
length, then an equals sign and the value: `3.2=x 1=y` gives the value `x` to the
code points 3 and 4 and the value `y` to 6.  A gap of zero and a length of one
are left out.
-/

namespace PageExtract.Text

/-- Code points that follow one another and have the same value of a property. -/
structure Range where
  /-- The first code point. -/
  first : Nat
  /-- The last code point. -/
  last : Nat
  /-- The value as it is written. -/
  value : List Char
  deriving DecidableEq, Repr

/-- The ranges after `start` that a list of entries stands for. -/
def rangesFrom (start : Nat) : List (List Char) → List Range
  | [] => []
  | entry :: rest =>
      let span := entry.takeWhile (· ≠ '=')
      let first := start + hexNumber (span.takeWhile (· ≠ '.'))
      let length := match span.dropWhile (· ≠ '.') with
        | [] => 1
        | _ :: digits => hexNumber digits
      { first, last := first + length - 1, value := (entry.dropWhile (· ≠ '=')).drop 1 } ::
        rangesFrom (first + length) rest

/-- The ranges that a table stands for. -/
def readRanges (table : String) : List Range := rangesFrom 0 (entries table)

/-- The range that a code point lies in. -/
def rangeOf? (ranges : List Range) (n : Nat) : Option Range :=
  ranges.find? fun r => r.first ≤ n && n ≤ r.last

/-- The code points in a value, which stand between commas. -/
def codePoints (value : List Char) : List Nat := (splitAt ',' value).map hexNumber

end PageExtract.Text
