import PageExtract.Decimal.Layout
import PageExtract.Json.Cursor

/-!
# Numbers

A number is never what a rule definition wants, but it has to be read before
that can be said, and the message shows it.  Whole numbers that fit 64 bits are
integers.  Others are doubles, computed in two steps: as many leading digits as
fit an unsigned 64-bit number are taken as a whole number, and one
multiplication or division by a power of ten accounts for the rest.

`skipNumber` only passes a number and forgets it.  It takes any exponent.
-/

namespace PageExtract.Json

/-- Whether a character is one of the ten digits. -/
def isDigit (c : Char) : Bool := '0' ≤ c && c ≤ '9'

/-- Whether the next character is a digit. -/
def Cursor.atDigit (c : Cursor) : Bool :=
  match c.rest with
  | [] => false
  | x :: _ => isDigit x

/-- Whether the next character is `x`. -/
def Cursor.at (c : Cursor) (x : Char) : Bool := c.rest.head? = some x

/-- Whether an exponent comes next. -/
def Cursor.atExponent (c : Cursor) : Bool := c.at 'e' || c.at 'E'

/-- The digits that a list starts with, and the cursor after them. -/
def digitsFrom : List Char → Position → List Char × Cursor
  | [], p => ([], ⟨[], p⟩)
  | c :: rest, p =>
      if isDigit c then
        let (digits, after) := digitsFrom rest (p.after c)
        (c :: digits, after)
      else ([], ⟨c :: rest, p⟩)

/-- The digits that come next, and the cursor after them. -/
def Cursor.digits (c : Cursor) : List Char × Cursor := digitsFrom c.rest c.position

/-- Passes a sign. -/
def Cursor.skipSign (c : Cursor) : Cursor := if c.at '+' || c.at '-' then c.advance else c

/-! ## Values -/

/-- The largest whole number that leading digits may amount to. -/
def significandLimit : Nat := Nat.pow 2 64 - 1

/-- The largest exponent that is added up. -/
def exponentLimit : Nat := Nat.pow 2 31 - 1

/-- Takes digits into a whole number while it stays within a limit.  Gives the
number and the digits that are left. -/
def takeDigits (limit : Nat) (n : Nat) : List Char → Nat × List Char
  | [] => (n, [])
  | d :: rest =>
      let next := n * 10 + (d.toNat - '0'.toNat)
      if limit < next then (n, d :: rest) else takeDigits limit next rest

/-- `x · 10^exponent`, or nothing if it is too large.  Each step divides by at
most `10^308`, and after three steps nothing is left of any number. -/
def scaleFloat (x : Float) (exponent : Int) : Nat → Option Float
  | 0 => some 0
  | steps + 1 =>
      let power := Float.ofScientific 1 false exponent.natAbs
      if exponent.natAbs ≤ 308 then
        if exponent < 0 then some (x / power)
        else if (x * power).isInf then none else some (x * power)
      else if x == 0 then some x
      else if 0 ≤ exponent then none
      else scaleFloat (x / Float.ofScientific 1 false 308) (exponent + 308) steps

/-- The double of a sign, leading digits and a power of ten. -/
def decimal (negative : Bool) (significand : Nat) (exponent : Int) (c : Cursor) :
    Except Fault (Found × Cursor) :=
  match scaleFloat significand.toUInt64.toFloat exponent 4 with
  | none => c.faultHere .numberOutOfRange
  | some x => .ok (.decimal (Decimal.write (if negative then -x else x)), c)

/-- Reads an exponent, from its letter on. -/
def readExponent (negative : Bool) (significand : Nat) (start : Int) (c : Cursor) :
    Except Fault (Found × Cursor) :=
  let c := c.advance
  let down := c.at '-'
  let c := c.skipSign
  match c.rest with
  | [] => c.faultHere .endInValue
  | _ :: _ =>
    if !c.atDigit then c.faultAhead .invalidNumber
    else
      let (digits, after) := c.digits
      match takeDigits exponentLimit 0 digits with
      | (n, []) => decimal negative significand (if down then start - n else start + n) after
      | (_, left) =>
        if significand ≠ 0 ∧ !down then
          -- The fault shows at the first digit that goes past the limit.
          .error ⟨.numberOutOfRange,
            ⟨c.position.line, c.position.column + (digits.length - left.length) + 1⟩⟩
        else .ok (.decimal (if negative then "-0.0" else "0.0"), after)

/-- What follows the digits of a number: an exponent or nothing. -/
def readPower (negative : Bool) (significand : Nat) (exponent : Int) (c : Cursor) :
    Except Fault (Found × Cursor) :=
  if c.atExponent then readExponent negative significand exponent c
  else decimal negative significand exponent c

/-- Reads a fraction, from its point on. -/
def readFraction (negative : Bool) (significand : Nat) (exponent : Int) (c : Cursor) :
    Except Fault (Found × Cursor) :=
  let (digits, after) := c.advance.digits
  if digits = [] then
    if after.rest = [] then after.faultAhead .endInValue else after.faultAhead .invalidNumber
  else
    let (significand, left) := takeDigits significandLimit significand digits
    readPower negative significand (exponent - (digits.length - left.length : Nat)) after

/-- What follows the whole part of a number. -/
def readTail (negative : Bool) (significand : Nat) (exponent : Int) (c : Cursor) :
    Except Fault (Found × Cursor) :=
  if c.at '.' then readFraction negative significand exponent c
  else readPower negative significand exponent c

/-- A number without fraction and exponent. -/
def whole (negative : Bool) (n : Nat) (c : Cursor) : Except Fault (Found × Cursor) :=
  if !negative then .ok (.integer n, c)
  else if n = 0 ∨ Nat.pow 2 63 < n then decimal true n 0 c
  else .ok (.integer (-n), c)

/-- Reads a number that starts here. -/
def readNumber (c : Cursor) : Except Fault (Found × Cursor) :=
  let negative := c.at '-'
  let c := if negative then c.advance else c
  match c.rest with
  | [] => c.faultHere .endInValue
  | x :: _ =>
    if x = '0' then
      let c := c.advance
      if c.atDigit then c.faultAhead .invalidNumber
      else if c.at '.' || c.atExponent then readTail negative 0 0 c
      else whole negative 0 c
    else if isDigit x then
      let (digits, after) := c.digits
      match takeDigits significandLimit 0 digits with
      | (n, []) =>
        if after.at '.' || after.atExponent then readTail negative n 0 after
        else whole negative n after
      | (n, left) => readTail negative n left.length after
    else c.faultAhead .invalidNumber

/-! ## Passing a number -/

/-- Passes an exponent, from its letter on. -/
def skipExponent (c : Cursor) : Except Fault Cursor :=
  let c := c.advance.skipSign
  if c.atDigit then .ok c.digits.2 else c.faultAhead .invalidNumber

/-- Passes what follows the digits of a number. -/
def skipPower (c : Cursor) : Except Fault Cursor :=
  if c.atExponent then skipExponent c else .ok c

/-- Passes what follows the whole part of a number. -/
def skipTail (c : Cursor) : Except Fault Cursor :=
  if c.at '.' then
    let (digits, after) := c.advance.digits
    if digits = [] then after.faultAhead .invalidNumber else skipPower after
  else skipPower c

/-- Passes a number that starts here. -/
def skipNumber (c : Cursor) : Except Fault Cursor :=
  let c := if c.at '-' then c.advance else c
  if c.at '0' then
    let c := c.advance
    if c.atDigit then c.faultAhead .invalidNumber else skipTail c
  else if c.atDigit then skipTail c.digits.2
  else c.faultAhead .invalidNumber

end PageExtract.Json
