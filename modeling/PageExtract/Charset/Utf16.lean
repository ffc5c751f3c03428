import PageExtract.Charset.Utf8

/-!
# UTF-16

A character is a unit of two bytes, or two such units: a high surrogate and then
a low one.  A surrogate that stands alone and a byte that is left over read as
U+FFFD.  If a high surrogate and a single byte are left over, they read as one.
-/

namespace PageExtract.Charset.Utf16

/-- Whether a unit is the first half of a pair. -/
def isHigh (u : Nat) : Bool := 0xD800 ≤ u && u < 0xDC00

/-- Whether a unit is the second half of a pair. -/
def isLow (u : Nat) : Bool := 0xDC00 ≤ u && u < 0xE000

/-- The character of a unit that is not the second half of a pair, when `rest`
reads the bytes after it. -/
def decodeUnit (rest : Option Nat → List Char) (u : Nat) : List Char :=
  if isHigh u then rest (some u)
  else if isLow u then replacement :: rest none
  else Char.ofNat u :: rest none

/-- The characters that some bytes stand for, after a high surrogate or not. -/
def decodeFrom (bigEndian : Bool) : Option Nat → List UInt8 → List Char
  | none, [] => []
  | some _, [] => [replacement]
  | _, [_] => [replacement]
  | pending, a :: b :: rest =>
      let u := if bigEndian then a.toNat * 256 + b.toNat else b.toNat * 256 + a.toNat
      match pending with
      | none => decodeUnit (fun p => decodeFrom bigEndian p rest) u
      | some high =>
        if isLow u then
          Char.ofNat (0x10000 + (high - 0xD800) * 1024 + (u - 0xDC00)) ::
            decodeFrom bigEndian none rest
        else replacement :: decodeUnit (fun p => decodeFrom bigEndian p rest) u

/-- The characters that some bytes stand for. -/
def decode (bigEndian : Bool) (bytes : List UInt8) : List Char :=
  decodeFrom bigEndian none bytes

end PageExtract.Charset.Utf16
