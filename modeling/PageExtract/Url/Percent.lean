import PageExtract.Charset.Utf8
import PageExtract.Url.Ip

/-!
# Percent encoding

In a URL some characters are written as the bytes of their UTF-8, each as a
percent sign and two hexadecimal digits.  Which ones depends on the part of the
URL.  Controls and characters beyond ASCII are encoded in all parts.

A percent sign is never encoded itself, so encoding keeps what is encoded
already.  Decoding leaves a percent sign that no two digits follow.
-/

namespace PageExtract.Url

/-- A hexadecimal digit in upper case. -/
def upperHexDigit (n : Nat) : Char := (Nat.digitChar n).toUpper

/-- A byte as a percent sign and two digits. -/
def encodeByte (b : UInt8) : List Char :=
  ['%', upperHexDigit (b.toNat / 16), upperHexDigit (b.toNat % 16)]

/-- Whether a character is encoded everywhere. -/
def isEncodedEverywhere (c : Char) : Bool := c.toNat < 0x20 || 0x7E < c.toNat

/-- The parts of a URL in which different characters are encoded. -/
inductive Part where
  /-- A user name or a password. -/
  | userinfo
  /-- A segment of a path. -/
  | path
  /-- A query. -/
  | query
  /-- A fragment. -/
  | fragment
  deriving DecidableEq, Repr

/-- The visible characters that are encoded in a part. -/
def Part.encoded : Part → List Char
  | userinfo => " \"<>`#?\x7b\x7d/:;=@[\\]^|".toList
  | path => " \"<>`#?\x7b\x7d".toList
  | query => " \"#<>'".toList
  | fragment => " \"<>`".toList

/-- A character as it is written in a part. -/
def Part.writeChar (part : Part) (c : Char) : List Char :=
  if isEncodedEverywhere c || part.encoded.contains c then
    (Charset.Utf8.encodeChar c).flatMap encodeByte
  else [c]

/-- Characters as they are written in a part. -/
def Part.write (part : Part) (cs : List Char) : List Char := cs.flatMap part.writeChar

/-- The bytes that characters stand for. -/
def decodePercent : List Char → List UInt8
  | '%' :: a :: b :: rest =>
      match Ip.hexValue? a, Ip.hexValue? b with
      | some x, some y => UInt8.ofNat (x * 16 + y) :: decodePercent rest
      | _, _ => 0x25 :: decodePercent (a :: b :: rest)
  | c :: rest => Charset.Utf8.encodeChar c ++ decodePercent rest
  | [] => []

end PageExtract.Url
