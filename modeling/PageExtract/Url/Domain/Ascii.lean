import PageExtract.Charset.Utf8
import PageExtract.Url.Domain.Label
import PageExtract.Url.Domain.Punycode

/-!
# Domain names in ASCII

The domain name of a URL is brought into ASCII.  Its characters are changed to
those that domain names have, which brings letters to lower case, and composed.
Then each label with other characters than those of ASCII is written in ASCII
letters, with `xn--` before them.  A label that starts like this already must
stand for such a label.

Names are refused if a label may not stand in a domain name, or if what comes out
has a character that would end the name where it stands in a URL.
-/

namespace PageExtract.Url

/-- What a label in ASCII letters starts with. -/
def encodedStart : List Char := ['x', 'n', '-', '-']

/-- Whether a character may not stand in the host of a URL. -/
def endsDomain (c : Char) : Bool :=
  c.toNat ≤ 0x20 || c.toNat = 0x7F || ("%#/:<>?@[\\]^|".toList).contains c

/-- A label as it is read. -/
def readLabel? (label : List Char) : Option (List Char) :=
  if encodedStart.isPrefixOf label then do
    let decoded ← Punycode.decode? (label.drop 4)
    if decoded.isEmpty ∨ decoded.all (·.toNat < 128) ∨ encodedStart.isPrefixOf decoded ∨
        Text.compose decoded ≠ decoded ∨ Punycode.encode decoded ≠ label.drop 4 then none
    else if isLabel decoded then some decoded else none
  else if label.all (·.toNat < 128) ∨ isLabel label then some label
  else none

/-- A label as it is written. -/
def writeLabel (label : List Char) : List Char :=
  if label.all (·.toNat < 128) then label else encodedStart ++ Punycode.encode label

/-- A domain name with other characters than those of ASCII, or with labels that stand for them. -/
def foreignDomain? (cs : List Char) : Option (List Char) := do
  let mapped ← cs.mapM mapChar?
  let labels ← (Text.splitAt '.' (Text.compose mapped.flatten)).mapM readLabel?
  if labels.any isRightToLeft && !labels.all directionsFit then none
  else some (Text.joinWith '.' (labels.map writeLabel))

/-- A domain name in ASCII, from the bytes that stand for it. -/
def domain? (bytes : List UInt8) : Option (List Char) := do
  let cs ← Charset.Utf8.decode? bytes
  let lowered := cs.map Char.toLower
  let plain := cs.all (·.toNat < 128) &&
    (Text.splitAt '.' lowered).all fun label => !encodedStart.isPrefixOf label
  let name ← if plain then some lowered else foreignDomain? cs
  if name.any endsDomain then none else some name

end PageExtract.Url
