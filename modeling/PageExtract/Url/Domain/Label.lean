import PageExtract.Text.Normal
import PageExtract.Url.Domain.Table

/-!
# What may stand in a label

A domain name is a row of labels between dots.  A label must be composed text
and hold only characters that are not changed in domain names.  It may not start
with a mark.

Two characters that are not seen, the joiners, may stand only where they make a
difference: after a virama, and the one that keeps letters apart also between two
letters that would join.

If some label of a name is written from right to left, all labels keep the rules
for names of mixed direction.
-/

namespace PageExtract.Url

open Text (Range rangeOf? readRanges)

/-- How characters are changed in domain names. -/
def mappings : List Range := readRanges mappingTable

/-- The marks. -/
def marks : List Range := readRanges markTable

/-- The directions that characters are written in. -/
def directions : List Range := readRanges directionTable

/-- How letters join. -/
def joinings : List Range := readRanges joiningTable

/-- What a character is changed to, or nothing if it may not stand in a domain name. -/
def mapChar? (c : Char) : Option (List Char) :=
  match rangeOf? mappings c.toNat with
  | none => some [c]
  | some r =>
    match r.value with
    | ['!'] => none
    | ['-'] => some []
    | value =>
      match Text.codePoints value with
      | [n] => some [Char.ofNat (n + (c.toNat - r.first))]
      | codes => some (codes.map Char.ofNat)

/-- Whether a character is not changed in domain names. -/
def isStable (c : Char) : Bool := (rangeOf? mappings c.toNat).isNone

/-- Whether a character is a mark. -/
def isMark (c : Char) : Bool := (rangeOf? marks c.toNat).isSome

/-! ## Joiners -/

/-- How a letter joins: `L`, `R`, `D` or `T`. -/
def joining (c : Char) : List Char :=
  match rangeOf? joinings c.toNat with
  | some r => r.value
  | none => []

/-- Whether the first character that counts joins in one of some ways. -/
def joinsFirst (ways : List (List Char)) (cs : List Char) : Bool :=
  match cs.dropWhile fun c => joining c == ['T'] with
  | [] => false
  | c :: _ => ways.contains (joining c)

/-- Whether every joiner in a label has a reason.  `before` holds the characters before,
nearest first. -/
def joinersFit (before : List Char) : List Char → Bool
  | [] => true
  | c :: rest =>
      let afterVirama := match before with
        | [] => false
        | b :: _ => Text.combiningClass b = 9
      let fits :=
        if c = '\u200d' then afterVirama
        else if c = '\u200c' then
          afterVirama || (joinsFirst [['L'], ['D']] before && joinsFirst [['R'], ['D']] rest)
        else true
      fits && joinersFit (c :: before) rest

/-! ## Directions -/

/-- The direction of a character, by its name. -/
def direction (c : Char) : String :=
  match rangeOf? directions c.toNat with
  | some r => String.ofList r.value
  | none => ""

/-- Whether a label has a character that is written from right to left. -/
def isRightToLeft (label : List Char) : Bool :=
  label.any fun c => ["R", "AL", "AN"].contains (direction c)

/-- Whether a label keeps the rules for names of mixed direction. -/
def directionsFit (label : List Char) : Bool :=
  let all := label.map direction
  let neutral := ["EN", "ES", "CS", "ET", "ON", "BN", "NSM"]
  let last := (all.reverse.dropWhile (· == "NSM")).head?.getD ""
  match all with
  | [] => true
  | first :: _ =>
    if first == "R" || first == "AL" then
      all.all (fun d => (["R", "AL", "AN"] ++ neutral).contains d) &&
        ["R", "AL", "EN", "AN"].contains last && !(all.contains "EN" && all.contains "AN")
    else
      first == "L" && all.all (fun d => ("L" :: neutral).contains d) && ["L", "EN"].contains last

/-! ## Labels -/

/-- Whether a label may stand in a domain name. -/
def isLabel (label : List Char) : Bool :=
  (match label with
    | [] => true
    | c :: _ => !isMark c) &&
  label.all isStable && joinersFit [] label

end PageExtract.Url
