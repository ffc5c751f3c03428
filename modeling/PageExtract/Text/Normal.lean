import PageExtract.Text.NormalTable
import PageExtract.Text.Ranges

/-!
# Composed text

Many characters are made of a letter and marks.  Text is *composed* if it uses
the one character wherever there is one, and has marks in the order of their
classes.

To compose a text its characters are first taken apart.  Then marks are put in
order, those of the same class in the order they came.  Last, each character
takes up the marks after it as far as it can.  A mark of the same or a higher
class in between keeps a mark from being taken up.

The syllables of Hangul are made of two or three letters by a rule of their own.
-/

namespace PageExtract.Text

/-- What characters are made of. -/
def decompositions : List Range := readRanges decompositionTable

/-- The classes of marks. -/
def combiningClasses : List Range := readRanges combiningTable

/-- The class of a character, zero if it is no mark. -/
def combiningClass (c : Char) : Nat :=
  if c.toNat < 0x300 then 0
  else match rangeOf? combiningClasses c.toNat with
    | some r => hexNumber r.value
    | none => 0

/-! ## Taking apart -/

/-- The first syllable of Hangul. -/
def hangulFirst : Nat := 0xAC00

/-- The letters of a syllable of Hangul. -/
def hangulLetters? (c : Char) : Option (List Char) :=
  let n := c.toNat - hangulFirst
  if hangulFirst ≤ c.toNat ∧ n < 11172 then
    let last := n % 28
    some <| Char.ofNat (0x1100 + n / 588) :: Char.ofNat (0x1161 + n % 588 / 28) ::
      if last = 0 then [] else [Char.ofNat (0x11A7 + last)]
  else none

/-- The parts of a character, taken apart so many times. -/
def partsOf : Nat → Char → List Char
  | 0, c => [c]
  | times + 1, c =>
      if c.toNat < 0xC0 then [c]
      else match hangulLetters? c with
        | some letters => letters
        | none => match rangeOf? decompositions c.toNat with
          | none => [c]
          | some r =>
            (codePoints (r.value.dropWhile (· = '!'))).flatMap fun n =>
              partsOf times (Char.ofNat n)

/-- How many times a character can be taken apart. -/
def maxParts : Nat := 4

/-- Puts a character with its class before those that it must not come after. -/
def insertMark (x : Char × Nat) : List (Char × Nat) → List (Char × Nat)
  | [] => [x]
  | y :: rest =>
      if x.2 ≠ 0 ∧ y.2 ≠ 0 ∧ y.2 < x.2 then y :: insertMark x rest else x :: y :: rest

/-- The parts of a text with their classes, in order. -/
def decompose (cs : List Char) : List (Char × Nat) :=
  ((cs.flatMap (partsOf maxParts)).map fun c => (c, combiningClass c)).foldr insertMark []

/-! ## Putting together -/

/-- The syllable of Hangul that two characters make. -/
def hangulPair? (a b : Char) : Option Char :=
  let x := a.toNat
  let y := b.toNat
  if 0x1100 ≤ x ∧ x < 0x1113 ∧ 0x1161 ≤ y ∧ y < 0x1176 then
    some (Char.ofNat (hangulFirst + ((x - 0x1100) * 21 + (y - 0x1161)) * 28))
  else if hangulFirst ≤ x ∧ x - hangulFirst < 11172 ∧ (x - hangulFirst) % 28 = 0 ∧
      0x11A7 < y ∧ y < 0x11C3 then
    some (Char.ofNat (x + (y - 0x11A7)))
  else none

/-- The character that two characters make. -/
def pair? (a b : Char) : Option Char :=
  match hangulPair? a b with
  | some c => some c
  | none =>
    (decompositions.find? fun r =>
      r.value.head? ≠ some '!' && codePoints r.value == [a.toNat, b.toNat]).map fun r =>
        Char.ofNat r.first

/-- Puts characters together.  `base` is the last one that is no mark, and
`marks` are those after it that were not taken up, with their classes, last first. -/
def composeFrom (base : Char) (marks : List (Char × Nat)) : List (Char × Nat) → List Char
  | [] => base :: (marks.map Prod.fst).reverse
  | (c, k) :: rest =>
      let free := match marks with
        | [] => true
        | (_, last) :: _ => last < k
      match if free then pair? base c else none with
      | some made => composeFrom made marks rest
      | none =>
        if k = 0 then base :: (marks.map Prod.fst).reverse ++ composeFrom c [] rest
        else composeFrom base ((c, k) :: marks) rest

/-- Composed text. -/
def compose (cs : List Char) : List Char :=
  if cs.all (·.toNat < 0x300) then cs
  else
    let parts := decompose cs
    let marks := parts.takeWhile fun p => p.2 ≠ 0
    (marks.map Prod.fst) ++ match parts.dropWhile fun p => p.2 ≠ 0 with
      | [] => []
      | (base, _) :: rest => composeFrom base [] rest

end PageExtract.Text
