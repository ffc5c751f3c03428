import PageExtract.Charset.EastAsian.Grid
import PageExtract.Charset.EastAsian.JapaneseTable
import PageExtract.Charset.EastAsian.Taking

/-!
# Japanese character sets

There are three ways to write the characters of the Japanese grids as bytes.

* Shift_JIS has one byte for a half-width syllable and two bytes for a cell of
  the main grid, two rows for each first byte.
* EUC-JP has two bytes for a cell of the main grid, one for its row and one for
  its column, two for a half-width syllable and three for a cell of the
  supplementary grid.
* ISO-2022-JP has bytes of the lower half only.  An escape sequence says how those
  after it are read: as ASCII, as Roman letters, where two signs differ from
  ASCII, as half-width syllables or in pairs.  An escape sequence right after
  another one is read as U+FFFD.
-/

namespace PageExtract.Charset.Japanese

/-- The main grid. -/
def mainGrid : Grid := .ofTable 11104 mainTable

/-- The supplementary grid. -/
def supplementGrid : Grid := .ofTable 8836 supplementTable

/-- A half-width syllable by its number. -/
def halfWidth (n : Nat) : Char := Char.ofNat (0xFF61 + n)

/-! ## Shift_JIS -/

/-- The first cell of the main grid that holds a private character. -/
def firstPrivate : Nat := 8836

/-- The last cell of the main grid that holds a private character. -/
def lastPrivate : Nat := 10715

/-- The character of two bytes in Shift_JIS. -/
def shiftJisPair (a b : Nat) : Option Char :=
  if (0x40 ≤ b ∧ b < 0x7F) ∨ (0x80 ≤ b ∧ b < 0xFD) then
    let cell := (a - if a < 0xA0 then 0x81 else 0xC1) * 188 + (b - if b < 0x7F then 0x40 else 0x41)
    if firstPrivate ≤ cell ∧ cell ≤ lastPrivate then
      some (Char.ofNat (0xE000 + (cell - firstPrivate)))
    else mainGrid.get? cell
  else none

/-- Reads a character of Shift_JIS. -/
def takeShiftJis (b : UInt8) (rest : List UInt8) : Taking :=
  if b ≤ 0x80 then .one (Char.ofNat b.toNat)
  else if 0xA1 ≤ b ∧ b < 0xE0 then .one (halfWidth (b.toNat - 0xA1))
  else if b = 0xA0 ∨ 0xFD ≤ b then .wrong 0
  else takePair shiftJisPair b rest

/-! ## EUC-JP -/

/-- Whether a byte is the number of a row or a column in EUC-JP. -/
def isPlace (b : UInt8) : Bool := 0xA1 ≤ b && b < 0xFF

/-- The character in a row and a column of a grid, in EUC-JP. -/
def eucPair (g : Grid) (a b : Nat) : Option Char :=
  if 0xA1 ≤ b ∧ b < 0xFF then g.get? ((a - 0xA1) * 94 + (b - 0xA1)) else none

/-- Reads a cell of the supplementary grid in EUC-JP, after the byte that announces it. -/
def takeSupplement : List UInt8 → Taking
  | [] => .wrong 0
  | [a] => if isPlace a then .wrong 1 else .orWrong 1 a none
  | a :: b :: _ =>
      if isPlace a then .orWrong 2 b (eucPair supplementGrid a.toNat b.toNat)
      else .orWrong 1 a none

/-- The half-width syllable of two bytes in EUC-JP. -/
def eucHalfWidth (_ b : Nat) : Option Char :=
  if 0xA1 ≤ b ∧ b < 0xE0 then some (halfWidth (b - 0xA1)) else none

/-- Reads a character of EUC-JP. -/
def takeEucJp (b : UInt8) (rest : List UInt8) : Taking :=
  if b < 0x80 then .one (Char.ofNat b.toNat)
  else if b = 0x8E then takePair eucHalfWidth b rest
  else if b = 0x8F then takeSupplement rest
  else if isPlace b then takePair (eucPair mainGrid) b rest
  else .wrong 0

/-! ## ISO-2022-JP -/

/-- How bytes of the lower half are read. -/
inductive Shift where
  | ascii
  | roman
  | halfWidth
  | pairs
  deriving DecidableEq, Repr

/-- What has come before in ISO-2022-JP. -/
structure Shifted where
  /-- How bytes are read. -/
  shift : Shift
  /-- Whether an escape sequence has just been read. -/
  justNow : Bool
  deriving DecidableEq, Repr

/-- The way to read bytes that an escape sequence calls for, after its first byte. -/
def escape? : List UInt8 → Option Shift
  | 0x28 :: 0x42 :: _ => some .ascii
  | 0x28 :: 0x4A :: _ => some .roman
  | 0x28 :: 0x49 :: _ => some .halfWidth
  | 0x24 :: 0x40 :: _ => some .pairs
  | 0x24 :: 0x42 :: _ => some .pairs
  | _ => none

/-- The character of a byte that is read as ASCII. -/
def asciiByte (b : UInt8) : Taking :=
  if b < 0x80 ∧ b ≠ 0x0E ∧ b ≠ 0x0F then .one (Char.ofNat b.toNat) else .wrong 0

/-- Reads a character of two bytes of the lower half. -/
def takeLowPair (a : UInt8) : List UInt8 → Taking
  | [] => .wrong 0
  | b :: _ =>
      if 0x21 ≤ b ∧ b < 0x7F then
        match mainGrid.get? ((a.toNat - 0x21) * 94 + (b.toNat - 0x21)) with
        | some c => ⟨[c], 1⟩
        | none => .wrong 1
      else .wrong (if b = 0x1B then 0 else 1)

/-- Reads a character in the lower half that is no escape sequence. -/
def Shift.take (s : Shift) (b : UInt8) (rest : List UInt8) : Taking :=
  match s with
  | .ascii => asciiByte b
  | .roman => if b = 0x5C then .one '¥' else if b = 0x7E then .one '‾' else asciiByte b
  | .halfWidth =>
      if 0x21 ≤ b ∧ b < 0x60 then .one (Japanese.halfWidth (b.toNat - 0x21)) else .wrong 0
  | .pairs => if 0x21 ≤ b ∧ b < 0x7F then takeLowPair b rest else .wrong 0

/-- Reads a character or an escape sequence of ISO-2022-JP. -/
def takeIso2022Jp (s : Shifted) (b : UInt8) (rest : List UInt8) : Taking × Shifted :=
  if b = 0x1B then
    match escape? rest with
    | some shift => (⟨if s.justNow then [replacement] else [], 2⟩, ⟨shift, true⟩)
    | none => (.wrong 0, ⟨s.shift, false⟩)
  else (s.shift.take b rest, ⟨s.shift, false⟩)

/-- The characters of some bytes in ISO-2022-JP. -/
def decodeIso2022Jp (bytes : List UInt8) : List Char :=
  decodeWith takeIso2022Jp ⟨.ascii, false⟩ bytes

end PageExtract.Charset.Japanese
