import PageExtract.Charset.EastAsian.Grid
import PageExtract.Charset.EastAsian.KoreanTable
import PageExtract.Charset.EastAsian.Taking

/-!
# The Korean character set

EUC-KR has two bytes for a character, the number of a row and of a cell in the
row.  The inner square of the grid holds the common syllables.  All others stand
around it, in order, in the cells whose number is a letter or from the upper half.
-/

namespace PageExtract.Charset.Korean

/-- The number of cells in a row. -/
def width : Nat := 190

/-- Whether a cell outside the inner square may hold a syllable. -/
def isOuter (row column : Nat) : Bool :=
  (column < 26 || (32 ≤ column && column < 58) || 64 ≤ column) && (row < 32 || column < 96)

/-- The cells that hold the less common syllables. -/
def outerCells : List Nat :=
  (List.range 70).flatMap fun row =>
    ((List.range width).filter (isOuter row)).map fun column => row * width + column

/-- The grid. -/
def grid : Grid :=
  let inner := Grid.ofTable (126 * width) innerTable
  inner.fill outerCells (inner.missing 0xAC00 0xD7A3)

/-- The character of two bytes. -/
def pair (a b : Nat) : Option Char :=
  if 0x41 ≤ b ∧ b < 0xFF then grid.get? ((a - 0x81) * width + (b - 0x41)) else none

/-- Reads a character. -/
def take (b : UInt8) (rest : List UInt8) : Taking :=
  if b < 0x80 then .one (Char.ofNat b.toNat)
  else if 0x81 ≤ b ∧ b < 0xFF then takePair pair b rest
  else .wrong 0

end PageExtract.Charset.Korean
