import PageExtract.Charset.EastAsian.Grid
import PageExtract.Charset.EastAsian.SimplifiedTable
import PageExtract.Charset.EastAsian.Taking

/-!
# The character set of simplified Chinese

GB 18030 has one byte for ASCII and the euro, two bytes for a cell of a grid and
four bytes for every other character.  GBK is a part of it.

The common characters have a square of the grid.  The other ideographs up to
U+9FA5 stand around it in the order of their code points, and some more ideographs
come after them.  Four bytes are a number, in which the digits of the first and
the third byte run to 126 and those of the others to 10.
-/

namespace PageExtract.Charset.Simplified

/-- The number of cells in a row. -/
def width : Nat := 190

/-- The cells that hold ideographs in the order of their code points. -/
def orderedCells : List Nat :=
  List.range (32 * width) ++
    (List.range' 41 85).flatMap fun row => (List.range 96).map fun column => row * width + column

/-- The ideographs that come last in these cells. -/
def lastIdeographs : List Char := (Grid.ofTable 101 lastTable).cells.toList.filterMap id

/-- The grid. -/
def grid : Grid :=
  let common := Grid.ofTable (126 * width) commonTable
  common.fill orderedCells (common.missing 0x4E00 0x9FA5 ++ lastIdeographs)

/-- The number of characters of four bytes below U+10000. -/
def fourByteCount : Nat := 39420

/-- The characters of four bytes below U+10000. -/
def fourByteGrid : Grid := .ofTable fourByteCount fourByteTable

/-- The character of four bytes by their number. -/
def fourByte? (n : Nat) : Option Char :=
  if n < fourByteCount then fourByteGrid.get? n
  else if 189000 ≤ n ∧ n < 189000 + 0x100000 then some (Char.ofNat (0x10000 + (n - 189000)))
  else none

/-- The character of two bytes. -/
def pair (a b : Nat) : Option Char :=
  if (0x40 ≤ b ∧ b < 0x7F) ∨ (0x80 ≤ b ∧ b < 0xFF) then
    grid.get? ((a - 0x81) * width + (b - if b < 0x7F then 0x40 else 0x41))
  else none

/-- Whether a byte is a digit that runs to 10. -/
def isShortDigit (b : UInt8) : Bool := 0x30 ≤ b && b < 0x3A

/-- Whether a byte is a digit that runs to 126. -/
def isLongDigit (b : UInt8) : Bool := 0x81 ≤ b && b < 0xFF

/-- The number of four bytes. -/
def number (a b c d : UInt8) : Nat :=
  (((a.toNat - 0x81) * 10 + (b.toNat - 0x30)) * 126 + (c.toNat - 0x81)) * 10 + (d.toNat - 0x30)

/-- Reads a character of four bytes, of which the first two are known. -/
def takeFour (a b : UInt8) : List UInt8 → Taking
  | [] => .wrong 1
  | [c] => .wrong (if isLongDigit c then 2 else 0)
  | c :: d :: _ =>
      if isLongDigit c && isShortDigit d then
        match fourByte? (number a b c d) with
        | some x => ⟨[x], 3⟩
        | none => .wrong 3
      else .wrong 0

/-- Reads a character. -/
def take (b : UInt8) (rest : List UInt8) : Taking :=
  if b < 0x80 then .one (Char.ofNat b.toNat)
  else if b = 0x80 then .one '€'
  else if b = 0xFF then .wrong 0
  else match rest with
    | [] => .wrong 0
    | c :: rest => if isShortDigit c then takeFour b c rest else takePair pair b (c :: rest)

end PageExtract.Charset.Simplified
