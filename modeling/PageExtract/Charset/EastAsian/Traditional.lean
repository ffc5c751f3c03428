import PageExtract.Charset.EastAsian.Grid
import PageExtract.Charset.EastAsian.Taking
import PageExtract.Charset.EastAsian.TraditionalTable

/-!
# The character set of traditional Chinese

Big5 has two bytes for a character, the number of a row and of a cell in the row.
Four cells hold a letter and a mark above it, which are two characters.
-/

namespace PageExtract.Charset.Traditional

/-- The number of cells in a row. -/
def width : Nat := 157

/-- The grid. -/
def grid : Grid := .ofTable (126 * width) gridTable

/-- The characters in a cell. -/
def chars? (cell : Nat) : Option (List Char) :=
  match cell with
  | 1133 => some ['Ê', '\u0304']
  | 1135 => some ['Ê', '\u030C']
  | 1164 => some ['ê', '\u0304']
  | 1166 => some ['ê', '\u030C']
  | _ => (grid.get? cell).map ([·])

/-- The characters of two bytes. -/
def pair (a b : Nat) : Option (List Char) :=
  if (0x40 ≤ b ∧ b < 0x7F) ∨ (0xA1 ≤ b ∧ b < 0xFF) then
    chars? ((a - 0x81) * width + (b - if b < 0x7F then 0x40 else 0x62))
  else none

/-- Reads what two bytes stand for, of which the first is known. -/
def takeRest (a : UInt8) : List UInt8 → Taking
  | [] => .wrong 0
  | b :: _ =>
      match pair a.toNat b.toNat with
      | some chars => ⟨chars, 1⟩
      | none => .orWrong 1 b none

/-- Reads a character. -/
def take (b : UInt8) (rest : List UInt8) : Taking :=
  if b < 0x80 then .one (Char.ofNat b.toNat)
  else if 0x81 ≤ b ∧ b < 0xFF then takeRest b rest
  else .wrong 0

end PageExtract.Charset.Traditional
