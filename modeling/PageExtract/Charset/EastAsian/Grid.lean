import PageExtract.Text.Entries

/-!
# Grids of characters

An East Asian character set arranges its characters in a *grid*, the cells of
which are numbered row by row.  Not every cell holds a character.

A grid is written as a table.  An entry starts with the number of a cell.  Either
a colon and some characters follow, which stand in this cell and those after it,
or a plus sign and a run of code points, by the first of them and their number:
`3:xyz` or `3+78.3`.
-/

namespace PageExtract.Charset

/-- A grid of characters. -/
structure Grid where
  /-- What the cells hold. -/
  cells : Array (Option Char)

namespace Grid

/-- The character in a cell. -/
def get? (g : Grid) (cell : Nat) : Option Char := (g.cells[cell]?).join

/-- A grid of a given number of cells, which hold nothing. -/
def blank (size : Nat) : Grid := ⟨Array.replicate size none⟩

/-- The grid with a character in a cell. -/
def put (g : Grid) (cell : Nat) (c : Char) : Grid := ⟨g.cells.setIfInBounds cell (some c)⟩

/-- The grid with some characters in a cell and those after it. -/
def putAll (g : Grid) (cell : Nat) : List Char → Grid
  | [] => g
  | c :: rest => (g.put cell c).putAll (cell + 1) rest

/-- The grid with some characters in some cells, one in each while both last. -/
def fill (g : Grid) : List Nat → List Char → Grid
  | cell :: cells, c :: chars => (g.put cell c).fill cells chars
  | _, _ => g

/-- The characters that an entry lists. -/
def entryChars : List Char → List Char
  | ':' :: chars => chars
  | '+' :: run =>
      let first := Text.hexNumber (run.takeWhile (· ≠ '.'))
      let length := Text.hexNumber ((run.dropWhile (· ≠ '.')).drop 1)
      (List.range length).map fun i => Char.ofNat (first + i)
  | _ => []

/-- The grid with the characters of an entry. -/
def putEntry (g : Grid) (entry : List Char) : Grid :=
  let isMark (c : Char) : Bool := c = ':' || c = '+'
  g.putAll (Text.hexNumber (entry.takeWhile (!isMark ·))) (entryChars (entry.dropWhile (!isMark ·)))

/-- The grid of a given number of cells that a table stands for. -/
def ofTable (size : Nat) (table : String) : Grid :=
  (Text.entries table).foldl putEntry (blank size)

/-- The characters from `first` to `last` that stand in no cell, in order. -/
def missing (g : Grid) (first last : Nat) : List Char :=
  let span := last + 1 - first
  let isThere := g.cells.foldl (fun (seen : Array Bool) c =>
    match c with
    | some c => if first ≤ c.toNat then seen.setIfInBounds (c.toNat - first) true else seen
    | none => seen) (Array.replicate span false)
  ((List.range span).filter fun i => !isThere.getD i false).map fun i => Char.ofNat (first + i)

end Grid

end PageExtract.Charset
