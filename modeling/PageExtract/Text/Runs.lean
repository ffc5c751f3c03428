import PageExtract.Text.Entries

/-!
# Runs of code points

A large set of code points is written as the list of its *runs*, in order, each
given by the gap since the end of the run before it and by its length, in base
36.  A length of one is left out: `3j.y c` is a run of 34 after a gap of 127,
then a single code point after a gap of 12.  `parseRuns` reads this form.
-/

namespace PageExtract.Text

/-- The value of a digit in base 36.  Other characters count as zero. -/
def digit36 (c : Char) : Nat :=
  if '0' ≤ c ∧ c ≤ '9' then c.toNat - '0'.toNat
  else if 'a' ≤ c ∧ c ≤ 'z' then c.toNat - 'a'.toNat + 10
  else 0

/-- The value of a numeral in base 36. -/
def number36 (cs : List Char) : Nat := cs.foldl (fun n c => n * 36 + digit36 c) 0

/-- The runs after `start` that a list of written runs stands for. -/
def runsFrom (start : Nat) : List (List Char) → List (Nat × Nat)
  | [] => []
  | piece :: pieces =>
      let gap := number36 (piece.takeWhile (· ≠ '.'))
      let length := match piece.dropWhile (· ≠ '.') with
        | [] => 1
        | _ :: digits => number36 digits
      (start + gap, start + gap + length - 1) :: runsFrom (start + gap + length) pieces

/-- The runs that a table stands for, as first and last code point. -/
def parseRuns (table : String) : List (Nat × Nat) := runsFrom 0 (entries table)

/-- Whether a code point lies in one of the runs. -/
def inRuns (runs : List (Nat × Nat)) (n : Nat) : Bool :=
  runs.any fun (first, last) => first ≤ n && n ≤ last

end PageExtract.Text
