/-!
# Tables written as text

A long table is written as one text, with spaces and line ends between its
entries.  `entries` takes it apart.  The numbers in an entry are hexadecimal.
-/

namespace PageExtract.Text

/-- The pieces of a text between its spaces and line ends. -/
def entries (table : String) : List (List Char) :=
  let (entry, done) := table.toList.foldr (fun c (entry, done) =>
    if c = ' ' ∨ c = '\n' then
      match entry with
      | [] => ([], done)
      | _ => ([], entry :: done)
    else (c :: entry, done)) ([], [])
  match entry with
  | [] => done
  | _ => entry :: done

/-- The number that hexadecimal digits stand for. -/
def hexNumber (digits : List Char) : Nat :=
  digits.foldl (fun n d =>
    n * 16 + if d.isDigit then d.toNat - '0'.toNat else d.toLower.toNat - 'a'.toNat + 10) 0

end PageExtract.Text
