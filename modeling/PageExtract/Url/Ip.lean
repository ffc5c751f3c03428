import PageExtract.Text.Split

/-!
# Addresses of the internet

An address has 32 bits or 128.  The short ones are written as four decimal
numbers between dots.  The long ones are written as eight hexadecimal numbers
between colons, their *pieces*, where the first of the longest runs of zeros is
left out, unless it is a single one.

Reading takes more forms than that.  A run of zeros may be left out anywhere,
but only once, and the last two pieces may be written like a short address.
-/

namespace PageExtract

/-- An address of 32 bits. -/
structure Ipv4 where
  /-- The bits as a number. -/
  value : BitVec 32
  deriving DecidableEq, Repr

/-- An address of 128 bits. -/
structure Ipv6 where
  /-- The bits as a number. -/
  value : BitVec 128
  deriving DecidableEq, Repr

/-- An address. -/
inductive Ip where
  /-- A short address. -/
  | v4 (a : Ipv4)
  /-- A long address. -/
  | v6 (a : Ipv6)
  deriving DecidableEq, Repr

namespace Ip

/-- Whether a character is a decimal digit. -/
def isDigit (c : Char) : Bool := '0' ≤ c && c ≤ '9'

/-- The value of a hexadecimal digit. -/
def hexValue? (c : Char) : Option Nat :=
  if '0' ≤ c ∧ c ≤ '9' then some (c.toNat - '0'.toNat)
  else if 'a' ≤ c ∧ c ≤ 'f' then some (c.toNat - 'a'.toNat + 10)
  else if 'A' ≤ c ∧ c ≤ 'F' then some (c.toNat - 'A'.toNat + 10)
  else none

/-- The number that digits stand for in some base, if they are digits of it. -/
def number? (base : Nat) (cs : List Char) : Option Nat :=
  cs.foldl (fun n c => do
    let n ← n
    let d ← hexValue? c
    if d < base then some (n * base + d) else none) (some 0)

end Ip

namespace Ipv4

/-- The four numbers of an address. -/
def octets (a : Ipv4) : List Nat :=
  let n := a.value.toNat
  [n / 16777216, n / 65536 % 256, n / 256 % 256, n % 256]

/-- The address with four numbers. -/
def ofOctets (numbers : List Nat) : Ipv4 :=
  ⟨BitVec.ofNat 32 (numbers.foldl (fun n d => n * 256 + d) 0)⟩

/-- An address as it is written. -/
def chars (a : Ipv4) : List Char :=
  Text.joinWith '.' (a.octets.map fun d => Nat.toDigits 10 d)

/-- The number below 256 that digits stand for.  No zero may stand before others. -/
def octet? (cs : List Char) : Option Nat :=
  match cs with
  | [] => none
  | '0' :: _ :: _ => none
  | _ => if cs.length ≤ 3 then (Ip.number? 10 cs).filter (· < 256) else none

/-- Reads an address. -/
def parse? (cs : List Char) : Option Ipv4 :=
  let parts := Text.splitAt '.' cs
  if parts.length = 4 then (parts.mapM octet?).map ofOctets else none

end Ipv4

namespace Ipv6

/-- The eight pieces of an address. -/
def pieces (a : Ipv6) : List Nat :=
  let n := a.value.toNat
  [n >>> 112, n >>> 96 % 65536, n >>> 80 % 65536, n >>> 64 % 65536,
    n >>> 48 % 65536, n >>> 32 % 65536, n >>> 16 % 65536, n % 65536]

/-- The address with eight pieces. -/
def ofPieces (numbers : List Nat) : Ipv6 :=
  ⟨BitVec.ofNat 128 (numbers.foldl (fun n d => n * 65536 + d) 0)⟩

/-- The number of zeros that a list starts with. -/
def leadingZeros (numbers : List Nat) : Nat := (numbers.takeWhile (· = 0)).length

/-- Where the first of the longest runs of zeros starts, and its length. -/
def longestZeros : List Nat → Nat × Nat
  | [] => (0, 0)
  | d :: rest =>
      let here := leadingZeros (d :: rest)
      let (start, length) := longestZeros rest
      if length ≤ here then (0, here) else (start + 1, length)

/-- Pieces as they are written. -/
def writePieces (numbers : List Nat) : List Char :=
  Text.joinWith ':' (numbers.map fun d => Nat.toDigits 16 d)

/-- An address as it is written. -/
def chars (a : Ipv6) : List Char :=
  let (start, length) := longestZeros a.pieces
  if length < 2 then writePieces a.pieces
  else writePieces (a.pieces.take start) ++ ':' :: ':' ::
    writePieces (a.pieces.drop (start + length))

/-- The piece that one to four hexadecimal digits stand for. -/
def piece? (cs : List Char) : Option Nat :=
  if cs.isEmpty ∨ 4 < cs.length then none else Ip.number? 16 cs

/-- The pieces that groups between colons stand for.  The last group may be written
like a short address if `endsHere`, and then it is two pieces. -/
def groups? (endsHere : Bool) : List (List Char) → Option (List Nat)
  | [] => some []
  | [last] =>
      if endsHere ∧ last.contains '.' then
        (Ipv4.parse? last).map fun a =>
          [a.value.toNat / 65536, a.value.toNat % 65536]
      else (piece? last).map fun d => [d]
  | group :: rest => do
      let d ← piece? group
      return d :: (← groups? endsHere rest)

/-- The pieces of one side of a run of zeros that is left out. -/
def side? (endsHere : Bool) (cs : List Char) : Option (List Nat) :=
  if cs.isEmpty then some [] else groups? endsHere (Text.splitAt ':' cs)

/-- The two sides of the first pair of colons. -/
def atDouble? : List Char → Option (List Char × List Char)
  | ':' :: ':' :: rest => some ([], rest)
  | [] => none
  | c :: rest => (atDouble? rest).map fun (left, right) => (c :: left, right)

/-- Reads an address. -/
def parse? (cs : List Char) : Option Ipv6 :=
  match atDouble? cs with
  | none => do
      let all ← side? true cs
      if all.length = 8 then some (ofPieces all) else none
  | some (left, right) => do
      let left ← side? false left
      let right ← side? true right
      if left.length + right.length ≤ 7 then
        some (ofPieces (left ++ List.replicate (8 - left.length - right.length) 0 ++ right))
      else none

end Ipv6

/-- Reads an address of either length. -/
def Ip.parse? (cs : List Char) : Option Ip :=
  match Ipv4.parse? cs with
  | some a => some (.v4 a)
  | none => (Ipv6.parse? cs).map .v6

end PageExtract
