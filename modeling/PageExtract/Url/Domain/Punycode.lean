/-!
# Labels in letters of ASCII

A label with other characters than those of ASCII is written in ASCII: first its
ASCII characters, and then, after a hyphen, the others as a row of numbers.  Each
number says how far to go on counting through all places in the label and all
characters, in the order of the characters, until the next one is to be put in.

A number is a row of digits in base 36 whose last digit is known by being
small.  What counts as small follows the size of the numbers before.
-/

namespace PageExtract.Url.Punycode

/-- The value of a digit. -/
def digit? (c : Char) : Option Nat :=
  if 'a' ≤ c ∧ c ≤ 'z' then some (c.toNat - 'a'.toNat)
  else if '0' ≤ c ∧ c ≤ '9' then some (c.toNat - '0'.toNat + 26)
  else none

/-- The digit with a value. -/
def digit (n : Nat) : Char :=
  if n < 26 then Char.ofNat ('a'.toNat + n) else Char.ofNat ('0'.toNat + (n - 26))

/-- The least value of a digit after which another one comes, for the digit at place `k`. -/
def threshold (k bias : Nat) : Nat := min 26 (max 1 (36 * (k + 1) - bias))

theorem threshold_bounds (k bias : Nat) : 1 ≤ threshold k bias ∧ threshold k bias ≤ 26 := by
  unfold threshold
  omega

/-- The part of the bias that comes from how often a number can be cut to size. -/
def biasFrom (delta k : Nat) : Nat :=
  if 455 < delta then biasFrom (delta / 35) (k + 36) else k + 36 * delta / (delta + 38)
termination_by delta

/-- The bias after a number, for a label that has `length` characters then. -/
def adapt (delta length : Nat) (first : Bool) : Nat :=
  let delta := if first then delta / 700 else delta / 2
  biasFrom (delta + delta / length) 0

/-- The digits of a number from place `k` on. -/
def encodeNumber (bias k n : Nat) : List Char :=
  let t := threshold k bias
  if n < t then [digit n]
  else digit (t + (n - t) % (36 - t)) :: encodeNumber bias (k + 1) ((n - t) / (36 - t))
termination_by n
decreasing_by
  have := threshold_bounds k bias
  have : (n - threshold k bias) / (36 - threshold k bias) ≤ n - threshold k bias :=
    Nat.div_le_self _ _
  omega

/-- What is known while a label is written. -/
structure State where
  /-- The characters that were put in so far. -/
  handled : Nat
  /-- The places passed since the last one. -/
  delta : Nat
  /-- The bias. -/
  bias : Nat
  /-- Whether no number has been written. -/
  first : Bool
  /-- The digits, last first. -/
  digits : List Char

/-- Passes the places of a label while character `n` is put in. -/
def State.pass (n : Nat) (s : State) : List Nat → State
  | [] => s
  | c :: rest =>
      let s :=
        if c < n then { s with delta := s.delta + 1 }
        else if c = n then
          { handled := s.handled + 1
            delta := 0
            bias := adapt s.delta (s.handled + 1) s.first
            first := false
            digits := (encodeNumber s.bias 0 s.delta).reverse ++ s.digits }
        else s
      s.pass n rest

/-- Puts characters in, each of them wherever it stands.  `next` is the character
that counting has come to. -/
def State.putAll (label : List Nat) (next : Nat) (s : State) : List Nat → State
  | [] => s
  | n :: rest =>
      let s := { s with delta := s.delta + (n - next) * (s.handled + 1) }
      let s := s.pass n label
      { s with delta := s.delta + 1 }.putAll label (n + 1) rest

/-- Puts a number in its place in an ordered list, unless it is there. -/
def insertOrdered (n : Nat) : List Nat → List Nat
  | [] => [n]
  | m :: rest =>
      if n < m then n :: m :: rest
      else if n = m then m :: rest
      else m :: insertOrdered n rest

/-- A label in letters of ASCII. -/
def encode (label : List Char) : List Char :=
  let basic := label.filter (·.toNat < 128)
  let codes := label.map Char.toNat
  let others := (codes.filter (128 ≤ ·)).foldr insertOrdered []
  let start : State := ⟨basic.length, 0, 72, true, []⟩
  (if basic.isEmpty then [] else basic ++ ['-']) ++ (start.putAll codes 128 others).digits.reverse

/-- Reads numbers and puts characters in.  `i` is the place and `n` the character
that counting has come to, `number` is what the digits before made of the number,
`weight` what the next digit counts, and `k` its place. -/
def decodeFrom (label : List Nat) (n i bias number weight k : Nat) :
    List Char → Option (List Nat)
  | [] => if k = 0 then some label else none
  | c :: rest => do
      let d ← digit? c
      let number := number + d * weight
      let t := threshold k bias
      if d < t then
        let length := label.length + 1
        let first := i == 0
        let n := n + (i + number) / length
        let place := (i + number) % length
        if 0x10FFFF < n ∨ (0xD800 ≤ n ∧ n ≤ 0xDFFF) then none
        else
          decodeFrom (label.take place ++ n :: label.drop place) n (place + 1)
            (adapt number length first) 0 1 0 rest
      else decodeFrom label n i bias number (weight * (36 - t)) (k + 1) rest

/-- The label that letters of ASCII stand for. -/
def decode? (cs : List Char) : Option (List Char) := do
  let extended := (cs.reverse.takeWhile (· ≠ '-')).reverse
  let basic := cs.take (cs.length - extended.length - 1)
  if basic.any (128 ≤ ·.toNat) then none
  else (decodeFrom (basic.map Char.toNat) 128 0 72 0 1 0 extended).map (·.map Char.ofNat)

end PageExtract.Url.Punycode
