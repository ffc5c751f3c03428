/-!
# The shortest decimal of a binary fraction

A finite double is `m · 2^q`.  The numbers that round to it form an interval
around it, which reaches half way to the neighbour on either side and has its
ends if `m` is even.  `shortest` gives the decimal with the fewest digits in
that interval, and of those the nearest to the value.

For one digit, two digits and so on it looks at the two neighbours of the
value on the grid of decimals with that many digits.  Seventeen digits always
suffice, so the search has seventeen steps.  All arithmetic is on whole numbers.
-/

namespace PageExtract.Decimal

/-- A decimal `digits · 10^exponent`. -/
structure Scaled where
  /-- The digits as one number. -/
  digits : Nat
  /-- The power of ten they are multiplied by. -/
  exponent : Int
  deriving DecidableEq, Repr

/-- Ten to a power, as a numerator and a denominator. -/
def pow10 (e : Int) : Nat × Nat :=
  if e < 0 then (1, Nat.pow 10 e.natAbs) else (Nat.pow 10 e.natAbs, 1)

/-- The value and its interval, over one denominator. -/
structure Interval where
  /-- The numerator of the lower end. -/
  low : Nat
  /-- The numerator of the value. -/
  value : Nat
  /-- The numerator of the upper end. -/
  high : Nat
  /-- The denominator of all three. -/
  denominator : Nat
  /-- Whether the ends belong to the interval. -/
  closed : Bool

/-- The interval of `m · 2^q`.  Below a power of two the neighbours are half as
far apart, which `atPower` says of the lower side. -/
def Interval.of (m : Nat) (q : Int) (atPower : Bool) : Interval :=
  let up := if q < 0 then 1 else Nat.pow 2 q.natAbs
  let down := if q < 0 then Nat.pow 2 q.natAbs else 1
  { low := (4 * m - if atPower then 1 else 2) * up
    value := 4 * m * up
    high := (4 * m + 2) * up
    denominator := 4 * down
    closed := m % 2 == 0 }

/-- Whether a decimal lies in the interval. -/
def Interval.holds (i : Interval) (s : Scaled) : Bool :=
  let (up, down) := pow10 s.exponent
  let n := s.digits * up * i.denominator
  if i.closed then i.low * down ≤ n && n ≤ i.high * down
  else i.low * down < n && n < i.high * down

/-- How far a decimal is from the value, in the grid's own unit. -/
def Interval.distance (i : Interval) (s : Scaled) : Nat :=
  let (up, down) := pow10 s.exponent
  let n := s.digits * up * i.denominator
  let v := i.value * down
  if n < v then v - n else n - v

/-- The power of ten of the first digit of `value / denominator`, looked for from `e` down. -/
def leading (value denominator : Nat) : Nat → Int → Int
  | 0, e => e
  | fuel + 1, e =>
      let (up, down) := pow10 e
      if up * denominator ≤ value * down then e else leading value denominator fuel (e - 1)

/-- The best decimal of the interval on the grid of one power of ten, if there is one. -/
def Interval.onGrid (i : Interval) (grid : Int) : Option Scaled :=
  let (up, down) := pow10 grid
  let floor := i.value * down / (i.denominator * up)
  let a : Scaled := ⟨floor, grid⟩
  let b : Scaled := ⟨floor + 1, grid⟩
  match i.holds a, i.holds b with
  | true, true =>
      if i.distance a < i.distance b then some a
      else if i.distance b < i.distance a then some b
      else if floor % 2 == 0 then some a else some b
  | true, false => some a
  | false, true => some b
  | false, false => none

/-- The best decimal on the grids from `grid` on, each ten times finer. -/
def Interval.search (i : Interval) : Nat → Int → Scaled
  | 0, grid => (i.onGrid grid).getD ⟨0, 0⟩
  | steps + 1, grid => match i.onGrid grid with
    | some s => s
    | none => i.search steps (grid - 1)

/-- The shortest decimal that reads back as `m · 2^q`, for `m` not zero. -/
def shortest (m : Nat) (q : Int) (atPower : Bool) : Scaled :=
  let i := Interval.of m q atPower
  i.search 17 (leading i.value i.denominator 700 310)

/-- The shortest decimal of a positive finite double. -/
def ofFloat (x : Float) : Scaled :=
  let bits := x.toBits.toNat
  let fraction : Nat := bits % Nat.pow 2 52
  let exponent : Nat := bits / Nat.pow 2 52 % Nat.pow 2 11
  if exponent = 0 then shortest fraction (-1074) false
  else shortest (Nat.pow 2 52 + fraction) ((exponent : Int) - 1075) (fraction == 0 && exponent != 1)

end PageExtract.Decimal
