import PageExtract.Decimal.Shortest

/-!
# How a decimal is written

A number between `10^-5` and `10^16` is written in positional notation, with at
least one digit on either side of the point.  All others are written with one
digit before the point, the point only if more digits follow, and a signed
power of ten: `1.8e+19`, `5e-324`.
-/

namespace PageExtract.Decimal

/-- The digits of a decimal, without zeros at their end, and the power of ten of the first. -/
def Scaled.significant (s : Scaled) : List Char × Int :=
  let all := Nat.toDigits 10 s.digits
  let kept := (all.reverse.dropWhile (· = '0')).reverse
  (kept, s.exponent + all.length - 1)

/-- Digits as written with the first of them at a power of ten. -/
def layout (digits : List Char) (first : Int) : List Char :=
  if -5 ≤ first ∧ first ≤ 15 then
    if first < 0 then '0' :: '.' :: List.replicate (first.natAbs - 1) '0' ++ digits
    else
      let whole := first.natAbs + 1
      if digits.length ≤ whole then
        digits ++ List.replicate (whole - digits.length) '0' ++ ['.', '0']
      else digits.take whole ++ '.' :: digits.drop whole
  else
    let power := (if first < 0 then '-' else '+') :: Nat.toDigits 10 first.natAbs
    match digits with
    | [] => []
    | [d] => d :: 'e' :: power
    | d :: rest => d :: '.' :: rest ++ 'e' :: power

/-- A finite double as written. -/
def write (x : Float) : String :=
  let sign := if x.toBits.toNat / Nat.pow 2 63 % 2 = 1 then ['-'] else []
  if x == 0 then String.ofList (sign ++ ['0', '.', '0'])
  else
    let (digits, first) := (ofFloat x.abs).significant
    String.ofList (sign ++ layout digits first)

end PageExtract.Decimal
