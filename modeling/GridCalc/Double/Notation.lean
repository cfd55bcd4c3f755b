import GridCalc.Double.Shortest

/-!
# The text of a double

A double is written with its shortest digits. Its text is positional where the exponent of the first digit is at least
-4 and below 16, with at least one digit after the point; otherwise one digit stands before the point, and the exponent
has a sign and at least two digits.
-/

namespace GridCalc.Double

/-- The digits without the zeros at their end, for which the exponent makes up. -/
def withoutTrailingZeros (digits : List Char) : List Char :=
  (digits.reverse.dropWhile (· = '0')).reverse

/-- Digits with the point after the first `place` of them, where `place` may lie outside of them. -/
def positional (digits : List Char) (place : Int) : List Char :=
  if place ≤ 0 then '0' :: '.' :: List.replicate (-place).toNat '0' ++ digits
  else
    let whole := place.toNat
    if digits.length ≤ whole then digits ++ List.replicate (whole - digits.length) '0' ++ ['.', '0']
    else digits.take whole ++ '.' :: digits.drop whole

/-- Digits with the point after the first of them, and an exponent. -/
def scientific (digits : List Char) (exponent : Int) : List Char :=
  let mantissa := match digits with
    | [] => []
    | [d] => [d]
    | d :: rest => d :: '.' :: rest
  let size := Nat.toDigits 10 exponent.natAbs
  let padded := if size.length < 2 then '0' :: size else size
  mantissa ++ 'e' :: (if exponent < 0 then '-' else '+') :: padded

/-- The text of `u` units. -/
def unitsText (u : Nat) : List Char :=
  if u = 0 then ['0', '.', '0']
  else
    let decimal := shortest u
    let all := Nat.toDigits 10 decimal.digits
    let exponent := decimal.exponent + all.length - 1
    let digits := withoutTrailingZeros all
    if -4 ≤ exponent ∧ exponent < 16 then positional digits (exponent + 1) else scientific digits exponent

def text : Double → String
  | nan => "nan"
  | infinite negative => if negative then "-inf" else "inf"
  | finite negative u _ => String.ofList (if negative then '-' :: unitsText u else unitsText u)

end GridCalc.Double
