import GridCalc.Double.Bits
import GridCalc.Double.Arithmetic

/-!
# Powers of doubles

`Double.pow` settles the exponents and bases that are zero, one, infinite or not a number, and the sign of the result;
what is left is the power of a positive finite base other than one, which the platform computes.
-/

namespace GridCalc.Double

/-- Why a power is no double. -/
inductive PowerFault
  | zeroToNegative
  | notReal
  deriving DecidableEq

def abs : Double → Double
  | nan => nan
  | infinite _ => infinite false
  | finite _ u h => finite false u h

def isNegative : Double → Bool
  | nan => false
  | infinite negative => negative
  | finite negative _ _ => negative

/-- An odd integer. -/
def isOdd (d : Double) : Bool :=
  match d.toInt? with
  | some n => n % 2 != 0
  | none => false

def one : Double := ofInt 1

/-- The power of a positive finite base and a finite exponent, as the platform rounds it. -/
def platformPow (base exponent : Double) : Double :=
  ofBits (Float.pow (.ofBits base.toBits) (.ofBits exponent.toBits)).toBits

/-- The absolute value of `base` is above one. -/
def exceedsOne : Double → Bool
  | nan => false
  | infinite _ => true
  | finite _ u _ => oneUnits < u

def negateIf (condition : Bool) (d : Double) : Double := if condition then d.neg else d

def pow (base exponent : Double) : Except PowerFault Double :=
  if exponent.isZero then .ok one
  else match base, exponent with
    | nan, _ => .ok nan
    | base, nan => .ok (if base = one then one else nan)
    | base, infinite negative =>
      if base.abs = one then .ok one
      else if base.exceedsOne = !negative then .ok (infinite false)
      else .ok (zero false)
    | infinite negative, exponent =>
      let result := if exponent.isNegative then zero false else infinite false
      .ok (negateIf (negative && exponent.isOdd) result)
    | finite negative u _, exponent =>
      if u = 0 then
        if exponent.isNegative then .error .zeroToNegative else .ok (zero (negative && exponent.isOdd))
      else if negative && exponent.toInt?.isNone then .error .notReal
      else
        let size := base.abs
        .ok (negateIf (negative && exponent.isOdd) (if size = one then one else platformPow size exponent))

end GridCalc.Double
