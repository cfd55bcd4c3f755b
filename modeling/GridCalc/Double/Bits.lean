import GridCalc.Double

/-!
# The 64-bit format

A double in 64 bits: the sign, eleven bits of exponent and 52 of fraction. The exponent field of a finite double is
zero below 2^52 units, and from there one more than the exponent of its gap. Main definitions: `toBits`, `ofBits`.
-/

namespace GridCalc.Double

/-- The sign stands in the highest bit. -/
def signWeight : Nat := 0x8000000000000000

/-- The exponent stands above the 52 bits of the fraction. -/
def exponentWeight : Nat := 0x10000000000000

def signBit (negative : Bool) : Nat := if negative then signWeight else 0

def toBits : Double → UInt64
  | nan => 0x7FF8000000000000
  | infinite negative => .ofNat (signBit negative + 2047 * exponentWeight)
  | finite negative u _ =>
    .ofNat (signBit negative + if u < exponentWeight then u else gapExponent u * exponentWeight + u / gap u)

def ofBits (bits : UInt64) : Double :=
  let n := bits.toNat
  let negative := signWeight ≤ n
  let exponent := n / exponentWeight % 2048
  let fraction := n % exponentWeight
  if exponent = 2047 then (if fraction = 0 then infinite negative else nan)
  else if exponent = 0 then ofUnits negative fraction 1
  else ofUnits negative ((exponentWeight + fraction) * twoPow (exponent - 1)) 1

end GridCalc.Double
