/-!
# Double-precision numbers

A finite double is a sign and a whole number of units of 2^-1074, the least positive double; which whole numbers
occur is `Double.Representable`. So equality and order of doubles are those of integers.

* `Double.ofUnits` rounds a quotient of natural numbers, counted in units, to the nearest double, a half going to the
  even neighbour; everything else that rounds is defined through it.
* `Double.ofUnits_of_representable`: what is a double already is not rounded.
-/

namespace GridCalc

/-- A natural number with a sign. -/
def signed (negative : Bool) (n : Nat) : Int := if negative then -n else n

/-- A power of two. -/
def twoPow (n : Nat) : Nat := Nat.pow 2 n

theorem twoPow_pos (n : Nat) : 0 < twoPow n := Nat.two_pow_pos n

theorem twoPow_add (m n : Nat) : twoPow (m + n) = twoPow m * twoPow n := Nat.pow_add 2 m n

/-! ## The grid of the doubles -/

namespace Double

/-- The gap between neighbouring doubles near `u` units is this power of two: 53 binary digits are kept. -/
def gapExponent (u : Nat) : Nat := u.log2 - 52

/-- The gap between neighbouring doubles near `u` units. -/
def gap (u : Nat) : Nat := twoPow (gapExponent u)

theorem gap_pos (u : Nat) : 0 < gap u := twoPow_pos (gapExponent u)

/-- One, counted in units. -/
def oneUnits : Nat := twoPow 1074

/-- The least power of two that is too large for a double, 2^1024, counted in units. -/
def overflowUnits : Nat := twoPow 2098

/-- The doubles are the multiples of their gap below 2^1024. -/
def Representable (u : Nat) : Prop := u < overflowUnits ∧ gap u ∣ u

instance (u : Nat) : Decidable (Representable u) := inferInstanceAs (Decidable (_ ∧ _))

theorem representable_zero : Representable 0 := ⟨twoPow_pos 2098, Nat.dvd_zero _⟩

end Double

/-- A double-precision number. -/
inductive Double
  | nan
  | infinite (negative : Bool)
  | finite (negative : Bool) (units : Nat) (fits : Double.Representable units)
  deriving DecidableEq

namespace Double

def zero (negative : Bool) : Double := .finite negative 0 representable_zero

instance : Inhabited Double := ⟨zero false⟩

/-! ## Rounding -/

/-- `num / den` to the nearest natural number, a half to the even neighbour. -/
def roundHalfEven (num den : Nat) : Nat :=
  let quotient := num / den
  let remainder := num % den
  if 2 * remainder < den then quotient
  else if den < 2 * remainder then quotient + 1
  else quotient + quotient % 2

theorem roundHalfEven_mul (n : Nat) {den : Nat} (h : 0 < den) : roundHalfEven (n * den) den = n := by
  simp [roundHalfEven, Nat.mul_div_cancel _ h, h]

/-- The double nearest to `num / den` units; too large a number becomes infinite. -/
def ofUnits (negative : Bool) (num den : Nat) : Double :=
  let step := gap (num / den)
  let units := roundHalfEven num (den * step) * step
  if h : Representable units then .finite negative units h else .infinite negative

theorem ofUnits_of_representable (negative : Bool) {u : Nat} (h : Representable u) :
    ofUnits negative u 1 = .finite negative u h := by
  obtain ⟨k, hk⟩ := h.2
  have hu : k * gap u = u := by rw [Nat.mul_comm]; exact hk.symm
  have hround : roundHalfEven u (1 * gap u) = k := by
    conv => lhs; arg 1; rw [← hu]
    rw [Nat.one_mul]
    exact roundHalfEven_mul k (gap_pos u)
  simp only [ofUnits, Nat.div_one, hround, hu, h, dite_true]

/-- The double nearest to `num / den`. -/
def ofRatio (negative : Bool) (num den : Nat) : Double := ofUnits negative (num * oneUnits) den

/-- The double nearest to an integer. -/
def ofInt (n : Int) : Double := ofRatio (n < 0) n.natAbs 1

/-! ## Parts -/

def isFinite : Double → Bool
  | finite .. => true
  | _ => false

/-- The integer that the double is, if it is one. -/
def toInt? : Double → Option Int
  | finite negative u _ => if u % oneUnits = 0 then some (signed negative (u / oneUnits)) else none
  | _ => none

def isZero : Double → Bool
  | finite _ u _ => u == 0
  | _ => false

end Double

end GridCalc
