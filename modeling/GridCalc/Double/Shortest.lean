import GridCalc.Double

/-!
# Shortest decimals

The decimal with the fewest digits among those that round to a given double, and of these the nearest to it.

* `Within`: the decimals that round to `u` units.
* `candidate?`: the decimal with a given last place that is nearest to `u` units, among the two neighbours of `u`.
* `shortest`: the first hit when the last place moves right from the first digit.
-/

namespace GridCalc.Double

/-- A positive decimal `digits · 10 ^ exponent`. -/
structure Decimal where
  digits : Nat
  exponent : Int
  deriving DecidableEq, Repr

namespace Decimal

/-- The decimal as a quotient of natural numbers. -/
def ratio (d : Decimal) : Nat × Nat :=
  if 0 ≤ d.exponent then (d.digits * Nat.pow 10 d.exponent.toNat, 1) else (d.digits, Nat.pow 10 (-d.exponent).toNat)

end Decimal

/-- The ends, in quarters of a unit, of the numbers that round to `u`: half way to its neighbours. Below a power of two
the doubles lie twice as dense. -/
def roundingEnds (u : Nat) : Nat × Nat :=
  let below := if 1 < gap u ∧ u = twoPow u.log2 then gap u else 2 * gap u
  (4 * u - below, 4 * u + 2 * gap u)

/-- The decimal rounds to `u` units; the ends round to `u` where its last binary digit is even. -/
def Within (u : Nat) (d : Decimal) : Prop :=
  let (num, den) := d.ratio
  let quarters := 4 * num * oneUnits
  let (low, high) := roundingEnds u
  if u / gap u % 2 = 0 then low * den ≤ quarters ∧ quarters ≤ high * den
  else low * den < quarters ∧ quarters < high * den

instance (u : Nat) (d : Decimal) : Decidable (Within u d) := by
  unfold Within
  simp only
  exact inferInstance

/-- The decimal exponent of the first digit of `u > 0` units. -/
def firstPlace (u : Nat) : Int := ((Nat.toDigits 10 (u * Nat.pow 10 400 / oneUnits)).length : Int) - 401

/-- Of the two neighbours of `u` units among the multiples of `10 ^ place`, the nearer one that rounds to `u`; of two as
near, the even one. -/
def candidate? (u : Nat) (place : Int) : Option Nat :=
  let (num, den) :=
    if 0 ≤ place then (u, oneUnits * Nat.pow 10 place.toNat) else (u * Nat.pow 10 (-place).toNat, oneUnits)
  let below := num / den
  let nearest := roundHalfEven num den
  if Within u ⟨nearest, place⟩ then some nearest
  else if Within u ⟨below, place⟩ then some below
  else if Within u ⟨below + 1, place⟩ then some (below + 1)
  else none

/-- The shortest decimal that rounds to `u > 0` units; seventeen digits always suffice. -/
def shortest (u : Nat) : Decimal :=
  let first := firstPlace u
  let hit := (List.range 17).findSome? fun (i : Nat) =>
    (candidate? u (first - i)).map fun digits => Decimal.mk digits (first - i)
  hit.getD ⟨0, 0⟩

end GridCalc.Double
