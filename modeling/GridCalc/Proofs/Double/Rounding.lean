import Mathlib.Tactic.Linarith
import GridCalc.Double.Arithmetic

/-!
# Where rounding overflows

A quotient is rounded to a multiple of the gap between the doubles near it, and at most 2^53 of these gaps are taken
(`Double.roundHalfEven_gap_le`). So what rounding yields is a multiple of its own gap (`Double.gap_mul_dvd`), and only
its size decides whether it is a double.

Main statement: `Double.isFinite_ofRatio_iff`. A quotient is rounded to a finite double iff it lies below
`Double.overflowBound`, half a gap above the largest double.
-/

namespace GridCalc

/-! ## Powers of two -/

theorem twoPow_le {m n : Nat} (h : m ≤ n) : twoPow m ≤ twoPow n := Nat.pow_le_pow_right (by decide) h

theorem twoPow_lt_iff {m n : Nat} : twoPow m < twoPow n ↔ m < n := Nat.pow_lt_pow_iff_right (by decide)

theorem lt_twoPow_log2_succ (n : Nat) : n < twoPow (n.log2 + 1) := Nat.lt_log2_self

theorem twoPow_log2_le {n : Nat} (h : n ≠ 0) : twoPow n.log2 ≤ n := Nat.log2_self_le h

namespace Double

/-! ## Rounding to a natural number -/

section

variable {num den n : Nat}

/-- What lies less than a half above a natural number is not rounded beyond it. -/
theorem roundHalfEven_le (hden : 0 < den) (h : 2 * num < (2 * n + 1) * den) : roundHalfEven num den ≤ n := by
  have hsplit := Nat.div_add_mod num den
  have hquotient : num / den ≤ n := by
    rw [← Nat.lt_succ_iff, Nat.div_lt_iff_lt_mul hden, Nat.succ_mul]
    linarith
  unfold roundHalfEven
  dsimp only
  split
  · exact hquotient
  · -- at least a half is left over, so the quotient itself is less than `n`
    have hne : num / den ≠ n := by
      intro heq
      rw [heq] at hsplit
      linarith
    split <;> omega

/-- A half above an odd number is rounded to the even number that follows. -/
theorem lt_roundHalfEven (hden : 0 < den) (hodd : n % 2 = 1) (h : (2 * n + 1) * den ≤ 2 * num) :
    n < roundHalfEven num den := by
  have hsplit := Nat.div_add_mod num den
  have hquotient : n ≤ num / den := by
    rw [Nat.le_div_iff_mul_le hden]
    linarith
  unfold roundHalfEven
  dsimp only
  rcases Nat.lt_or_eq_of_le hquotient with hlt | heq
  · split
    · exact hlt
    · split <;> omega
  · rw [← heq] at hsplit ⊢
    have hhalf : den ≤ 2 * (num % den) := by linarith
    split
    · omega
    · split <;> omega

theorem div_le_roundHalfEven (num den : Nat) : num / den ≤ roundHalfEven num den := by
  unfold roundHalfEven
  dsimp only
  split
  · exact le_refl _
  · split <;> omega

end

/-! ## Rounding to a multiple of the gap -/

section

variable {num den k q : Nat}

/-- No more than 2^53 gaps are taken. -/
theorem roundHalfEven_gap_le (hden : 0 < den) : roundHalfEven num (den * gap (num / den)) ≤ twoPow 53 := by
  have hlog : (num / den).log2 + 1 ≤ gapExponent (num / den) + 53 := by
    unfold gapExponent
    omega
  have hquotient : num / den < gap (num / den) * twoPow 53 := by
    rw [gap, ← twoPow_add]
    exact lt_of_lt_of_le (lt_twoPow_log2_succ _) (twoPow_le hlog)
  have hnum : num < twoPow 53 * (den * gap (num / den)) := by
    rw [Nat.div_lt_iff_lt_mul hden] at hquotient
    linarith
  refine roundHalfEven_le (Nat.mul_pos hden (gap_pos _)) ?_
  have hpos := Nat.mul_pos hden (gap_pos (num / den))
  linarith

/-- At most 2^53 gaps make a multiple of the gap near them. -/
theorem gap_mul_dvd (hk : k ≤ twoPow 53) : gap (k * gap q) ∣ k * gap q := by
  by_cases hgap : gapExponent (k * gap q) ≤ gapExponent q
  · exact Dvd.dvd.mul_left (Nat.pow_dvd_pow 2 hgap) k
  · -- the gap is wider there, so the product is the power of two at which it widens
    have hlog : gapExponent q + 53 ≤ (k * gap q).log2 := by
      unfold gapExponent at hgap ⊢
      omega
    have hne : k * gap q ≠ 0 := by
      intro hzero
      rw [hzero] at hlog
      exact absurd hlog (by simp)
    have hle : twoPow 53 * gap q ≤ k * gap q := by
      rw [gap, ← twoPow_add, Nat.add_comm]
      exact le_trans (twoPow_le hlog) (twoPow_log2_le hne)
    have hk' : k = twoPow 53 := le_antisymm hk (Nat.le_of_mul_le_mul_right hle (gap_pos q))
    subst hk'
    have hpower : twoPow 53 * gap q = twoPow (53 + gapExponent q) := (twoPow_add _ _).symm
    have hlog' : (twoPow (53 + gapExponent q)).log2 = 53 + gapExponent q := Nat.log2_two_pow
    rw [gap, gapExponent, hpower, hlog']
    exact Nat.pow_dvd_pow 2 (by omega)

end

/-! ## The bound -/

/-- The least number that is rounded to an infinite double: half a gap above the largest finite one. -/
def overflowBound : Nat := twoPow 970 * (twoPow 54 - 1)

/-- In units, the bound is 2^53 of the widest gaps, less a half of one. -/
theorem two_mul_overflowBound : 2 * (overflowBound * oneUnits) = (2 * (twoPow 53 - 1) + 1) * twoPow 2045 := by
  decide +kernel

section

variable {negative : Bool} {num den : Nat}

/-- Below the bound at most 2^53 - 1 of the widest gaps are taken, or 2^53 of narrower ones. -/
theorem rounded_lt_overflowUnits (hden : 0 < den) (h : num < den * (overflowBound * oneUnits)) :
    roundHalfEven num (den * gap (num / den)) * gap (num / den) < overflowUnits := by
  have hquotient : num / den < twoPow 2098 :=
    calc num / den < overflowBound * oneUnits := Nat.div_lt_of_lt_mul h
      _ ≤ twoPow 2098 := by decide +kernel
  have hexponent : gapExponent (num / den) ≤ 2045 := by
    have hlog : (num / den).log2 < 2098 := by
      by_cases hzero : num / den = 0
      · rw [hzero]
        decide
      · exact twoPow_lt_iff.mp (lt_of_le_of_lt (twoPow_log2_le hzero) hquotient)
    unfold gapExponent
    omega
  rcases Nat.lt_or_eq_of_le hexponent with hlt | heq
  · calc roundHalfEven num (den * gap (num / den)) * gap (num / den)
        ≤ twoPow 53 * twoPow 2044 :=
          Nat.mul_le_mul (roundHalfEven_gap_le hden) (twoPow_le (Nat.le_of_lt_succ hlt))
      _ < overflowUnits := by decide +kernel
  · have hgap : gap (num / den) = twoPow 2045 := by rw [gap, heq]
    have hhalf := two_mul_overflowBound
    rw [hgap]
    have hrounded : roundHalfEven num (den * twoPow 2045) ≤ twoPow 53 - 1 := by
      refine roundHalfEven_le (Nat.mul_pos hden (twoPow_pos _)) ?_
      calc 2 * num < 2 * (den * (overflowBound * oneUnits)) := Nat.mul_lt_mul_of_pos_left h Nat.two_pos
        _ = den * (2 * (overflowBound * oneUnits)) := Nat.mul_left_comm _ _ _
        _ = (2 * (twoPow 53 - 1) + 1) * (den * twoPow 2045) := by rw [hhalf, Nat.mul_left_comm]
    calc roundHalfEven num (den * twoPow 2045) * twoPow 2045 ≤ (twoPow 53 - 1) * twoPow 2045 :=
          Nat.mul_le_mul_right _ hrounded
      _ < overflowUnits := by decide +kernel

/-- From the bound on 2^53 of the widest gaps are taken, or 2^52 of still wider ones. -/
theorem overflowUnits_le_rounded (hden : 0 < den) (h : den * (overflowBound * oneUnits) ≤ num) :
    overflowUnits ≤ roundHalfEven num (den * gap (num / den)) * gap (num / den) := by
  have hquotient : twoPow 2097 ≤ num / den :=
    calc twoPow 2097 ≤ overflowBound * oneUnits := by decide +kernel
      _ ≤ num / den := (Nat.le_div_iff_mul_le hden).mpr (by rwa [Nat.mul_comm])
  have hne : num / den ≠ 0 := Nat.pos_iff_ne_zero.mp (lt_of_lt_of_le (twoPow_pos 2097) hquotient)
  have hlog : 2097 ≤ (num / den).log2 := by
    by_contra hlt
    have hle : twoPow ((num / den).log2 + 1) ≤ twoPow 2097 := twoPow_le (by omega)
    have := lt_twoPow_log2_succ (num / den)
    omega
  rcases Nat.lt_or_eq_of_le hlog with hlt | heq
  · have hexponent : 52 + gapExponent (num / den) = (num / den).log2 := by
      unfold gapExponent
      omega
    have hgaps : twoPow 52 ≤ roundHalfEven num (den * gap (num / den)) := by
      refine le_trans ?_ (div_le_roundHalfEven _ _)
      rw [← Nat.div_div_eq_div_mul, Nat.le_div_iff_mul_le (gap_pos _), gap, ← twoPow_add, hexponent]
      exact twoPow_log2_le hne
    calc overflowUnits ≤ twoPow (num / den).log2 := twoPow_le hlt
      _ = twoPow 52 * gap (num / den) := by rw [gap, ← twoPow_add, hexponent]
      _ ≤ roundHalfEven num (den * gap (num / den)) * gap (num / den) := Nat.mul_le_mul_right _ hgaps
  · have hgap : gap (num / den) = twoPow 2045 := by rw [gap, gapExponent, ← heq]
    have hhalf := two_mul_overflowBound
    rw [hgap]
    have hrounded : twoPow 53 - 1 < roundHalfEven num (den * twoPow 2045) := by
      refine lt_roundHalfEven (Nat.mul_pos hden (twoPow_pos _)) (by decide +kernel) ?_
      calc (2 * (twoPow 53 - 1) + 1) * (den * twoPow 2045) = den * (2 * (overflowBound * oneUnits)) := by
            rw [hhalf, Nat.mul_left_comm]
        _ = 2 * (den * (overflowBound * oneUnits)) := Nat.mul_left_comm _ _ _
        _ ≤ 2 * num := Nat.mul_le_mul_left _ h
    calc overflowUnits = twoPow 53 * twoPow 2045 := twoPow_add 53 2045
      _ ≤ roundHalfEven num (den * twoPow 2045) * twoPow 2045 := Nat.mul_le_mul_right _ (by omega)

theorem isFinite_ofUnits_iff (hden : 0 < den) :
    (ofUnits negative num den).isFinite = true ↔ num < den * (overflowBound * oneUnits) := by
  have hgrid : gap (roundHalfEven num (den * gap (num / den)) * gap (num / den)) ∣
      roundHalfEven num (den * gap (num / den)) * gap (num / den) := gap_mul_dvd (roundHalfEven_gap_le hden)
  unfold ofUnits
  dsimp only
  constructor
  · intro hfinite
    by_contra hbound
    have hlarge := overflowUnits_le_rounded hden (not_lt.mp hbound)
    rw [dif_neg fun hfits => absurd hfits.1 (not_lt.mpr hlarge)] at hfinite
    cases hfinite
  · intro hbound
    rw [dif_pos ⟨rounded_lt_overflowUnits hden hbound, hgrid⟩]
    rfl

/-- A quotient is rounded to a finite double iff it lies below the bound. -/
theorem isFinite_ofRatio_iff (hden : 0 < den) :
    (ofRatio negative num den).isFinite = true ↔ num < den * overflowBound := by
  rw [ofRatio, isFinite_ofUnits_iff hden, ← Nat.mul_assoc]
  exact Nat.mul_lt_mul_right (twoPow_pos 1074)

end

end Double

end GridCalc
