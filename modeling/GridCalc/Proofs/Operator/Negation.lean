import GridCalc.Proofs.Operator.Arithmetic

/-!
# Negation

A double times -1 is not rounded (`Double.mul_neg_one`), and so the product of any number with -1 is its negation
(`Number.mul_neg_one`). A product that is no finite number is `#NUM!`, but a minus in front of an operand hands the
negation on as it is. So a minus is a product with -1 on all scalars whose number is finite, and on no others
(`minus_eq_product`): the negation of a numeral beyond the doubles is infinite.
-/

namespace GridCalc

/-! ## The product with -1 -/

namespace Double

/-- What is a double already is not rounded, in whatever parts of a unit it is counted. -/
theorem ofUnits_mul_of_representable (negative : Bool) {u den : Nat} (h : Representable u) (hden : 0 < den) :
    ofUnits negative (u * den) den = .finite negative u h := by
  obtain ⟨k, hk⟩ := h.2
  have hquotient : u * den / den = u := Nat.mul_div_cancel u hden
  have hgaps : u * den = k * (den * gap u) := by
    conv => lhs; arg 1; rw [hk]
    rw [Nat.mul_comm (gap u) k, Nat.mul_assoc, Nat.mul_comm (gap u) den]
  have hround : roundHalfEven (u * den) (den * gap u) = k := by
    rw [hgaps]
    exact roundHalfEven_mul k (Nat.mul_pos hden (gap_pos u))
  have hunits : k * gap u = u := by rw [Nat.mul_comm]; exact hk.symm
  simp only [ofUnits, hquotient, hround, hunits, h, dite_true]

theorem representable_oneUnits : Representable oneUnits := by decide +kernel

/-- Minus one is a double. -/
theorem ofInt_neg_one : ofInt (-1) = .finite true oneUnits representable_oneUnits := by
  have hsign : decide ((-1 : Int) < 0) = true := rfl
  have hsize : (-1 : Int).natAbs = 1 := rfl
  rw [ofInt, hsign, hsize, ofRatio, Nat.one_mul]
  exact ofUnits_of_representable true representable_oneUnits

theorem mul_neg_one (d : Double) : d.mul (ofInt (-1)) = d.neg := by
  have hpos : 0 < oneUnits := twoPow_pos 1074
  rw [ofInt_neg_one]
  cases d with
  | nan => rfl
  | infinite negative =>
    rw [mul, if_neg hpos.ne', Bool.xor_true]
    rfl
  | finite negative u fits =>
    rw [mul, Bool.xor_true]
    exact ofUnits_mul_of_representable (!negative) fits hpos

theorem isFinite_neg (d : Double) : d.neg.isFinite = d.isFinite := by cases d <;> rfl

end Double

namespace Number

theorem mul_neg_one (n : Number) : n.mul (.int (-1)) = .ok n.neg := by
  cases n with
  | int m =>
    show Except.ok (int (m * -1)) = Except.ok (int (-m))
    rw [Int.mul_neg_one]
  | real d =>
    have hone : (int (-1)).toDouble = .ok (Double.ofInt (-1)) := by
      rw [toDouble, Double.ofInt_neg_one]
      rfl
    unfold mul lift
    dsimp only
    rw [hone, neg, ← Double.mul_neg_one d]
    rfl

theorem isFinite_neg (n : Number) : n.neg.isFinite = n.isFinite := by
  cases n with
  | int m => rfl
  | real d => exact Double.isFinite_neg d

end Number

/-! ## The minus sign -/

variable {v : Value} {n : Number}

theorem minus_of_scalar (v : Value) : signs ["-"] ⟨v, false⟩ = onNumber (fun n => .ok n.neg) v := rfl

theorem minus_of_toNumber (hn : v.toNumber = .ok n) : signs ["-"] ⟨v, false⟩ = .ok (.number n.neg) := by
  rw [minus_of_scalar, onNumber_of_toNumber hn]
  rfl

/-- The product is checked to be finite. -/
theorem product_of_toNumber (hn : v.toNumber = .ok n) :
    mathScalar v "*" (.int (-1)) = .ok (if n.isFinite then .number n.neg else .error .num) := by
  have hoperator : MathOperator.ofToken? "*" = some .mul := rfl
  have hproduct : MathOperator.mul.apply n (.int (-1)) = .ok n.neg := n.mul_neg_one
  rw [mathScalar_of_toNumber hoperator hn rfl, hproduct, mathResult, Number.isFinite_neg]

/-- A minus is a product with -1 iff the number of its operand, if it has one, is finite. The product always has a
result; where the number is not finite it is `#NUM!`, and the minus makes the negation. -/
theorem minus_eq_product (hv : v.IsScalar) :
    (signs ["-"] ⟨v, false⟩ = mathScalar v "*" (.int (-1)) ↔ ∀ n, v.toNumber = .ok n → n.isFinite = true) ∧
      (∃ w, mathScalar v "*" (.int (-1)) = .ok w ∧ w.IsOutcome) ∧
      ∀ n, v.toNumber = .ok n → n.isFinite = false →
        mathScalar v "*" (.int (-1)) = .ok (.error .num) ∧ signs ["-"] ⟨v, false⟩ = .ok (.number n.neg) := by
  have hoperator : MathOperator.ofToken? "*" = some .mul := rfl
  have hone : (Value.int (-1)).IsEntry := Or.inl trivial
  obtain ⟨w, hw⟩ := exists_mathScalar (Option.isSome_iff_exists.mpr ⟨_, hoperator⟩) (Or.inl hv) hone
  refine ⟨⟨fun heq n hn => ?_, fun hall => ?_⟩, ⟨w, hw, isOutcome_of_mathScalar hoperator hw⟩, fun n hn hfinite => ?_⟩
  · rw [minus_of_toNumber hn, product_of_toNumber hn] at heq
    by_contra hfinite
    rw [if_neg hfinite] at heq
    cases heq
  · by_cases hnumber : ∃ n, v.toNumber = .ok n
    · obtain ⟨n, hn⟩ := hnumber
      rw [minus_of_toNumber hn, product_of_toNumber hn, if_pos (hall n hn)]
    · rw [minus_of_scalar]
      exact onNumber_of_not_number rfl hv (not_exists.mp hnumber)
  · rw [minus_of_toNumber hn, product_of_toNumber hn, hfinite]
    exact ⟨rfl, rfl⟩

/-- A numeral beyond the doubles, and the negative zero. -/
theorem minus_eq_product_edge :
    signs ["-"] ⟨.text "-1e999", false⟩ = .ok (.real (.infinite false)) ∧
      signs ["-"] ⟨.real (.zero true), false⟩ = mathScalar (.real (.zero true)) "*" (.int (-1)) := by
  have hlarge : (Value.text "-1e999").toNumber = .ok (.real (.infinite true)) := by rfl
  obtain ⟨-, -, hbeyond⟩ := @minus_eq_product (.text "-1e999") trivial
  obtain ⟨hagree, -, -⟩ := @minus_eq_product (.real (.zero true)) trivial
  refine ⟨(hbeyond _ hlarge rfl).2, hagree.mpr fun n hn => ?_⟩
  cases hn
  rfl

/-- The product of 10^400 as a double with -1 is `#NUM!`, but its negation is infinite. -/
theorem minus_ne_product :
    signs ["-"] ⟨.text "1e400", false⟩ = .ok (.real (.infinite true)) ∧
      mathScalar (.text "1e400") "*" (.int (-1)) = .ok (.error .num) := by
  have hlarge : (Value.text "1e400").toNumber = .ok (.real (.infinite false)) := by rfl
  rw [minus_of_toNumber hlarge, product_of_toNumber hlarge]
  exact ⟨rfl, rfl⟩

end GridCalc
