import GridCalc.Proofs.Numeral.Coercion
import GridCalc.Proofs.Operator.Arithmetic
import GridCalc.Proofs.Operator.Order
import GridCalc.Proofs.Operator.Writing

/-!
# Numbers that are written and read again

An integer that is short enough is written as a numeral that spells it (`Numeral.toString_mem_integerTexts`), and so is
a double that equals it (`Number.writtenAs_of_value?`), whatever its size. Arithmetic depends on an operand only through
the number that it becomes (`mathScalar_congr_left`, `mathScalar_congr_right`).

Main statement: `Value.toNumber_toText`. Numbers of one integral value have one text, which is read as the integer of
this value with any blanks around it, and which may stand for the integer in arithmetic.
-/

namespace GridCalc

open Text Numeral

/-! ## Texts of integers -/

theorem Numeral.spelled_toDigits (m : Nat) : spelled (Nat.toDigits 10 m) = m := by
  rw [← digitsValue_eq_spelled, digitsValue_toDigits]

theorem Numeral.toDigits_mem_digitTexts (m : Nat) : Nat.toDigits 10 m ∈ digitTexts := by
  refine ⟨Nat.toDigits_ne_nil, fun c hc => ?_⟩
  have hdigit : c.isDigit = true := Nat.isDigit_of_mem_toDigits (by decide) (by decide) hc
  rw [isDigit, digitValue?_of_isDigit hdigit]
  rfl

/-- An integer has as few digits as can be read if it is short enough to be written. -/
theorem Number.length_toDigits_le {n : Int} (h : Number.intWritable n = true) :
    (Nat.toDigits 10 n.natAbs).length ≤ Number.digitLimit := by
  rw [intWritable, decide_eq_true_eq] at h
  have hpos : 0 < digitLimit := by decide
  -- the power stays a power
  generalize digitLimit = limit at h hpos ⊢
  exact Nat.toDigits_length 10 n.natAbs limit hpos h

/-- The text of an integer is a numeral of it. -/
theorem Numeral.toString_mem_integerTexts {n : Int} (h : Number.intWritable n = true) :
    (toString n).toList ∈ integerTexts n := by
  have hlength := Number.length_toDigits_le h
  rw [← Number.intText_eq_toString, Number.intText, String.toList_ofList]
  split
  · refine ⟨['-'], Or.inr (Or.inr rfl), _, toDigits_mem_digitTexts _, hlength, rfl, ?_⟩
    rw [spelled_toDigits]
    show n = -(n.natAbs : Int)
    omega
  · refine ⟨[], Or.inl rfl, _, toDigits_mem_digitTexts _, hlength, rfl, ?_⟩
    rw [spelled_toDigits]
    show n = (n.natAbs : Int)
    omega

/-! ## Numbers of one value -/

namespace Number

/-- A number that equals an integer is written like it. -/
theorem writtenAs_of_value? {x : Number} {n : Int} (h : x.value? = (int n).value?) :
    (Value.number x).WrittenAs (toString n) := by
  cases x with
  | int m =>
    obtain rfl : m = n := eq_of_value?_eq h
    exact .int m
  | real d => exact .integral (place?_eq_of_value?_eq h)

/-- A number that equals an integer can be written iff the integer can. -/
theorem writable_of_value? {x : Number} {n : Int} (h : x.value? = (int n).value?) : x.writable = intWritable n := by
  cases x with
  | int m =>
    obtain rfl : m = n := eq_of_value?_eq h
    rfl
  | real d => exact (Double.intWritable_of_toInt? (Double.toInt?_eq_some_iff.mpr (place?_eq_of_value?_eq h))).symm

end Number

/-! ## Writing and reading -/

namespace Value

theorem toNumber_text_of_toString {n : Int} (h : Number.intWritable n = true) {t : String}
    (ht : t.toList ∈ padded isBlank {(toString n).toList}) : (Value.text t).toNumber = .ok (.int n) := by
  obtain ⟨front, core, back, hfront, rfl, hback, ht⟩ := mem_padded.mp ht
  exact (toNumber_text_eq_int_iff n).mpr
    (Or.inr (mem_padded.mpr ⟨front, _, back, hfront, toString_mem_integerTexts h, hback, ht⟩))

/-- Let a number that can be written equal an integer. It has a text, which is read as the integer with any blanks
around; every number that equals the integer has the same text; and in arithmetic this text makes the same result as the
integer on either side. -/
theorem toNumber_toText {x : Number} {n : Int} (hx : x.value? = (Number.int n).value?) (hw : x.writable = true) :
    ∃ s, (Value.number x).toText = .ok s ∧
      (∀ t : String, t.toList ∈ padded isBlank {s.toList} → (Value.text t).toNumber = .ok (.int n)) ∧
      (∀ y : Number, y.value? = x.value? → (Value.number y).toText = .ok s) ∧
      ∀ token v, mathScalar (.text s) token v = mathScalar (.int n) token v ∧
        mathScalar v token (.text s) = mathScalar v token (.int n) := by
  have hn : Number.intWritable n = true := Number.writable_of_value? hx ▸ hw
  have htext : ∀ y : Number, y.value? = (Number.int n).value? → (Value.number y).toText = .ok (toString n) := by
    intro y hy
    have hyw : (Value.number y).writable = true := (Number.writable_of_value? hy).trans hn
    rw [toText_of_writtenAs (Number.writtenAs_of_value? hy), if_pos hyw]
  have hread : ∀ t : String, t.toList ∈ padded isBlank {(toString n).toList} →
      (Value.text t).toNumber = .ok (.int n) := fun t => toNumber_text_of_toString hn
  have hself : (Value.text (toString n)).toNumber = .ok (.int n) :=
    hread _ (mem_padded.mpr ⟨[], _, [], by simp, rfl, by simp, by simp⟩)
  have hint : (Value.int n).toNumber = .ok (.int n) := rfl
  exact ⟨toString n, htext x hx, hread, fun y hy => htext y (hy.trans hx), fun token v =>
    ⟨mathScalar_congr_left hself hint token v, mathScalar_congr_right hself hint v token⟩⟩

/-- An integral double is written with all its digits. -/
theorem toNumber_toText_large : ∃ s, (Value.real (.ofInt (10 ^ 24))).toText = .ok s ∧
    (Value.text (" " ++ s ++ "\n")).toNumber = .ok (.int 999999999999999983222784) := by
  have hvalue : (Number.real (.ofInt (10 ^ 24))).value? = (Number.int 999999999999999983222784).value? := by
    have hplace : (Number.real (.ofInt (10 ^ 24))).place? = (Number.int 999999999999999983222784).place? := by
      decide +kernel
    rw [Number.value?_eq_map_place?, Number.value?_eq_map_place?, hplace]
  obtain ⟨s, hs, hread, -⟩ := toNumber_toText hvalue rfl
  refine ⟨s, hs, hread _ (mem_padded.mpr ⟨[' '], _, ['\n'], List.all_eq_true.mp rfl, rfl, List.all_eq_true.mp rfl, ?_⟩)⟩
  simp

end Value

end GridCalc
