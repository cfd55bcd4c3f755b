import Mathlib.Algebra.Order.Group.Nat
import Mathlib.Data.List.Basic
import Mathlib.Data.List.Induction
import Mathlib.Tactic.Ring
import GridCalc.Number
import GridCalc.Text.Digit

/-!
# Decimal digits and the numbers that they spell

Digits of any script spell a number of no more digits (`Text.digitsValue_lt`). The digits of ASCII spell the number that
is written with them: reading the decimal text of a number gives the number back (`Text.digitsValue_toDigits`), and
digits that do not begin with a zero are the decimal text of what they spell (`Text.toDigits_digitsValue`). An integer
of few digits can be written (`Number.intWritable_of_lt`).
-/

namespace GridCalc.Text

/-! ## Digits of any script -/

theorem digitValue?_lt {c : Char} {v : Nat} (h : digitValue? c = some v) : v < 10 := by
  obtain ⟨first, -, hv⟩ := List.exists_of_findSome?_eq_some h
  rw [Option.ite_none_right_eq_some, Option.some.injEq] at hv
  omega

/-- One more digit multiplies by ten and adds less than ten. -/
theorem foldl_digits_lt (digits : List Char) : ∀ n : Nat,
    digits.foldl (fun n c => 10 * n + (digitValue? c).getD 0) n < (n + 1) * 10 ^ digits.length := by
  induction digits with
  | nil => simp
  | cons c rest ih =>
    intro n
    have hc : (digitValue? c).getD 0 < 10 := by
      cases h : digitValue? c with
      | none => simp
      | some v => exact digitValue?_lt h
    calc rest.foldl _ (10 * n + (digitValue? c).getD 0)
        < (10 * n + (digitValue? c).getD 0 + 1) * 10 ^ rest.length := ih _
      _ ≤ (10 * (n + 1)) * 10 ^ rest.length := Nat.mul_le_mul_right _ (by omega)
      _ = (n + 1) * 10 ^ (c :: rest).length := by rw [List.length_cons, Nat.pow_succ]; ring

theorem digitsValue_lt (digits : List Char) : digitsValue digits < 10 ^ digits.length := by
  simpa [digitsValue] using foldl_digits_lt digits 0

theorem le_foldl_digits (digits : List Char) : ∀ n : Nat,
    n ≤ digits.foldl (fun n c => 10 * n + (digitValue? c).getD 0) n := by
  induction digits with
  | nil => exact fun n => le_refl n
  | cons c rest ih =>
    intro n
    calc n ≤ 10 * n + (digitValue? c).getD 0 := by omega
      _ ≤ _ := ih _

/-! ## Digits of ASCII -/

variable {c : Char} {digits : List Char}

theorem toNat_of_isDigit (h : c.isDigit = true) : 48 ≤ c.toNat ∧ c.toNat < 58 := by
  simp only [Char.isDigit, Bool.and_eq_true, decide_eq_true_eq, UInt32.le_iff_toNat_le, ge_iff_le] at h
  have h0 : '0'.val.toNat = 48 := rfl
  have h9 : '9'.val.toNat = 57 := rfl
  have hc : c.toNat = c.val.toNat := rfl
  omega

/-- The digits of ASCII come first among those of all scripts. -/
theorem digitValue?_of_isDigit (h : c.isDigit = true) : digitValue? c = some (c.toNat - 48) := by
  rw [digitValue?, zeroDigits, List.findSome?_cons, if_pos (toNat_of_isDigit h)]

theorem digitChar_of_isDigit (h : c.isDigit = true) : Nat.digitChar (c.toNat - 48) = c := by
  obtain ⟨hlow, hhigh⟩ := toNat_of_isDigit h
  apply Char.toNat_inj.mp
  rw [Nat.toNat_digitChar_of_lt_ten (by omega)]
  omega

theorem digitsValue_append (digits : List Char) (h : c.isDigit = true) :
    digitsValue (digits ++ [c]) = 10 * digitsValue digits + (c.toNat - 48) := by
  simp [digitsValue, digitValue?_of_isDigit h]

theorem digitsValue_eq_ofDigitChars (h : ∀ c ∈ digits, c.isDigit = true) :
    digitsValue digits = Nat.ofDigitChars 10 digits 0 := by
  induction digits using List.reverseRecOn with
  | nil => rfl
  | append_singleton digits c ih =>
    obtain ⟨hdigits, hc⟩ := List.forall_mem_append.mp h
    rw [digitsValue_append digits (hc c (List.mem_singleton_self c)), ih hdigits, Nat.ofDigitChars_append,
      Nat.ofDigitChars_cons, Nat.ofDigitChars_nil]
    rfl

/-- The decimal text of a number spells it. -/
theorem digitsValue_toDigits (n : Nat) : digitsValue (Nat.toDigits 10 n) = n := by
  rw [digitsValue_eq_ofDigitChars fun c hc => Nat.isDigit_of_mem_toDigits (by decide) (by decide) hc,
    Nat.ofDigitChars_ten_toDigits]

/-- Digits that do not begin with a zero spell a positive number. -/
theorem digitsValue_pos (h : ∀ c ∈ digits, c.isDigit = true) (hne : digits ≠ []) (hzero : digits.head? ≠ some '0') :
    0 < digitsValue digits := by
  obtain ⟨c, rest, rfl⟩ := List.exists_cons_of_ne_nil hne
  have hdigit := h c List.mem_cons_self
  have hc : c.toNat ≠ 48 := fun h48 => hzero (congrArg some (Char.toNat_inj.mp h48))
  have hlow := (toNat_of_isDigit hdigit).1
  calc 0 < 10 * 0 + (digitValue? c).getD 0 := by rw [digitValue?_of_isDigit hdigit, Option.getD_some]; omega
    _ ≤ digitsValue (c :: rest) := le_foldl_digits rest _

/-- Digits that do not begin with a zero are the decimal text of the number that they spell. -/
theorem toDigits_digitsValue (h : ∀ c ∈ digits, c.isDigit = true) (hne : digits ≠ [])
    (hzero : digits.head? ≠ some '0') : Nat.toDigits 10 (digitsValue digits) = digits := by
  induction digits using List.reverseRecOn with
  | nil => exact absurd rfl hne
  | append_singleton digits c ih =>
    obtain ⟨hdigits, hc⟩ := List.forall_mem_append.mp h
    have hdigit := hc c (List.mem_singleton_self c)
    have hlt : c.toNat - 48 < 10 := by have := toNat_of_isDigit hdigit; omega
    have hlast : Nat.toDigits 10 (c.toNat - 48) = [c] := by
      rw [Nat.toDigits_of_lt_base hlt, digitChar_of_isDigit hdigit]
    rw [digitsValue_append digits hdigit]
    by_cases hempty : digits = []
    · rw [hempty]
      simpa [digitsValue] using hlast
    · have hhead : digits.head? ≠ some '0' := by
        rwa [List.head?_append_of_ne_nil _ hempty] at hzero
      rw [← Nat.toDigits_append_toDigits (by decide) (digitsValue_pos hdigits hempty hhead) hlt,
        ih hdigits hempty hhead, hlast]

/-- The decimal text of a positive number does not begin with a zero. -/
theorem head?_toDigits {n : Nat} (h : 0 < n) : (Nat.toDigits 10 n).head? ≠ some '0' := by
  induction n using Nat.base_induction 10 (by decide) with
  | single m hm =>
    rw [Nat.toDigits_of_lt_base hm, List.head?_cons, Ne, Option.some_inj, Nat.digitChar_eq_zero]
    omega
  | digit m k hk hm ih =>
    rw [← Nat.toDigits_append_toDigits (by decide) hm hk, List.head?_append_of_ne_nil _ Nat.toDigits_ne_nil]
    exact ih hm

end GridCalc.Text

namespace GridCalc

/-! ## Integers that can be written -/

theorem Number.intWritable_of_lt {n k : Nat} (h : n < 10 ^ k) (hk : k ≤ digitLimit) : intWritable n = true := by
  rw [intWritable, decide_eq_true_eq, Int.natAbs_natCast]
  -- the power stays a power
  generalize digitLimit = limit at hk ⊢
  exact lt_of_lt_of_le h (Nat.pow_le_pow_right (by decide) hk)

/-- The least integer that cannot be written. -/
theorem not_intWritable_tenPow : Number.intWritable (Nat.pow 10 Number.digitLimit : Nat) = false := by
  rw [Number.intWritable, Int.natAbs_natCast]
  exact decide_eq_false (lt_irrefl _)

end GridCalc
