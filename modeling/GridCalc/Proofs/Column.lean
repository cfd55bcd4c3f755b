import Mathlib.Data.List.Induction
import Mathlib.Order.Monotone.Basic
import GridCalc.Column

/-!
# Names of columns

Letters are digits from 1 to 26, so that no digit is zero and every positive number is spelled in one way: the letters
of the number that some letters spell are these letters in capitals (`Column.spell_index`), and the number that the
letters of a number spell is this number (`Column.index_of_map_toUpper`). The columns with at most `k` letters are
those up to `Column.lastOf k` (`Column.index_le_lastOf`, `Column.length_spell_le`).
-/

namespace GridCalc.Column

open Text

variable {letters : List Char} {values : List Nat}

/-! ## Digits from 1 to 26 -/

/-- All digits have a letter. -/
def AreDigits (values : List Nat) : Prop := ∀ v ∈ values, 1 ≤ v ∧ v ≤ 26

/-- The letters of digits. -/
def lettersOf (values : List Nat) : List Char := values.map fun v => letterOf (v - 1)

/-- The last number that at most `k` letters spell. -/
def lastOf : Nat → Nat
  | 0 => 0
  | k + 1 => 26 * (lastOf k + 1)

theorem lastOf_mono : Monotone lastOf := monotone_nat_of_le_succ fun k => by
  rw [lastOf]
  omega

theorem lastOf_three : (lastOf 3 : Int) = lastNamed := rfl

theorem spelled_append (values : List Nat) (v : Nat) : spelled (values ++ [v]) = spelled values * 26 + v := by
  simp [spelled]

theorem spell_zero : spell 0 = [] := by
  rw [spell, if_pos rfl]

theorem spell_of_ne_zero {n : Nat} (h : n ≠ 0) : spell n = spell ((n - 1) / 26) ++ [letterOf ((n - 1) % 26)] := by
  rw [spell, if_neg h]

/-- The last letter of a number comes after the letters of the rest. -/
theorem spell_mul_add (n : Nat) {v : Nat} (hpos : 1 ≤ v) (hle : v ≤ 26) :
    spell (n * 26 + v) = spell n ++ [letterOf (v - 1)] := by
  have hrest : (n * 26 + v - 1) / 26 = n := by omega
  have hlast : (n * 26 + v - 1) % 26 = v - 1 := by omega
  rw [spell_of_ne_zero (by omega), hrest, hlast]

/-- The letters of the number that digits spell are those of the digits. -/
theorem spell_spelled (h : AreDigits values) : spell (spelled values) = lettersOf values := by
  induction values using List.reverseRecOn with
  | nil => exact spell_zero
  | append_singleton values v ih =>
    obtain ⟨hvalues, hv⟩ := List.forall_mem_append.mp h
    obtain ⟨hpos, hle⟩ := hv v (List.mem_singleton_self v)
    rw [spelled_append, spell_mul_add _ hpos hle, ih hvalues, lettersOf, lettersOf, List.map_append,
      List.map_singleton]

theorem spelled_le_lastOf (h : AreDigits values) : spelled values ≤ lastOf values.length := by
  induction values using List.reverseRecOn with
  | nil => exact Nat.le_refl 0
  | append_singleton values v ih =>
    obtain ⟨hvalues, hv⟩ := List.forall_mem_append.mp h
    have hle := (hv v (List.mem_singleton_self v)).2
    have hrest := ih hvalues
    rw [spelled_append, List.length_append, List.length_singleton, lastOf]
    omega

theorem one_le_spelled (h : AreDigits values) (hne : values ≠ []) : 1 ≤ spelled values := by
  induction values using List.reverseRecOn with
  | nil => exact absurd rfl hne
  | append_singleton values v _ =>
    have hpos := (h v (by simp)).1
    rw [spelled_append]
    omega

theorem length_spell_le : ∀ {k n : Nat}, n ≤ lastOf k → (spell n).length ≤ k
  | 0, n, h => by
    rw [Nat.le_zero.mp h, spell_zero]
    exact Nat.le_refl 0
  | k + 1, n, h => by
    rw [lastOf] at h
    by_cases hn : n = 0
    · rw [hn, spell_zero]
      exact Nat.zero_le _
    · have hrest := @length_spell_le k ((n - 1) / 26) (by omega)
      rw [spell_of_ne_zero hn, List.length_append, List.length_singleton]
      omega

/-! ## Letters -/

theorem toNat_lt_of_isAlpha {c : Char} (h : c.isAlpha = true) : c.toNat < 128 := by
  have hle : c.val ≤ 'z'.val := by
    rcases Bool.or_eq_true_iff.mp h with hupper | hlower
    · have hZ : c.val ≤ 'Z'.val := (of_decide_eq_true hupper).2
      exact UInt32.le_trans hZ (by decide)
    · exact of_decide_eq_true (Bool.and_eq_true_iff.mp hlower).2
  exact Nat.lt_of_le_of_lt (UInt32.le_iff_toNat_le.mp hle) (by decide)

/-- What becomes a capital is a letter. -/
theorem isAlpha_of_isUpper_toUpper {c : Char} (h : c.toUpper.isUpper = true) : c.isAlpha = true := by
  by_cases hlower : c.isLower = true
  · exact Bool.or_eq_true_iff.mpr (Or.inr hlower)
  · have hsame : c.toUpper = c := dif_neg fun hrange =>
      hlower (Bool.and_eq_true_iff.mpr ⟨decide_eq_true hrange.1, decide_eq_true hrange.2⟩)
    rw [hsame] at h
    exact Bool.or_eq_true_iff.mpr (Or.inl h)

/-- A letter of either case is one digit, the digit of its capital. -/
theorem filterMap_upperChar {c : Char} (h : c.isAlpha = true) :
    ∃ v, 1 ≤ v ∧ v ≤ 26 ∧ (upperChar c).filterMap letterValue? = [v] ∧ letterOf (v - 1) = c.toUpper := by
  have hall : ∀ n : Fin 128, (Char.ofNat n).isAlpha = true →
      ∃ v : Fin 26, (upperChar (Char.ofNat n)).filterMap letterValue? = [v.val + 1] ∧
        letterOf v = (Char.ofNat n).toUpper := by
    decide +kernel
  have hletter := hall ⟨c.toNat, toNat_lt_of_isAlpha h⟩
  simp only [Char.ofNat_toNat] at hletter
  obtain ⟨v, hv, hcapital⟩ := hletter h
  exact ⟨v + 1, by omega, by omega, hv, hcapital⟩

/-- Letters as digits. -/
theorem exists_digits (h : ∀ c ∈ letters, c.isAlpha = true) : ∃ values, AreDigits values ∧
    (upper letters).filterMap letterValue? = values ∧ lettersOf values = letters.map Char.toUpper := by
  induction letters with
  | nil => exact ⟨[], by simp [AreDigits], rfl, rfl⟩
  | cons c rest ih =>
    obtain ⟨hc, hrest⟩ := List.forall_mem_cons.mp h
    obtain ⟨v, hpos, hle, hv, hcapital⟩ := filterMap_upperChar hc
    obtain ⟨values, hvalues, hdigits, hcapitals⟩ := ih hrest
    refine ⟨v :: values, List.forall_mem_cons.mpr ⟨⟨hpos, hle⟩, hvalues⟩, ?_, ?_⟩
    · rw [upper, List.flatMap_cons, List.filterMap_append, hv, ← hdigits]
      rfl
    · rw [List.map_cons, ← hcapitals, ← hcapital]
      rfl

theorem exists_digits_index (h : ∀ c ∈ letters, c.isAlpha = true) : ∃ values, AreDigits values ∧
    index (String.ofList letters) = spelled values ∧ lettersOf values = letters.map Char.toUpper := by
  obtain ⟨values, hvalues, hdigits, hcapitals⟩ := exists_digits h
  exact ⟨values, hvalues, by rw [index, String.toList_ofList, hdigits], hcapitals⟩

theorem length_eq_of_lettersOf_eq (h : lettersOf values = letters.map Char.toUpper) :
    values.length = letters.length := by
  have hlength := congrArg List.length h
  rwa [lettersOf, List.length_map, List.length_map] at hlength

theorem index_le_lastOf (h : ∀ c ∈ letters, c.isAlpha = true) :
    index (String.ofList letters) ≤ lastOf letters.length := by
  obtain ⟨values, hvalues, hindex, hcapitals⟩ := exists_digits_index h
  rw [hindex, ← length_eq_of_lettersOf_eq hcapitals]
  exact spelled_le_lastOf hvalues

theorem one_le_index (h : ∀ c ∈ letters, c.isAlpha = true) (hne : letters ≠ []) :
    1 ≤ index (String.ofList letters) := by
  obtain ⟨values, hvalues, hindex, hcapitals⟩ := exists_digits_index h
  rw [hindex]
  refine one_le_spelled hvalues ?_
  rintro rfl
  exact hne (List.map_eq_nil_iff.mp hcapitals.symm)

/-- The letters of the number that letters spell are these letters in capitals. -/
theorem spell_index (h : ∀ c ∈ letters, c.isAlpha = true) :
    spell (index (String.ofList letters)) = letters.map Char.toUpper := by
  obtain ⟨values, hvalues, hindex, hcapitals⟩ := exists_digits_index h
  rw [hindex, spell_spelled hvalues, hcapitals]

/-- A number is spelled in capitals. -/
theorem isUpper_of_mem_spell {n : Nat} {c : Char} (h : c ∈ spell n) : c.isUpper = true := by
  have hall : ∀ d : Fin 26, (letterOf d).isUpper = true := by decide
  fun_induction spell n with
  | case1 => cases h
  | case2 n hn ih =>
    rcases List.mem_append.mp h with hrest | hlast
    · exact ih hrest
    · rw [List.mem_singleton.mp hlast]
      exact hall ⟨(n - 1) % 26, Nat.mod_lt _ (by decide)⟩

theorem toNat_letterOf {d : Nat} (h : d < 26) : (letterOf d).toNat = 'A'.toNat + d := by
  have hall : ∀ d : Fin 26, (letterOf d).toNat = 'A'.toNat + d := by decide
  exact hall ⟨d, h⟩

theorem letterOf_inj {d e : Nat} (hd : d < 26) (he : e < 26) (h : letterOf d = letterOf e) : d = e := by
  have hcode := congrArg Char.toNat h
  rw [toNat_letterOf hd, toNat_letterOf he] at hcode
  exact Nat.add_left_cancel hcode

/-- No two numbers have the same letters. -/
theorem spell_inj {m n : Nat} (h : spell m = spell n) : m = n := by
  fun_induction spell m generalizing n with
  | case1 =>
    by_contra hn
    rw [spell_of_ne_zero (Ne.symm hn)] at h
    simp at h
  | case2 m hm ih =>
    by_cases hn : n = 0
    · rw [hn, spell_zero] at h
      simp at h
    · rw [spell_of_ne_zero hn] at h
      obtain ⟨hrest, hlast⟩ := List.append_inj' h rfl
      have hquotient := ih hrest
      have hremainder :=
        letterOf_inj (Nat.mod_lt _ (by decide)) (Nat.mod_lt _ (by decide)) (List.singleton_inj.mp hlast)
      omega

/-- The letters of a number, in either case, spell this number. -/
theorem index_of_map_toUpper {n : Nat} (h : letters.map Char.toUpper = spell n) :
    index (String.ofList letters) = n := by
  have halpha : ∀ c ∈ letters, c.isAlpha = true := fun c hc =>
    isAlpha_of_isUpper_toUpper (isUpper_of_mem_spell (h ▸ List.mem_map_of_mem hc))
  exact spell_inj ((spell_index halpha).trans h)

end GridCalc.Column
