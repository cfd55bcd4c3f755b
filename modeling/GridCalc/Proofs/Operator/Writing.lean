import GridCalc.Proofs.Operator.Entrywise
import GridCalc.Proofs.Operator.Totality

/-!
# How scalars are written

How a scalar is written (`Value.WrittenAs`) does not depend on how it is converted to text: an integer is written with
all its digits, and so is a double that equals an integer (`Double.toInt?_eq_some_iff`). The conversion yields just this
text unless an integer has too many digits to be written (`Value.toText_of_writtenAs`), and the concatenation of two
scalars that are no errors is their texts one after the other (`concatEntries_of_writtenAs`).
-/

namespace GridCalc

/-! ## Integers among the doubles -/

theorem Number.intText_eq_toString (n : Int) : intText n = toString n := by
  cases n with
  | ofNat m =>
    have hsign : ¬Int.ofNat m < 0 := Int.not_lt.mpr (Int.natCast_nonneg m)
    rw [intText, if_neg hsign]
    rfl
  | negSucc m =>
    rw [intText, if_pos (Int.negSucc_lt_zero m)]
    show String.ofList (['-'] ++ Nat.toDigits 10 (m + 1)) = "-" ++ String.ofList (Nat.toDigits 10 (m + 1))
    rw [String.ofList_append]

theorem signed_mul (negative : Bool) (m n : Nat) : signed negative (m * n) = signed negative m * n := by
  cases negative <;> simp [signed]

/-- A double is an integer where it stands at the place of one. -/
theorem Double.toInt?_eq_some_iff {d : Double} {n : Int} :
    d.toInt? = some n ↔ (Number.real d).place? = (Number.int n).place? := by
  have hpos : 0 < oneUnits := twoPow_pos 1074
  cases d with
  | nan => exact ⟨nofun, nofun⟩
  | infinite negative => cases negative <;> exact ⟨nofun, nofun⟩
  | finite negative u fits =>
    simp only [toInt?, Number.place?, Option.ite_none_right_eq_some, Option.some.injEq, Number.Place.units.injEq]
    -- the unit stays a name
    generalize oneUnits = one at hpos
    constructor
    · rintro ⟨hdvd, rfl⟩
      rw [← signed_mul, Nat.div_mul_cancel (Nat.dvd_of_mod_eq_zero hdvd)]
    · intro h
      have hu : u = n.natAbs * one := by
        have habs := congrArg Int.natAbs h
        rwa [natAbs_signed, Int.natAbs_mul, Int.natAbs_natCast] at habs
      refine ⟨by rw [hu, Nat.mul_mod_left], ?_⟩
      rw [hu, signed_mul] at h
      rw [hu, Nat.mul_div_cancel _ hpos]
      exact Int.eq_of_mul_eq_mul_right (by omega) h

/-! ## Written scalars -/

namespace Value

/-- The scalar, which is no error, is written as the text. -/
inductive WrittenAs : Value → String → Prop
  | empty : WrittenAs .empty ""
  | bool (b : Bool) : WrittenAs (.bool b) (if b then "TRUE" else "FALSE")
  | text (s : String) : WrittenAs (.text s) s
  | int (n : Int) : WrittenAs (.int n) (toString n)
  | integral {d : Double} {n : Int} (h : (Number.real d).place? = (Number.int n).place?) :
      WrittenAs (.real d) (toString n)
  | real {d : Double} (h : ∀ n : Int, (Number.real d).place? ≠ (Number.int n).place?) : WrittenAs (.real d) d.text

theorem exists_writtenAs {v : Value} (hv : v.IsProper) : ∃ s, v.WrittenAs s := by
  obtain ⟨hscalar, herror⟩ := hv
  cases v with
  | empty => exact ⟨_, .empty⟩
  | bool b => exact ⟨_, .bool b⟩
  | text s => exact ⟨s, .text s⟩
  | error kind => cases herror
  | number n =>
    cases n with
    | int n => exact ⟨_, .int n⟩
    | real d =>
      by_cases h : ∃ n : Int, (Number.real d).place? = (Number.int n).place?
      · obtain ⟨n, hn⟩ := h
        exact ⟨_, .integral hn⟩
      · exact ⟨_, .real (not_exists.mp h)⟩
  | list items | collection items | reference ref | bearer ref | classified v isArray | bare items
  | bareReference ref => exact hscalar.elim

/-- A scalar is written as one text only. -/
theorem WrittenAs.unique {v : Value} {s t : String} (hs : v.WrittenAs s) (ht : v.WrittenAs t) : s = t := by
  cases hs with
  | empty | bool | text | int => cases ht; rfl
  | integral h =>
    cases ht with
    | integral h' =>
      cases (Double.toInt?_eq_some_iff.mpr h).symm.trans (Double.toInt?_eq_some_iff.mpr h')
      rfl
    | real h' => exact absurd h (h' _)
  | real h =>
    cases ht with
    | integral h' => exact absurd h' (h _)
    | real => rfl

theorem integerText_of_writable {n : Int} (h : Number.intWritable n = true) : integerText n = .ok (toString n) := by
  rw [integerText, if_pos h, Number.intText_eq_toString]

/-- The conversion yields the text as which a scalar is written, unless an integer is too long. -/
theorem toText_of_writtenAs {v : Value} {s : String} (h : v.WrittenAs s) :
    v.toText = if v.writable then .ok s else .error (.invalid .tooManyDigits) := by
  cases h with
  | empty => rfl
  | bool b => rfl
  | text s => rfl
  | int n => rw [toText, integerText, Number.intText_eq_toString, writable, Number.writable]
  | integral h =>
    have hinteger := Double.toInt?_eq_some_iff.mpr h
    rw [toText, hinteger]
    exact integerText_of_writable (Double.intWritable_of_toInt? hinteger)
  | @real d h =>
    have hnone : d.toInt? = none := Option.eq_none_iff_forall_ne_some.mpr fun n hn =>
      h n (Double.toInt?_eq_some_iff.mp hn)
    rw [toText, hnone]
    rfl

end Value

/-! ## Two scalars -/

variable {l r : Value}

theorem concatEntries_of_writtenAs (hl : l.IsProper) (hr : r.IsProper) {s t : String} (hs : l.WrittenAs s)
    (ht : r.WrittenAs t) : concatEntries l r =
      if l.writable && r.writable then .ok (.text (s ++ t)) else .error (.invalid .tooManyDigits) := by
  rw [concatEntries, unlessError_of_operands ⟨hl.2, Value.isList_of_isScalar hl.1⟩
    ⟨hr.2, Value.isList_of_isScalar hr.1⟩]
  simp only [Value.toText_of_writtenAs hs, Value.toText_of_writtenAs ht]
  cases l.writable <;> cases r.writable <;> rfl

end GridCalc
