import GridCalc.Proofs.Formula.Standard
import GridCalc.Proofs.Operator.Writing

/-!
# Concatenation in a formula

A concatenation of formulas whose values are scalars is a concatenation of entries (`Engine.settled_concatenation`),
unless one of the formulas raises a formula error (`Engine.evaluate_binary_of_aborts`).

Main statement: `Engine.evaluate_concatenation`. A concatenation of two formulas whose values are scalars is the
leftmost error among these, or else their texts one after the other if both can be written, and a fault if not.
-/

namespace GridCalc

variable {l r : Value}

namespace Engine

open Run

section

variable {engine : Engine} {left right : Formula}

/-- Where one formula ends in a formula error, another that ends in the same has its value. -/
theorem aborts_and_evaluate {formula other : Formula} (fault : Fault) {v : Value}
    (hv : (engine.evaluate formula).1 = .ok v) (h : engine.settled formula = .error fault)
    (h' : engine.settled other = .error fault) :
    Aborts (engine.settled formula) ∧ (engine.evaluate other).1 = .ok v := by
  rw [evaluate_fst] at hv ⊢
  rw [h', ← h]
  refine ⟨?_, hv⟩
  rw [h] at hv ⊢
  cases fault with
  | formula cause => exact ⟨cause, rfl⟩
  | _ => cases hv

/-- Where an operand raises a formula error, the formula has the error of an operand that does. -/
theorem evaluate_binary_of_aborts {token : String} (hl : (engine.evaluate left).1 = .ok l)
    (hr : (engine.evaluate right).1 = .ok r)
    (h : Aborts (engine.settled left) ∨ Aborts (engine.settled right)) :
    (Aborts (engine.settled left) ∧ (engine.evaluate (.binary left token right)).1 = .ok l) ∨
      (Aborts (engine.settled right) ∧ (engine.evaluate (.binary left token right)).1 = .ok r) := by
  have hbinary : engine.settled (.binary left token right) = engine.result left >>= fun v =>
      engine.result right >>= fun w => outcome (engine.applyInfix v token w) >>= engine.resolved := by
    simp only [settled, result_binary, bind_assoc]
  -- both operands stand for something before either is read
  cases hleft : engine.result left with
  | error fault =>
    refine Or.inl (aborts_and_evaluate fault hl ?_ ?_)
    · rw [settled, hleft, error_bind]
    · rw [hbinary, hleft, error_bind]
  | ok v =>
    cases hright : engine.result right with
    | error fault =>
      refine Or.inr (aborts_and_evaluate fault hr ?_ ?_)
      · rw [settled, hright, error_bind]
      · rw [hbinary, hleft, hright, ok_bind, error_bind]
    | ok w =>
      have hsettled : engine.settled left = engine.resolved v := by rw [settled, hleft, ok_bind]
      have hsettled' : engine.settled right = engine.resolved w := by rw [settled, hright, ok_bind]
      rw [hleft, hright, ok_bind, ok_bind, outcome_applyInfix] at hbinary
      cases hv : engine.resolved v with
      | error fault =>
        refine Or.inl (aborts_and_evaluate fault hl (hsettled.trans hv) ?_)
        rw [hbinary, hv, error_bind, error_bind]
      | ok x =>
        cases hw : engine.resolved w with
        | error fault =>
          refine Or.inr (aborts_and_evaluate fault hr (hsettled'.trans hw) ?_)
          rw [hbinary, hv, hw, ok_bind, error_bind, error_bind]
        | ok y =>
          rw [hsettled, hsettled', hv, hw] at h
          exact absurd h (not_or.mpr ⟨not_aborts_ok x, not_aborts_ok y⟩)

end

variable {lookup : Lookup} {left right : Formula}

/-- A concatenation of scalars is a concatenation of entries. -/
theorem settled_concatenation (hl : (standard lookup).settled left = .ok l)
    (hr : (standard lookup).settled right = .ok r) (hls : l.IsScalar) (hrs : r.IsScalar) :
    (standard lookup).settled (.binary left "&" right) = concatEntries l r :=
  have hfamily : infixFamily "&" = .ok .concatenation := rfl
  settled_binary_of_isScalar hfamily hl hr hls hrs

/-- Let the values of two formulas be scalars. If neither of the formulas raises a formula error, their concatenation is
the leftmost error among the values, or else the texts of the values one after the other if both can be written, and a
fault if one of them is an integer with too many digits. If one of the formulas raises a formula error, that is the
value of the concatenation. -/
theorem evaluate_concatenation (hl : ((standard lookup).evaluate left).1 = .ok l)
    (hr : ((standard lookup).evaluate right).1 = .ok r) (hls : l.IsScalar) (hrs : r.IsScalar) :
    let value := ((standard lookup).evaluate (.binary left "&" right)).1
    (¬Aborts ((standard lookup).settled left) → ¬Aborts ((standard lookup).settled right) →
      (∀ kind, l = .error kind → value = .ok (.error kind)) ∧
        (l.isError = false → ∀ kind, r = .error kind → value = .ok (.error kind)) ∧
        (l.isError = false → r.isError = false → ∃ s t, l.WrittenAs s ∧ r.WrittenAs t ∧
          value = if l.writable && r.writable then .ok (.text (s ++ t)) else .error (.invalid .tooManyDigits))) ∧
      (Aborts ((standard lookup).settled left) ∨ Aborts ((standard lookup).settled right) →
        (Aborts ((standard lookup).settled left) ∧ value = .ok l) ∨
          (Aborts ((standard lookup).settled right) ∧ value = .ok r)) := by
  intro value
  refine ⟨fun hleft hright => ?_, fun h => evaluate_binary_of_aborts hl hr h⟩
  have hvalue : value = catchFormulaError (concatEntries l r) := by
    show ((standard lookup).evaluate (.binary left "&" right)).1 = _
    rw [evaluate_fst, settled_concatenation (settled_of_evaluate hleft hl) (settled_of_evaluate hright hr) hls hrs]
  rw [hvalue]
  refine ⟨fun kind hkind => ?_, fun hle kind hkind => ?_, fun hle hre => ?_⟩
  · rw [hkind, concatEntries, unlessError_of_error_left]
    rfl
  · rw [hkind, concatEntries, unlessError_of_error_right hle]
    rfl
  · obtain ⟨s, hs⟩ := Value.exists_writtenAs ⟨hls, hle⟩
    obtain ⟨t, ht⟩ := Value.exists_writtenAs ⟨hrs, hre⟩
    refine ⟨s, t, hs, ht, ?_⟩
    rw [concatEntries_of_writtenAs ⟨hls, hle⟩ ⟨hrs, hre⟩ hs ht]
    split <;> rfl

/-- A negative zero, which is written as zero, next to a product. -/
theorem evaluate_concatenation_zero :
    ((standard fun _ => .ok (.real (.zero true))).evaluate (.binary (.address "A1" none) "&"
      (.binary (.literal "number" "6") "*" (.literal "number" "7")))).1 = .ok (.text "042") := by
  have hzero : (standard fun _ => .ok (.real (.zero true))).settled (.address "A1" none) = .ok (.real (.zero true)) := by
    rfl
  have hproduct : (standard fun _ => .ok (.real (.zero true))).settled
      (.binary (.literal "number" "6") "*" (.literal "number" "7")) = .ok (.int 42) := by
    rfl
  obtain ⟨htexts, -⟩ :=
    evaluate_concatenation (evaluate_of_settled hzero) (evaluate_of_settled hproduct) trivial trivial
  rw [hzero, hproduct] at htexts
  obtain ⟨s, t, hs, ht, hvalue⟩ := (htexts (not_aborts_ok _) (not_aborts_ok _)).2.2 rfl rfl
  have hwritable : ((Value.real (.zero true)).writable && (Value.int 42).writable) = true := by decide +kernel
  have hinteger : (Double.zero true).toInt? = some 0 := by decide +kernel
  have hzeroText : s = "0" := by
    cases hs with
    | integral h =>
      have hn := Double.toInt?_eq_some_iff.mpr h
      rw [hinteger] at hn
      cases hn
      rfl
    | real h => exact absurd (Double.toInt?_eq_some_iff.mp hinteger) (h 0)
  have hproductText : t = "42" := by
    cases ht
    rfl
  rw [hwritable, if_pos rfl, hzeroText, hproductText] at hvalue
  exact hvalue

/-- A lookup that serves an integer for every reference. -/
def constantly (n : Int) : Lookup := fun _ => .ok (.int n)

/-- The square of a cell. -/
def squaredCell : Formula := .binary (.address "A1" none) "*" (.address "A1" none)

theorem settled_squaredCell (k : Nat) :
    (standard (constantly (Nat.pow 10 k : Nat))).settled squaredCell = .ok (.int (Nat.pow 10 (k + k) : Nat)) := by
  have hsquare (n : Int) : (standard (constantly n)).settled squaredCell = .ok (.int (n * n)) := by rfl
  have hpower : Nat.pow 10 (k + k) = Nat.pow 10 k * Nat.pow 10 k := Nat.pow_add 10 k k
  rw [hsquare, hpower, Int.natCast_mul]

/-- Half as many digits as can be written. -/
def halfLimit : Nat := 2150

/-- The square of 10^2150 is an integer with 4301 digits, which has no text. -/
theorem evaluate_concatenation_ne :
    let engine := standard (constantly (Nat.pow 10 halfLimit : Nat))
    (engine.evaluate squaredCell).1 = .ok (.int (Nat.pow 10 Number.digitLimit : Nat)) ∧
      (engine.evaluate (.binary squaredCell "&" (.literal "string" "\"\""))).1 = .error (.invalid .tooManyDigits) := by
  intro engine
  have hlimit : Number.digitLimit = halfLimit + halfLimit := rfl
  have hsquare : engine.settled squaredCell = .ok (.int (Nat.pow 10 Number.digitLimit : Nat)) := by
    rw [hlimit]
    exact settled_squaredCell halfLimit
  have hempty : engine.settled (.literal "string" "\"\"") = .ok (.text "") := by rfl
  have hproper : (Value.int (Nat.pow 10 Number.digitLimit : Nat)).IsProper ∧ (Value.text "").IsProper :=
    ⟨⟨trivial, rfl⟩, trivial, rfl⟩
  have hlong : (Value.int (Nat.pow 10 Number.digitLimit : Nat)).writable = false := not_intWritable_tenPow
  refine ⟨evaluate_of_settled hsquare, ?_⟩
  rw [evaluate_fst, settled_concatenation hsquare hempty trivial trivial,
    concatEntries_of_writtenAs hproper.1 hproper.2 (.int _) (.text _), hlong]
  rfl

end Engine

end GridCalc
