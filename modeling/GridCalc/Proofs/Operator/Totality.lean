import GridCalc.Proofs.Operator.Entries
import GridCalc.Proofs.Reference.Parsing

/-!
# Operators have a result on all entries

Whatever two plain entries are, an operator that its family knows has a result (`InfixFamily.exists_entries`). Errors
and arrays are answered before the operator looks at anything (`unlessError_of_operands`), and the scalars that are left
can be compared, and become numbers or none. Only a concatenation asks for integers that can be written; an integral
double always can (`Double.intWritable_of_toInt?`).
-/

namespace GridCalc

variable {l r v : Value}

namespace Value

/-- A scalar that is no formula error. -/
def IsProper (v : Value) : Prop := v.IsScalar ∧ v.isError = false

/-- A scalar or a list of anything. -/
def IsEntry (v : Value) : Prop := v.IsScalar ∨ v.isList = true

theorem isScalar_of_plain (hv : v.Plain) (hlist : v.isList = false) : v.IsScalar := by
  cases v <;> first | exact trivial | exact hv.elim | cases hlist

theorem Plain.isEntry (hv : v.Plain) : v.IsEntry := by
  cases hlist : v.isList with
  | false => exact Or.inl (isScalar_of_plain hv hlist)
  | true => exact Or.inr hlist

theorem IsEntry.isScalar (hv : v.IsEntry) (hlist : v.isList = false) : v.IsScalar :=
  hv.resolve_right (by simp [hlist])

theorem isError_of_isList (hv : v.isList = true) : v.isError = false := by
  cases v <;> first | rfl | cases hv

theorem writableAll_iff {items : List Value} : writableAll items = true ↔ ∀ v ∈ items, v.writable = true := by
  induction items with
  | nil => simp [writableAll]
  | cons v rest ih => simp [writableAll, ih]

end Value

/-! ## Coercions -/

theorem natAbs_signed (negative : Bool) (n : Nat) : (signed negative n).natAbs = n := by
  cases negative <;> simp [signed]

theorem twoPow_le_tenPow (n : Nat) : twoPow n ≤ 10 ^ n := Nat.pow_le_pow_left (by decide) n

/-- The integer that a double is lies below 2^1024, which is far from the limit on digits. -/
theorem Double.intWritable_of_toInt? {d : Double} {n : Int} (h : d.toInt? = some n) :
    Number.intWritable n = true := by
  cases d with
  | nan => cases h
  | infinite negative => cases h
  | finite negative u fits =>
    rw [toInt?, Option.ite_none_right_eq_some, Option.some.injEq] at h
    obtain ⟨-, rfl⟩ := h
    have hunits : u < oneUnits * twoPow 1024 := by
      rw [oneUnits, ← twoPow_add]
      exact fits.1
    have hlt : u / oneUnits < 10 ^ 1024 :=
      calc u / oneUnits < twoPow 1024 := Nat.div_lt_of_lt_mul hunits
        _ ≤ 10 ^ 1024 := twoPow_le_tenPow 1024
    have hwritable := Number.intWritable_of_lt hlt (by decide)
    rw [Number.intWritable, Int.natAbs_natCast] at hwritable
    rw [Number.intWritable, natAbs_signed]
    exact hwritable

theorem exists_integerText {n : Int} (h : Number.intWritable n = true) : ∃ s, Value.integerText n = .ok s :=
  ⟨_, if_pos h⟩

theorem exists_toText (hv : v.IsProper) (hw : v.writable = true) : ∃ s, v.toText = .ok s := by
  obtain ⟨hscalar, herror⟩ := hv
  cases v with
  | empty | bool b | text s => exact ⟨_, rfl⟩
  | error kind => cases herror
  | number n =>
    cases n with
    | int n => exact exists_integerText hw
    | real d =>
      rw [Value.toText]
      split
      · rename_i n hn
        exact exists_integerText (Double.intWritable_of_toInt? hn)
      · exact ⟨_, rfl⟩
  | list items | collection items | reference ref | bearer ref | classified v isArray | bare items
  | bareReference ref => exact hscalar.elim

/-- A scalar or a list is a number or is none; asking never fails. -/
theorem exists_number? (hv : v.IsEntry) : ∃ n?, number? v = .ok n? := by
  cases v with
  | empty | bool b | number n | error kind | list items => exact ⟨_, rfl⟩
  | text s =>
    rw [number?, Value.toNumber]
    split
    · exact ⟨_, rfl⟩
    · exact ⟨_, rfl⟩
    · rename_i fault hcoercion hfault
      split at hfault
      · cases hfault
      · split at hfault
        · cases hfault
        · cases hfault
          exact absurd rfl (hcoercion _)
  | collection items | reference ref | bearer ref | classified v isArray | bare items | bareReference ref =>
    exact (hv.isScalar rfl).elim

/-! ## Comparisons -/

/-- What is compared has a place in the order of types. -/
theorem exists_comparisonRank (hv : v.IsProper) (other : Value) :
    ∃ type rank, (fillEmpty v other).typeOf = .ok type ∧ comparisonRank type = .ok rank := by
  obtain ⟨hscalar, herror⟩ := hv
  cases v with
  | empty => cases other <;> exact ⟨_, _, rfl, rfl⟩
  | bool b | number n | text s => exact ⟨_, _, rfl, rfl⟩
  | error kind => cases herror
  | list items | collection items | reference ref | bearer ref | classified v isArray | bare items
  | bareReference ref => exact hscalar.elim

theorem exists_compareScalar (hl : l.IsProper) (hr : r.IsProper) : ∃ o, compareScalar l r = .ok o := by
  obtain ⟨leftType, leftRank, hlt, hlr⟩ := exists_comparisonRank hl r
  obtain ⟨rightType, rightRank, hrt, hrr⟩ := exists_comparisonRank hr l
  simp only [compareScalar, hlt, hlr, hrt, hrr, ok_bind]
  split
  · exact ⟨_, rfl⟩
  · split <;> exact ⟨_, rfl⟩

/-! ## Operations on entries -/

/-- Without an error among the operands it is the arrays that count. -/
theorem firstError_of_forall {values : List Value} (h : ∀ v ∈ values, v.isError = false) :
    firstError values = if values.any Value.isList then some .value else none := by
  unfold firstError
  rw [List.findSome?_eq_none_iff.mpr]
  intro v hv
  have herror := h v hv
  cases v <;> first | rfl | cases herror

/-- Nothing keeps an operator from its operands iff none of them is an error or an array. -/
theorem firstError_eq_none_iff {values : List Value} :
    firstError values = none ↔ ∀ v ∈ values, v.isError = false ∧ v.isList = false := by
  constructor
  · intro h v hv
    unfold firstError at h
    split at h
    · cases h
    · rename_i hnone
      have hkind := List.findSome?_eq_none_iff.mp hnone v hv
      have hany : values.any Value.isList = false := by simpa using h
      refine ⟨?_, Bool.eq_false_of_not_eq_true (List.any_eq_false.mp hany v hv)⟩
      cases v <;> first | rfl | cases hkind
  · intro h
    rw [firstError_of_forall fun v hv => (h v hv).1]
    simpa using fun v hv => (h v hv).2

/-- Of two errors the one on the left is found, of one error and one array always the error. -/
theorem firstError_swap (h : ¬(l.isError = true ∧ r.isError = true)) : firstError [r, l] = firstError [l, r] := by
  cases l <;> cases r <;> first | rfl | exact absurd ⟨rfl, rfl⟩ h

/-- What is no error and no array leaves the answer to the other operand. -/
theorem firstError_pair_left (hl : l.isError = false ∧ l.isList = false) (r : Value) :
    firstError [l, r] = firstError [r] := by
  cases l <;> first | rfl | simp [Value.isError, Value.isList] at hl

theorem firstError_pair_right (l : Value) (hr : r.isError = false ∧ r.isList = false) :
    firstError [l, r] = firstError [l] := by
  rw [firstError_swap (by simp [hr.1]), firstError_pair_left hr]

section

variable {op : Value → Value → Except Fault Value}

/-- An operation looks at operands that are neither errors nor arrays. -/
theorem unlessError_of_operands (hl : l.isError = false ∧ l.isList = false)
    (hr : r.isError = false ∧ r.isList = false) : unlessError op l r = op l r := by
  have hnone : firstError [l, r] = none := firstError_eq_none_iff.mpr (by simp [hl, hr])
  rw [unlessError, hnone]

/-- An error on the left is the result. -/
theorem unlessError_of_error_left (kind : ErrorKind) (r : Value) :
    unlessError op (.error kind) r = .ok (.error kind) := rfl

/-- An error on the right is the result, unless there is one on the left. -/
theorem unlessError_of_error_right (hl : l.isError = false) (kind : ErrorKind) :
    unlessError op l (.error kind) = .ok (.error kind) := by
  cases l <;> first | rfl | cases hl

/-- An array is no single operand. -/
theorem unlessError_of_isList (hl : l.isError = false) (hr : r.isError = false)
    (hlist : (l.isList || r.isList) = true) : unlessError op l r = .ok (.error .value) := by
  have hvalue : firstError [l, r] = some .value := by
    rw [firstError_of_forall (by simp [hl, hr]), if_pos (by simpa using hlist)]
  rw [unlessError, hvalue]

theorem exists_unlessError (hl : l.IsEntry) (hr : r.IsEntry) (hop : l.IsProper → r.IsProper → ∃ v, op l r = .ok v) :
    ∃ v, unlessError op l r = .ok v := by
  unfold unlessError
  cases h : firstError [l, r] with
  | some kind => exact ⟨_, rfl⟩
  | none =>
    simp only [firstError_eq_none_iff, List.forall_mem_cons] at h
    obtain ⟨⟨hle, hll⟩, ⟨hre, hrl⟩, -⟩ := h
    exact hop ⟨hl.isScalar hll, hle⟩ ⟨hr.isScalar hrl, hre⟩

end

theorem exists_mathScalar {token : String} (htoken : (MathOperator.ofToken? token).isSome = true) (hl : l.IsEntry)
    (hr : r.IsEntry) : ∃ v, mathScalar l token r = .ok v := by
  obtain ⟨operator, hoperator⟩ := Option.isSome_iff_exists.mp htoken
  refine exists_unlessError hl hr fun _ _ => ?_
  obtain ⟨x?, hx⟩ := exists_number? hl
  obtain ⟨y?, hy⟩ := exists_number? hr
  simp only [hx, hy, hoperator, ok_bind]
  cases x? <;> cases y? <;> exact ⟨_, rfl⟩

theorem exists_signScalar (tokens : List String) (hv : v.Plain) : ∃ w, signScalar tokens v = .ok w := by
  unfold signScalar
  dsimp only
  split
  · exact ⟨v, rfl⟩
  · unfold onNumber
    split
    · exact ⟨_, rfl⟩
    · obtain ⟨n?, hn⟩ := exists_number? hv.isEntry
      rw [hn, ok_bind]
      cases n? <;> exact ⟨_, rfl⟩

namespace InfixFamily

variable {family : InfixFamily} {token : String}

/-- An operator has a result on scalars and lists, and a concatenation on those scalars that can be written. -/
theorem exists_entries (hknows : family.Knows token) (hl : l.IsEntry) (hr : r.IsEntry)
    (hw : family = concatenation → (l.IsScalar → l.writable = true) ∧ (r.IsScalar → r.writable = true)) :
    ∃ v, family.entries token l r = .ok v := by
  cases family with
  | comparison =>
    obtain ⟨relation, hrelation⟩ := Option.isSome_iff_exists.mp hknows
    simp only [entries, hrelation]
    refine exists_unlessError hl hr fun hl hr => ?_
    obtain ⟨o, ho⟩ := exists_compareScalar hl hr
    exact ⟨_, by rw [ho]; rfl⟩
  | concatenation =>
    obtain ⟨hlw, hrw⟩ := hw rfl
    rw [entries, concatEntries]
    refine exists_unlessError hl hr fun hl hr => ?_
    obtain ⟨s, hs⟩ := exists_toText hl (hlw hl.1)
    obtain ⟨t, ht⟩ := exists_toText hr (hrw hr.1)
    exact ⟨_, by rw [hs, ht]; rfl⟩
  | arithmetic => exact exists_mathScalar hknows hl hr

/-- Every operator looks for errors and arrays first. -/
theorem entries_eq_unlessError (hknows : family.Knows token) : ∃ op, family.entries token = unlessError op := by
  cases family with
  | comparison =>
    obtain ⟨relation, hrelation⟩ := Option.isSome_iff_exists.mp hknows
    exact ⟨_, funext fun l => funext fun r => by simp only [entries, hrelation]; rfl⟩
  | concatenation => exact ⟨_, rfl⟩
  | arithmetic => exact ⟨_, rfl⟩

theorem entries_of_error_left (hknows : family.Knows token) (kind : ErrorKind) (r : Value) :
    family.entries token (.error kind) r = .ok (.error kind) := by
  obtain ⟨op, hop⟩ := entries_eq_unlessError hknows
  rw [hop, unlessError_of_error_left]

theorem entries_of_error_right (hknows : family.Knows token) (hl : l.isError = false) (kind : ErrorKind) :
    family.entries token l (.error kind) = .ok (.error kind) := by
  obtain ⟨op, hop⟩ := entries_eq_unlessError hknows
  rw [hop, unlessError_of_error_right hl]

theorem entries_of_isList (hknows : family.Knows token) (hl : l.isError = false) (hr : r.isError = false)
    (hlist : (l.isList || r.isList) = true) : family.entries token l r = .ok (.error .value) := by
  obtain ⟨op, hop⟩ := entries_eq_unlessError hknows
  rw [hop, unlessError_of_isList hl hr hlist]

end InfixFamily

end GridCalc
