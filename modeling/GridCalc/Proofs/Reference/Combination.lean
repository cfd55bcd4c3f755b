import GridCalc.Proofs.Decimal
import GridCalc.Proofs.Outcome
import GridCalc.Reference.Algebra

/-!
# Operands that do not combine

Only references combine. The boxes of all operands are taken before any two of them are combined, so the first operand
that is no reference is the fault, whatever the references around it cover (`operandBoxes_of_first`,
`RangeOperator.combine_of_first`). The fault is `#VALUE!` and shows that operand, unless the operand holds an integer
too long to be written: then it cannot even be reported.

Main statement: `RangeOperator.combine_notReference`.
-/

namespace GridCalc

def Value.isReference : Value → Bool
  | .reference _ => true
  | _ => false

theorem Value.isReference_of_isScalar {v : Value} (hv : v.IsScalar) : v.isReference = false := by
  cases v <;> first | rfl | exact hv.elim

/-- The first operand that is no reference. -/
def firstNonReference? (operands : List Value) : Option Value := operands.find? fun v => !v.isReference

variable {operands : List Value} {v : Value}

theorem isReference_of_first (h : firstNonReference? operands = some v) : v.isReference = false := by
  simpa using List.find?_some h

theorem exists_firstNonReference? (h : ∃ v ∈ operands, v.isReference = false) :
    ∃ v, firstNonReference? operands = some v := by
  obtain ⟨v, hv, hfalse⟩ := h
  rw [← Option.isSome_iff_exists, firstNonReference?, List.find?_isSome]
  exact ⟨v, hv, by simpa using hfalse⟩

theorem firstNonReference?_cons (h : v.isReference = false) (rest : List Value) :
    firstNonReference? (v :: rest) = some v := by
  simp [firstNonReference?, h]

/-- It stands in front, or behind a reference. -/
theorem cons_cases_of_first {first : Value} {rest : List Value} (h : firstNonReference? (first :: rest) = some v) :
    first = v ∨ (∃ ref, first = .reference ref) ∧ firstNonReference? rest = some v := by
  cases first with
  | reference ref => exact Or.inr ⟨⟨ref, rfl⟩, h⟩
  | empty | bool b | number n | text s | error kind | list items | collection items | bearer ref
  | classified w isArray | bare items | bareReference ref => exact Or.inl (Option.some.inj h)

/-! ## Boxes of the operands -/

theorem box_of_not_isReference (h : v.isReference = false) : v.box = Fault.raise (.formula (.notReference v)) := by
  cases v <;> first | rfl | cases h

theorem mapM_box_of_first : ∀ {operands : List Value}, firstNonReference? operands = some v →
    operands.mapM Value.box = Fault.raise (.formula (.notReference v))
  | [], h => by cases h
  | first :: rest, h => by
    rw [List.mapM_cons]
    rcases cons_cases_of_first h with rfl | ⟨⟨ref, rfl⟩, hrest⟩
    · rw [box_of_not_isReference (isReference_of_first h)]
      rfl
    · rw [mapM_box_of_first hrest]
      rfl

theorem operandBoxes_of_first (operator : RangeOperator) (h : firstNonReference? operands = some v) :
    operandBoxes operator operands = Fault.raise (.formula (.notReference v)) := by
  cases operands with
  | nil => cases h
  | cons first rest =>
    rw [operandBoxes]
    rcases cons_cases_of_first h with rfl | ⟨⟨ref, rfl⟩, hrest⟩
    · rw [box_of_not_isReference (isReference_of_first h)]
      rfl
    · rw [mapM_box_of_first hrest]
      rfl

/-! ## The operators -/

/-- The computation ends in `#VALUE!`, with a message that shows the operand that is no reference. -/
def Refuses {α : Type} (operand : Value) (x : Except Fault α) : Prop :=
  ∃ cause : FormulaFault, x = .error (.formula cause) ∧ cause.kind = .value ∧
    cause.message = "Expected a reference, got " ++ operand.display

namespace RangeOperator

/-- What an operator makes of its operands. -/
def combine : RangeOperator → List Value → Except Fault Reference
  | intersect => GridCalc.intersection
  | span => GridCalc.span

variable (operator : RangeOperator)

theorem combine_of_first (h : firstNonReference? operands = some v) :
    operator.combine operands = Fault.raise (.formula (.notReference v)) := by
  cases operator with
  | intersect =>
    rw [combine, GridCalc.intersection, operandBoxes_of_first .intersect h]
    rfl
  | span =>
    rw [combine, GridCalc.span, operandBoxes_of_first .span h]
    rfl

theorem refuses_of_first (h : firstNonReference? operands = some v) (hw : v.writable = true) :
    Refuses v (operator.combine operands) := by
  rw [operator.combine_of_first h]
  exact ⟨.notReference v, congrArg Except.error (if_pos hw), rfl, rfl⟩

theorem combine_of_first_of_not_writable (h : firstNonReference? operands = some v) (hw : v.writable = false) :
    operator.combine operands = .error (.invalid .tooManyDigits) := by
  rw [operator.combine_of_first h]
  exact congrArg Except.error (if_neg (by simp [Fault.writable, hw]))

/-- Operands of which one is no reference do not combine, whatever the others are: the first that is none is refused if
it can be written, and otherwise the report of it fails. So the operands are refused in whatever order they stand iff
all of them that are no references can be written. -/
theorem combine_notReference (h : ∃ v ∈ operands, v.isReference = false) :
    (∃ v, firstNonReference? operands = some v ∧ (v.writable = true → Refuses v (operator.combine operands)) ∧
      (v.writable = false → operator.combine operands = .error (.invalid .tooManyDigits))) ∧
    ((∀ others, others.Perm operands → ∃ v, Refuses v (operator.combine others)) ↔
      ∀ v ∈ operands, v.isReference = false → v.writable = true) := by
  refine ⟨?_, fun hall v hv hfalse => ?_, fun hall others hperm => ?_⟩
  · obtain ⟨v, hfirst⟩ := exists_firstNonReference? h
    exact ⟨v, hfirst, operator.refuses_of_first hfirst, operator.combine_of_first_of_not_writable hfirst⟩
  · -- in front of all others the operand would be the one that is reported
    obtain ⟨before, after, rfl⟩ := List.append_of_mem hv
    obtain ⟨w, cause, hcause, -⟩ := hall (v :: (before ++ after)) List.perm_middle.symm
    by_contra hw
    rw [operator.combine_of_first_of_not_writable (firstNonReference?_cons hfalse _)
      (Bool.eq_false_of_not_eq_true hw)] at hcause
    cases hcause
  · obtain ⟨v, hv, hfalse⟩ := h
    obtain ⟨w, hfirst⟩ := exists_firstNonReference? ⟨v, hperm.mem_iff.mpr hv, hfalse⟩
    have hw := hall w (hperm.mem_iff.mp (List.mem_of_find?_eq_some hfirst)) (isReference_of_first hfirst)
    exact ⟨w, operator.refuses_of_first hfirst hw⟩

/-- Cells on two sheets, around a text and another object that bears a reference. -/
theorem combine_notReference_amid :
    (∃ v ∈ [Value.reference (.cell ⟨1, 1, some "Data", none⟩), .text "x", .bearer (.cell ⟨1, 1, none, none⟩),
        .reference (.cell ⟨2, 2, none, none⟩)], v.isReference = false) ∧
      Refuses (.text "x") (intersect.combine [.reference (.cell ⟨1, 1, some "Data", none⟩), .text "x",
        .bearer (.cell ⟨1, 1, none, none⟩), .reference (.cell ⟨2, 2, none, none⟩)]) := by
  have hmem : ∃ v ∈ [Value.reference (.cell ⟨1, 1, some "Data", none⟩), .text "x", .bearer (.cell ⟨1, 1, none, none⟩),
      .reference (.cell ⟨2, 2, none, none⟩)], v.isReference = false := ⟨.text "x", by simp, rfl⟩
  obtain ⟨v, hfirst, hrefuses, -⟩ := (intersect.combine_notReference hmem).1
  cases hfirst
  exact ⟨hmem, hrefuses rfl⟩

/-- An integer of 4301 digits is not refused, but its report fails; behind a text it does not show. -/
theorem combine_not_refuses :
    (intersect.combine [.int (Nat.pow 10 Number.digitLimit : Nat)] = .error (.invalid .tooManyDigits) ∧
      span.combine [.int (Nat.pow 10 Number.digitLimit : Nat)] = .error (.invalid .tooManyDigits)) ∧
    Refuses (.text "x") (intersect.combine [.text "x", .int (Nat.pow 10 Number.digitLimit : Nat)]) ∧
    ¬∃ v, Refuses v (intersect.combine [.int (Nat.pow 10 Number.digitLimit : Nat), .text "x"]) := by
  have hlong : (Value.int (Nat.pow 10 Number.digitLimit : Nat)).writable = false := not_intWritable_tenPow
  have hfirst : ∀ rest, firstNonReference? (.int (Nat.pow 10 Number.digitLimit : Nat) :: rest) =
      some (.int (Nat.pow 10 Number.digitLimit : Nat)) := firstNonReference?_cons rfl
  refine ⟨⟨intersect.combine_of_first_of_not_writable (hfirst []) hlong,
    span.combine_of_first_of_not_writable (hfirst []) hlong⟩, intersect.refuses_of_first rfl rfl, ?_⟩
  rintro ⟨v, cause, hcause, -⟩
  rw [intersect.combine_of_first_of_not_writable (hfirst [.text "x"]) hlong] at hcause
  cases hcause

end RangeOperator

end GridCalc
