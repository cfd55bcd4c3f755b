import GridCalc.Proofs.Formula.Area
import GridCalc.Proofs.Formula.Standard
import GridCalc.Proofs.Reference.Combination

/-!
# Which formula error a formula aborts with

A formula error ends the evaluation of the whole formula. Which nodes raise one can be seen from the formula alone
(`Formula.abort?`): error literals, intersections and spans with an operand that is no reference, and intersections of
references that lie on different sheets or have no cell in common. Operands are evaluated before the node that they
belong to, from left to right, so the first of these nodes in postorder decides (`Formula.firstAbort?`).

Main statement: `evaluate_abort`. `AbortsAs` follows this through sequences and traversals of computations.
-/

namespace GridCalc

variable {α β : Type}

/-! ## Computations that abort in one way -/

/-- The computation aborts with the error that is given, or yields a result of one kind if none is; it may end in a
fault that is no formula error either way. -/
def AbortsAs (abort : Option ErrorKind) (P : α → Prop) : Except Fault α → Prop
  | .ok a => abort = none ∧ P a
  | .error (.formula cause) => abort = some cause.kind
  | .error _ => True

theorem abortsAs_of_not_aborts {P : α → Prop} {x : Except Fault α} (hx : ¬Aborts x) (hP : ∀ a, x = .ok a → P a) :
    AbortsAs none P x := by
  cases x with
  | ok a => exact ⟨rfl, hP a rfl⟩
  | error fault =>
    cases fault with
    | formula cause => exact absurd ⟨cause, rfl⟩ hx
    | _ => exact trivial

/-- A formula error aborts as its kind, unless it cannot even be reported. -/
theorem abortsAs_reported (P : α → Prop) (cause : FormulaFault) :
    AbortsAs (some cause.kind) P (.error (Fault.formula cause).reported) := by
  unfold Fault.reported
  split
  · rfl
  · exact trivial

namespace AbortsAs

variable {P : α → Prop} {Q : β → Prop} {abort abort' : Option ErrorKind} {x : Except Fault α}

theorem bind {f : α → Except Fault β} (hx : AbortsAs abort P x) (hf : ∀ a, P a → AbortsAs abort' Q (f a)) :
    AbortsAs (abort.or abort') Q (x >>= f) := by
  cases x with
  | ok a =>
    obtain ⟨rfl, ha⟩ := hx
    exact hf a ha
  | error fault =>
    cases fault with
    | formula cause =>
      cases hx
      rfl
    | _ => exact trivial

theorem map {f : α → β} (hx : AbortsAs abort P x) (hf : ∀ a, P a → Q (f a)) : AbortsAs abort Q (f <$> x) := by
  rw [map_eq_pure_bind, ← abort.or_none]
  exact hx.bind fun a ha => ⟨rfl, hf a ha⟩

/-- What comes after does not abort. -/
theorem bind_of_not_aborts {f : α → Except Fault β} (hx : AbortsAs abort P x) (hf : ∀ a, ¬Aborts (f a))
    (hQ : ∀ a b, P a → f a = .ok b → Q b) : AbortsAs abort Q (x >>= f) := by
  rw [← abort.or_none]
  exact hx.bind fun a ha => abortsAs_of_not_aborts (hf a) fun b hb => hQ a b ha hb

/-- A traversal aborts as the first item that aborts. -/
theorem mapM {R : α → β → Prop} {f : α → Except Fault β} {abort : α → Option ErrorKind} : ∀ {items : List α},
    (∀ a ∈ items, AbortsAs (abort a) (R a) (f a)) →
    AbortsAs (items.findSome? abort) (List.Forall₂ R items) (items.mapM f)
  | [], _ => ⟨rfl, .nil⟩
  | a :: rest, h => by
    obtain ⟨ha, hrest⟩ := List.forall_mem_cons.mp h
    have hor : (a :: rest).findSome? abort = (abort a).or ((rest.findSome? abort).or none) := by
      rw [List.findSome?_cons, Option.or_none]
      cases abort a <;> rfl
    rw [List.mapM_cons, hor]
    exact ha.bind fun b hb => (mapM hrest).bind fun bs hbs => ⟨rfl, .cons hb hbs⟩

end AbortsAs

/-! ## Nodes that abort -/

namespace Formula

mutual

/-- The nodes of a formula, the operands of a node from left to right before the node. -/
def postorder : Formula → List Formula
  | .array rows => postorderRows rows ++ [.array rows]
  | .intersection operands => postorderAll operands ++ [.intersection operands]
  | .union operands => postorderAll operands ++ [.union operands]
  | .span operands => postorderAll operands ++ [.span operands]
  | .signs tokens operand => postorder operand ++ [.signs tokens operand]
  | .percent operand token => postorder operand ++ [.percent operand token]
  | .binary left token right => postorder left ++ (postorder right ++ [.binary left token right])
  | .literal kind text => [.literal kind text]
  | .address text sheet => [.address text sheet]
  | .value v => [.value v]

def postorderAll : List Formula → List Formula
  | [] => []
  | formula :: rest => postorder formula ++ postorderAll rest

def postorderRows : List (List Formula) → List Formula
  | [] => []
  | row :: rest => postorderAll row ++ postorderRows rest

end

/-- The node is an address, a reference, an intersection or a span. -/
def isReference : Formula → Bool
  | .address .. | .value (.reference _) | .intersection _ | .span _ => true
  | _ => false

/-- The formula error that a node raises by itself: the error that a literal names, `#VALUE!` for an operand of an
intersection or a span that is no reference, `#NULL!` for areas on different sheets or without a common cell. -/
noncomputable def abort? : Formula → Option ErrorKind
  | .literal kind text => if kind = "error" then some (String.ofList (Text.upper text.toList)) else none
  | .span operands => if operands.all isReference then none else some .value
  | .intersection operands =>
    if operands.all isReference then
      match areas? operands with
      | some (area :: rest) => if (Area.common? (area :: rest)).isSome then none else some .null
      | _ => none
    else some .value
  | _ => none

/-- The formula error of the first node that raises one. -/
noncomputable def firstAbort? (formula : Formula) : Option ErrorKind := formula.postorder.findSome? abort?

/-- A node comes behind its operands. -/
theorem findSome?_append_singleton (formulas : List Formula) (formula : Formula) :
    (formulas ++ [formula]).findSome? abort? = (formulas.findSome? abort?).or formula.abort? := by
  rw [List.findSome?_append, List.findSome?_cons]
  cases formula.abort? <;> rfl

theorem findSome?_postorderAll (formulas : List Formula) :
    (postorderAll formulas).findSome? abort? = formulas.findSome? firstAbort? := by
  induction formulas with
  | nil => rfl
  | cons formula rest ih =>
    refine List.findSome?_append.trans ?_
    rw [ih, List.findSome?_cons, ← firstAbort?]
    cases formula.firstAbort? <;> rfl

theorem findSome?_postorderRows (rows : List (List Formula)) :
    (postorderRows rows).findSome? abort? = rows.findSome? fun row => row.findSome? firstAbort? := by
  induction rows with
  | nil => rfl
  | cons row rest ih =>
    refine List.findSome?_append.trans ?_
    rw [ih, findSome?_postorderAll, List.findSome?_cons]
    cases row.findSome? firstAbort? <;> rfl

theorem firstAbort?_literal (kind text : String) :
    firstAbort? (.literal kind text) = if kind = "error" then some (String.ofList (Text.upper text.toList)) else none :=
  findSome?_append_singleton [] _

theorem firstAbort?_array (rows : List (List Formula)) :
    firstAbort? (.array rows) = rows.findSome? fun row => row.findSome? firstAbort? := by
  refine (findSome?_append_singleton (postorderRows rows) _).trans ?_
  rw [findSome?_postorderRows]
  exact Option.or_none

theorem firstAbort?_intersection (operands : List Formula) : firstAbort? (.intersection operands) =
    (operands.findSome? firstAbort?).or (abort? (.intersection operands)) := by
  refine (findSome?_append_singleton (postorderAll operands) _).trans ?_
  rw [findSome?_postorderAll]

theorem firstAbort?_union (operands : List Formula) :
    firstAbort? (.union operands) = operands.findSome? firstAbort? := by
  refine (findSome?_append_singleton (postorderAll operands) _).trans ?_
  rw [findSome?_postorderAll]
  exact Option.or_none

theorem firstAbort?_span (operands : List Formula) :
    firstAbort? (.span operands) = (operands.findSome? firstAbort?).or (abort? (.span operands)) := by
  refine (findSome?_append_singleton (postorderAll operands) _).trans ?_
  rw [findSome?_postorderAll]

theorem firstAbort?_signs (tokens : List String) (operand : Formula) :
    firstAbort? (.signs tokens operand) = firstAbort? operand :=
  (findSome?_append_singleton (postorder operand) _).trans Option.or_none

theorem firstAbort?_percent (operand : Formula) (token : String) :
    firstAbort? (.percent operand token) = firstAbort? operand :=
  (findSome?_append_singleton (postorder operand) _).trans Option.or_none

theorem firstAbort?_binary (left : Formula) (token : String) (right : Formula) :
    firstAbort? (.binary left token right) = (firstAbort? left).or (firstAbort? right) := by
  have hright : (postorder right ++ [Formula.binary left token right]).findSome? abort? = firstAbort? right :=
    (findSome?_append_singleton _ _).trans Option.or_none
  refine List.findSome?_append.trans ?_
  rw [hright, ← firstAbort?]

end Formula

/-! ## Operands of intersections and spans -/

theorem operandBoxes_of_not_isReference (operator : RangeOperator) {vs : List Value}
    (h : vs.all Value.isReference = false) :
    ∃ w, operandBoxes operator vs = .error (Fault.formula (.notReference w)).reported := by
  obtain ⟨v, hfirst⟩ := exists_firstNonReference? (by simpa using h)
  exact ⟨v, operandBoxes_of_first operator hfirst⟩

namespace Formula

/-- An operand: a reference iff the node is one, and then to the area of the node. -/
structure Denotes (formula : Formula) (v : Value) : Prop where
  isReference : v.isReference = formula.isReference
  area : ∀ ref, v = .reference ref → formula.area? = some ref.area

theorem all_isReference_of_denotes {formulas : List Formula} {vs : List Value} (h : List.Forall₂ Denotes formulas vs) :
    vs.all Value.isReference = formulas.all isReference := by
  induction h with
  | nil => rfl
  | cons hfirst _ ih => rw [List.all_cons, List.all_cons, hfirst.isReference, ih]

theorem exists_references_of_denotes {formulas : List Formula} {vs : List Value}
    (h : List.Forall₂ Denotes formulas vs) (hall : formulas.all isReference = true) :
    ∃ refs : List Reference, vs = refs.map .reference ∧ areas? formulas = some (refs.map Reference.area) := by
  induction h with
  | nil => exact ⟨[], rfl, rfl⟩
  | @cons formula v _ _ hfirst _ ih =>
    obtain ⟨hformula, hrest⟩ := Bool.and_eq_true_iff.mp hall
    obtain ⟨refs, rfl, hareas⟩ := ih hrest
    rw [← hfirst.isReference] at hformula
    cases v <;> try cases hformula
    rename_i ref
    exact ⟨ref :: refs, rfl, by rw [areas?, hfirst.area ref rfl, hareas]; rfl⟩

theorem abort?_intersection {operands : List Formula} {ref : Reference} {rest : List Reference}
    (hall : operands.all isReference = true) (hareas : areas? operands = some ((ref :: rest).map Reference.area)) :
    abort? (.intersection operands) =
      if (Area.common? ((ref :: rest).map Reference.area)).isSome then none else some .null := by
  rw [abort?, if_pos hall, hareas]
  rfl

theorem abortsAs_intersection {operands : List Formula} {vs : List Value}
    (h : List.Forall₂ Denotes operands vs) : AbortsAs (abort? (.intersection operands))
      (fun (ref : Reference) => area? (.intersection operands) = some ref.area) (GridCalc.intersection vs) := by
  cases hall : operands.all isReference with
  | false =>
    obtain ⟨w, hw⟩ := operandBoxes_of_not_isReference .intersect ((all_isReference_of_denotes h).trans hall)
    have hkind : abort? (.intersection operands) = some (FormulaFault.notReference w).kind := by
      simp [abort?, hall, FormulaFault.kind]
    rw [GridCalc.intersection, hw, hkind]
    exact abortsAs_reported _ _
  | true =>
    obtain ⟨refs, rfl, hareas⟩ := exists_references_of_denotes h hall
    cases refs with
    | nil => exact trivial
    | cons ref rest =>
      rw [abort?_intersection hall hareas, area?, hareas, Option.bind_some, common?_area]
      cases hcommon : GridCalc.intersection ((ref :: rest).map .reference) with
      | ok common =>
        obtain ⟨hmeet, hsheet, hcells⟩ := cells_of_intersection (List.cons_ne_nil _ _) hcommon
        rw [if_pos hmeet]
        have harea : common.area = ⟨ref.sheet, commonCells (ref :: rest)⟩ := by
          rw [Reference.area, hsheet ref List.mem_cons_self, hcells]
        exact ⟨rfl, congrArg some harea.symm⟩
      | error fault =>
        obtain ⟨hdisjoint, b, c, rfl⟩ := disjoint_of_intersection (List.cons_ne_nil _ _) hcommon
        rw [if_neg hdisjoint]
        exact abortsAs_reported _ _

theorem abortsAs_span {operands : List Formula} {vs : List Value} (h : List.Forall₂ Denotes operands vs) :
    AbortsAs (abort? (.span operands)) (fun (ref : Reference) => area? (.span operands) = some ref.area)
      (GridCalc.span vs) := by
  cases hall : operands.all isReference with
  | false =>
    obtain ⟨w, hw⟩ := operandBoxes_of_not_isReference .span ((all_isReference_of_denotes h).trans hall)
    have hkind : abort? (.span operands) = some (FormulaFault.notReference w).kind := by
      simp [abort?, hall, FormulaFault.kind]
    rw [GridCalc.span, hw, hkind]
    exact abortsAs_reported _ _
  | true =>
    obtain ⟨refs, rfl, hareas⟩ := exists_references_of_denotes h hall
    cases refs with
    | nil => exact trivial
    | cons ref rest =>
      obtain ⟨enclosing, hspan, harea, -⟩ := exists_span_area (List.cons_ne_nil ref rest)
      rw [abort?, if_pos hall, hspan, area?, hareas, Option.map_some]
      exact ⟨rfl, congrArg some harea.symm⟩

end Formula

/-! ## Operators yield no references -/

theorem isReference_of_broadcast {op : Value → Value → Except Fault Value} {left right : Operand} {v : Value}
    (hop : ∀ l r v, op l r = .ok v → v.IsScalar) (h : broadcast op left right = .ok v) : v.isReference = false := by
  unfold broadcast at h
  split at h
  · obtain ⟨l, -, h⟩ := bind_eq_ok_iff.mp h
    obtain ⟨r, -, h⟩ := bind_eq_ok_iff.mp h
    obtain ⟨rows, -, h⟩ := bind_eq_ok_iff.mp h
    cases h
    rfl
  · exact Value.isReference_of_isScalar (hop _ _ _ h)

theorem isReference_of_mapEntries {op : Value → Except Fault Value} {o : Operand} {v : Value}
    (hop : ∀ x y, x.isReference = false → op x = .ok y → y.isReference = false) (ho : o.value.isReference = false)
    (h : mapEntries op o = .ok v) : v.isReference = false := by
  unfold mapEntries at h
  split at h
  · obtain ⟨rows, -, h⟩ := bind_eq_ok_iff.mp h
    obtain ⟨images, -, h⟩ := bind_eq_ok_iff.mp h
    cases h
    rfl
  · exact hop _ _ ho h

namespace Engine

open Run

variable {lookup : Lookup}

theorem isReference_of_applyInfix {token : String} {v w x : Value}
    (h : outcome ((standard lookup).applyInfix v token w) = .ok x) : x.isReference = false := by
  rw [outcome_applyInfix] at h
  obtain ⟨v', -, h⟩ := bind_eq_ok_iff.mp h
  obtain ⟨w', -, h⟩ := bind_eq_ok_iff.mp h
  obtain ⟨family, hfamily, h⟩ := bind_eq_ok_iff.mp h
  change family.apply (.ofValue v') token (.ofValue w') = .ok x at h
  rw [InfixFamily.apply_of_knows (InfixFamily.knows_of_infixFamily hfamily)] at h
  exact isReference_of_broadcast (fun _ _ _ => InfixFamily.isScalar_of_entries) h

section

variable (hserves : ∀ ref v, lookup ref = .ok v → v.isReference = false)
include hserves

theorem isReference_of_resolved {v x : Value} (h : (standard lookup).resolved v = .ok x) : x.isReference = false := by
  cases v with
  | reference ref | bearer ref => exact hserves ref x h
  | list items | collection items | empty | bool b | number n | text s | error kind | classified w isArray
  | bare items | bareReference ref =>
    cases h
    rfl

theorem isReference_of_applySigns {tokens : List String} {v x : Value}
    (h : outcome ((standard lookup).applySigns tokens v) = .ok x) : x.isReference = false := by
  rw [outcome_applySigns] at h
  split at h
  · cases h
  · obtain ⟨w, hw, h⟩ := bind_eq_ok_iff.mp h
    change GridCalc.signs tokens (.ofValue w) = .ok x at h
    unfold GridCalc.signs at h
    split at h
    · refine isReference_of_mapEntries (fun x y hx hy => ?_) (isReference_of_resolved hserves hw) h
      rcases eq_or_isScalar_of_signScalar hy with rfl | hscalar
      · exact hx
      · exact Value.isReference_of_isScalar hscalar
    · cases h

theorem isReference_of_applyPercent {token : String} {v x : Value}
    (h : outcome ((standard lookup).applyPercent v token) = .ok x) : x.isReference = false := by
  rw [outcome_applyPercent] at h
  split at h
  · rename_i htoken
    obtain ⟨w, hw, h⟩ := bind_eq_ok_iff.mp h
    change GridCalc.percent (.ofValue w) token = .ok x at h
    rw [GridCalc.percent, if_pos htoken] at h
    exact isReference_of_mapEntries (fun _ _ _ hy => Value.isReference_of_isScalar (isScalar_of_onNumber hy))
      (isReference_of_resolved hserves hw) h
  · cases h

end

/-! ## Nodes -/

theorem denotes_of_not_isReference {formula : Formula} {v : Value} (hf : formula.isReference = false)
    (hv : v.isReference = false) : formula.Denotes v :=
  ⟨hv.trans hf.symm, fun ref href => by rw [href] at hv; cases hv⟩

theorem denotes_reference {formula : Formula} {ref : Reference} (hf : formula.isReference = true)
    (harea : formula.area? = some ref.area) : formula.Denotes (.reference ref) :=
  ⟨hf.symm, fun ref' href => by cases href; exact harea⟩

theorem abortsAs_literal (kind text : String) :
    AbortsAs (Formula.firstAbort? (.literal kind text)) (Formula.literal kind text).Denotes
      (Literal.value kind text) := by
  rw [Formula.firstAbort?_literal]
  by_cases hkind : kind = "error"
  · subst hkind
    exact abortsAs_reported _ (.stated _)
  · rw [if_neg hkind]
    refine abortsAs_of_not_aborts ?_ fun v hv =>
      denotes_of_not_isReference rfl (Value.isReference_of_isScalar (isScalar_of_literal hv))
    unfold Literal.value
    split
    · unfold Literal.number
      split
      · exact not_aborts_ok _
      · exact not_aborts_raise (by simp)
    · exact not_aborts_ok _
    · exact not_aborts_ok _
    · exact absurd rfl hkind
    · exact not_aborts_raise (by simp)

theorem abortsAs_address (text : String) (sheet : Option String) :
    AbortsAs none (Formula.address text sheet).Denotes (Value.reference <$> Reference.parse text sheet) := by
  cases hparse : Reference.parse text sheet with
  | ok ref => exact ⟨rfl, denotes_reference rfl (by rw [Formula.area?, hparse]; rfl)⟩
  | error fault =>
    rw [map_error]
    refine abortsAs_of_not_aborts ?_ fun v hv => by cases hv
    rintro ⟨cause, ⟨⟩⟩
    exact Reference.not_aborts_parse text sheet ⟨cause, hparse⟩

theorem abortsAs_node (v : Value) : AbortsAs none (Formula.value v).Denotes (node v) := by
  cases v with
  | reference ref => exact ⟨rfl, denotes_reference rfl (by rw [Formula.area?])⟩
  | empty | bool b | number n | text s | error kind | list items | collection items | bearer ref
  | classified w isArray | bare items | bareReference ref => exact trivial

section

variable (hlookup : ∀ ref, ¬Aborts (lookup ref)) (hserves : ∀ ref v, lookup ref = .ok v → v.isReference = false)
include hlookup

theorem abortsAs_settled {formula : Formula}
    (h : AbortsAs formula.firstAbort? formula.Denotes ((standard lookup).result formula)) :
    AbortsAs formula.firstAbort? (fun _ => True) ((standard lookup).settled formula) :=
  h.bind_of_not_aborts (not_aborts_resolved hlookup) fun _ _ _ _ => trivial

include hserves

/-- A node aborts as the first node in it that raises a formula error. -/
theorem abortsAs_result (formula : Formula) :
    AbortsAs formula.firstAbort? formula.Denotes ((standard lookup).result formula) := by
  induction formula with
  | literal kind text =>
    rw [result_literal]
    exact abortsAs_literal kind text
  | address text sheet =>
    rw [result_address]
    exact abortsAs_address text sheet
  | array rows ih =>
    rw [Formula.firstAbort?_array, result_array]
    have hrow : ∀ row ∈ rows, AbortsAs (row.findSome? Formula.firstAbort?) (fun _ => True)
        (Value.list <$> row.mapM (standard lookup).settled) := fun row hrow =>
      (AbortsAs.mapM fun f hf => abortsAs_settled hlookup (ih row hrow f hf)).map fun _ _ => trivial
    exact (AbortsAs.mapM hrow).map fun items _ => denotes_of_not_isReference rfl rfl
  | intersection operands ih =>
    rw [Formula.firstAbort?_intersection, result_intersection]
    exact (AbortsAs.mapM ih).bind fun vs hvs => (Formula.abortsAs_intersection hvs).map fun ref harea =>
      denotes_reference rfl harea
  | union operands ih =>
    rw [Formula.firstAbort?_union, result_union]
    refine (AbortsAs.mapM ih).bind_of_not_aborts (fun vs => ?_) fun vs v _ hv => ?_
    · exact not_aborts_map (not_aborts_mapM fun v _ => not_aborts_resolved hlookup v)
    · obtain ⟨items, -, rfl⟩ := map_eq_ok_iff.mp hv
      exact denotes_of_not_isReference rfl rfl
  | span operands ih =>
    rw [Formula.firstAbort?_span, result_span]
    exact (AbortsAs.mapM ih).bind fun vs hvs => (Formula.abortsAs_span hvs).map fun ref harea =>
      denotes_reference rfl harea
  | signs tokens operand ih =>
    rw [Formula.firstAbort?_signs, result_signs]
    exact ih.bind_of_not_aborts (fun v => not_aborts_applySigns hlookup tokens v) fun v x _ hx =>
      denotes_of_not_isReference rfl (isReference_of_applySigns hserves hx)
  | percent operand token ih =>
    rw [Formula.firstAbort?_percent, result_percent]
    exact ih.bind_of_not_aborts (fun v => not_aborts_applyPercent hlookup v token) fun v x _ hx =>
      denotes_of_not_isReference rfl (isReference_of_applyPercent hserves hx)
  | binary left token right ihl ihr =>
    rw [Formula.firstAbort?_binary, result_binary]
    exact ihl.bind fun v _ => ihr.bind_of_not_aborts (fun w => not_aborts_applyInfix hlookup v token w)
      fun w x _ hx => denotes_of_not_isReference rfl (isReference_of_applyInfix hx)
  | value v =>
    rw [result_value]
    exact abortsAs_node v

/-- A formula that ends in no other fault has the error of its first node that raises one, and otherwise has the value
that is read of it. -/
theorem abort_or_settled {formula : Formula} {v : Value} (hv : ((standard lookup).evaluate formula).1 = .ok v) :
    (∃ kind, formula.firstAbort? = some kind ∧ v = .error kind ∧ Aborts ((standard lookup).settled formula)) ∨
      formula.firstAbort? = none ∧ (standard lookup).settled formula = .ok v := by
  have h := abortsAs_settled hlookup (abortsAs_result hlookup hserves formula)
  rw [evaluate_fst] at hv
  cases hsettled : (standard lookup).settled formula with
  | ok x =>
    rw [hsettled] at h hv
    exact Or.inr ⟨h.1, hv⟩
  | error fault =>
    rw [hsettled] at h hv
    cases fault with
    | formula cause =>
      cases hv
      exact Or.inl ⟨cause.kind, h, rfl, cause, rfl⟩
    | _ => cases hv

end

/-! ## Formulas -/

/-- Over a lookup that raises no formula error and serves no references, let a formula end in no fault other than a
formula error. If one of its nodes raises a formula error, the first of them in postorder ends the evaluation and its
error is the value of the formula; otherwise no formula error is raised, and the value is what is read of the formula.
So another such lookup ends the evaluation in the same way. -/
theorem evaluate_abort (hlookup : ∀ ref, ¬Aborts (lookup ref))
    (hserves : ∀ ref v, lookup ref = .ok v → v.isReference = false) (formula : Formula) {v : Value}
    (hv : ((standard lookup).evaluate formula).1 = .ok v) :
    (∀ kind, formula.firstAbort? = some kind → v = .error kind ∧ Aborts ((standard lookup).settled formula)) ∧
    (formula.firstAbort? = none → (standard lookup).settled formula = .ok v) ∧
    ∀ lookup' : Lookup, (∀ ref, ¬Aborts (lookup' ref)) → (∀ ref v, lookup' ref = .ok v → v.isReference = false) →
      ∀ v', ((standard lookup').evaluate formula).1 = .ok v' →
        (Aborts ((standard lookup).settled formula) ↔ Aborts ((standard lookup').settled formula)) ∧
        (Aborts ((standard lookup).settled formula) → v' = v) := by
  rcases abort_or_settled hlookup hserves hv with ⟨kind, hkind, rfl, haborts⟩ | ⟨hnone, hsettled⟩
  · refine ⟨fun kind' hkind' => ?_, fun hnone => ?_, fun lookup' hlookup' hserves' v' hv' => ?_⟩
    · rw [hkind, Option.some.injEq] at hkind'
      exact ⟨congrArg Value.error hkind', haborts⟩
    · rw [hkind] at hnone
      cases hnone
    · rcases abort_or_settled hlookup' hserves' hv' with ⟨kind', hkind', rfl, haborts'⟩ | ⟨hnone, -⟩
      · rw [hkind, Option.some.injEq] at hkind'
        exact ⟨iff_of_true haborts haborts', fun _ => congrArg Value.error hkind'.symm⟩
      · rw [hkind] at hnone
        cases hnone
  · have hnot : ¬Aborts ((standard lookup).settled formula) := by
      rw [hsettled]
      exact not_aborts_ok v
    refine ⟨fun kind hkind => ?_, fun _ => hsettled, fun lookup' hlookup' hserves' v' hv' => ?_⟩
    · rw [hnone] at hkind
      cases hkind
    · rcases abort_or_settled hlookup' hserves' hv' with ⟨kind', hkind', -⟩ | ⟨-, hsettled'⟩
      · rw [hnone] at hkind'
        cases hkind'
      · refine ⟨iff_of_false hnot ?_, fun haborts => absurd haborts hnot⟩
        rw [hsettled']
        exact not_aborts_ok v'

/-- The intersection of `A1` and `B2`, which have no cell in common. -/
def disjointCells : Formula := .intersection [.address "A1" none, .address "B2" none]

theorem abort?_disjointCells : disjointCells.abort? = some .null ∧ disjointCells.area? = none := by
  have hA : Reference.parse "A1" none = .ok (.cell ⟨1, 1, none, some "A1"⟩) := by rfl
  have hB : Reference.parse "B2" none = .ok (.cell ⟨2, 2, none, some "B2"⟩) := by rfl
  have hareas : Formula.areas? [.address "A1" none, .address "B2" none] =
      some ([Reference.cell ⟨1, 1, none, some "A1"⟩, .cell ⟨2, 2, none, some "B2"⟩].map Reference.area) := by
    simp only [Formula.areas?, Formula.area?, hA, hB]
    rfl
  have hdisjoint : ¬(commonCells [.cell ⟨1, 1, none, some "A1"⟩, .cell ⟨2, 2, none, some "B2"⟩]).Nonempty := by
    rintro ⟨p, hp⟩
    have hfirst : p = (1, 1) := hp (.cell ⟨1, 1, none, some "A1"⟩) (by simp)
    have hlast : p = (2, 2) := hp (.cell ⟨2, 2, none, some "B2"⟩) (by simp)
    rw [hfirst] at hlast
    simp at hlast
  have hcommon := common?_area (.cell ⟨1, 1, none, some "A1"⟩) [.cell ⟨2, 2, none, some "B2"⟩]
  rw [if_neg fun h => hdisjoint h.2] at hcommon
  constructor
  · rw [disjointCells, Formula.abort?_intersection rfl hareas, hcommon]
    rfl
  · rw [disjointCells, Formula.area?, hareas, Option.bind_some, hcommon]

/-- An array of a disjoint intersection and an error, in this order. -/
def abortingArray : Formula := .array [[disjointCells, .literal "error" "#n/a"]]

theorem firstAbort?_abortingArray : abortingArray.firstAbort? = some .null := by
  rw [abortingArray, Formula.firstAbort?_array, List.findSome?_cons, List.findSome?_cons, disjointCells,
    Formula.firstAbort?_intersection, ← disjointCells, abort?_disjointCells.1]
  rfl

theorem evaluate_abort_array : (∀ ref, ¬Aborts (places.lookup ref)) ∧
    (∀ ref v, places.lookup ref = .ok v → v.isReference = false) ∧
    ((standard places.lookup).evaluate abortingArray).1 = .ok (.error .null) ∧
    abortingArray.firstAbort? = some .null ∧ Aborts ((standard places.lookup).settled abortingArray) := by
  have hlookup : ∀ ref, ¬Aborts (places.lookup ref) := by
    intro ref
    cases ref <;> exact not_aborts_ok _
  have hserves : ∀ ref v, places.lookup ref = .ok v → v.isReference = false := by
    intro ref v h
    cases ref <;> cases h <;> rfl
  have hv : ((standard places.lookup).evaluate abortingArray).1 = .ok (.error .null) := by
    have hreferential : disjointCells.Referential := by
      refine .intersection (by simp) ?_
      simp only [List.forall_mem_cons, List.not_mem_nil, false_imp_iff, implies_true, and_true]
      exact ⟨.address (by rfl), .address (by rfl)⟩
    have hresult := (standard places.lookup).standsForArea_of_referential hreferential
    unfold StandsForArea at hresult
    rw [abort?_disjointCells.2] at hresult
    obtain ⟨b, c, hbc⟩ := hresult
    rw [evaluate_fst, settled, abortingArray, result_array, List.mapM_cons, List.mapM_cons, settled, hbc]
    rfl
  exact ⟨hlookup, hserves, hv, firstAbort?_abortingArray,
    ((evaluate_abort hlookup hserves abortingArray hv).1 _ firstAbort?_abortingArray).2⟩

end Engine

end GridCalc
