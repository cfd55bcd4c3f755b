import GridCalc.Formula.Evaluation
import GridCalc.Proofs.Run

/-!
# What nodes of formulas stand for

All computations of an engine only append to the record (`Engine.appends_operand`). So what a node of a formula stands
for is given by one equation for each kind of node, without any record.

* `Engine.result`: what a node stands for, a value or a reference; `Engine.settled`: what is read of it.
* `Engine.resolved`: what is read of an operand; `Engine.applied`: what the families make of a call.
* `Engine.evaluate_fst`: the value of a formula is what is read of it, formula errors being values.
-/

namespace GridCalc

namespace Engine

open Run

variable (engine : Engine)

/-- What is read of an operand. -/
def resolved (v : Value) : Except Fault Value :=
  match v with
  | .list items | .collection items => .ok (.list items)
  | .reference ref | .bearer ref => engine.lookup ref
  | v => .ok v

/-- What the families make of a call. -/
def applied (c : Call) : Except Fault Value :=
  match engine.families c with
  | some outcome => outcome
  | none => Fault.raise (.missing (.family c.family))

theorem start_read (operand : Value) (ref : Reference) (record : Record) :
    start (engine.read operand ref) record = (engine.lookup ref, record ++ ⟨[operand], []⟩) := by
  rw [read, start_bind, Record.append_def, List.append_nil]
  exact start_lift _ _

@[simp] theorem appends_read (operand : Value) (ref : Reference) : Appends (engine.read operand ref) := fun record => by
  simp [outcome, log, start_read]

@[simp] theorem outcome_read (operand : Value) (ref : Reference) :
    outcome (engine.read operand ref) = engine.lookup ref := by
  simp [outcome, start_read]

@[simp] theorem log_read (operand : Value) (ref : Reference) : log (engine.read operand ref) = ⟨[operand], []⟩ := by
  simp [log, start_read]

@[simp] theorem appends_classify (v : Value) : Appends (engine.classify v) := by
  cases v with
  | reference ref => exact (engine.appends_read _ ref).bind fun _ => appends_pure _
  | bearer ref => exact (engine.appends_read _ ref).bind fun _ => appends_pure _
  | _ => exact appends_pure _

/-- Whether an operand is used as an array can be seen from what is read of it. -/
theorem outcome_classify (v : Value) : outcome (engine.classify v) = Operand.ofValue <$> engine.resolved v := by
  cases v with
  | reference ref | bearer ref =>
    rw [classify, outcome_bind (engine.appends_read _ ref) fun _ => appends_pure _, outcome_read]
    rfl
  | _ => rfl

theorem outcome_classify_bind {α : Type} {f : Operand → Run α} (hf : ∀ o, Appends (f o)) (v : Value) :
    outcome (engine.classify v >>= f) = engine.resolved v >>= fun x => outcome (f (.ofValue x)) := by
  rw [outcome_bind (engine.appends_classify v) hf, outcome_classify]
  cases engine.resolved v <;> rfl

@[simp] theorem appends_resolve (v : Value) : Appends (engine.resolve v) :=
  (engine.appends_classify v).bind fun _ => appends_pure _

@[simp] theorem outcome_resolve (v : Value) : outcome (engine.resolve v) = engine.resolved v := by
  rw [resolve, engine.outcome_classify_bind fun _ => appends_pure _]
  cases engine.resolved v <;> rfl

theorem log_resolve_reference (ref : Reference) : log (engine.resolve (.reference ref)) = ⟨[.reference ref], []⟩ := by
  rw [resolve, classify, bind_assoc,
    log_bind (engine.appends_read _ ref) fun _ => (appends_pure _).bind fun _ => appends_pure _, log_read, outcome_read]
  cases engine.lookup ref with
  | ok v => exact Record.append_empty _
  | error fault => rfl

@[simp] theorem appends_union (operands : List Value) : Appends (engine.union operands) :=
  (Appends.mapM engine.appends_resolve operands).bind fun _ => appends_pure _

theorem outcome_union (operands : List Value) :
    outcome (engine.union operands) = Value.collection <$> operands.mapM engine.resolved := by
  rw [union, outcome_bind (Appends.mapM engine.appends_resolve operands) fun _ => appends_pure _,
    outcome_mapM engine.appends_resolve]
  simp only [outcome_resolve, outcome_pure]
  rfl

theorem start_call (c : Call) (record : Record) :
    start (engine.call c) record =
      (engine.applied c, record ++ if (engine.families c).isSome then ⟨[], [c]⟩ else .empty) := by
  unfold call applied
  cases engine.families c with
  | none => simp [Fault.raise]
  | some x =>
    rw [start_bind, Record.append_def]
    simp only [Option.isSome_some, if_true, List.append_nil]
    exact start_lift _ _

@[simp] theorem appends_call (c : Call) : Appends (engine.call c) := fun record => by
  simp [outcome, log, start_call]

@[simp] theorem outcome_call (c : Call) : outcome (engine.call c) = engine.applied c := by
  simp [outcome, start_call]

/-! ## Operators -/

@[simp] theorem appends_applySigns (tokens : List String) (v : Value) : Appends (engine.applySigns tokens v) := by
  unfold applySigns
  split
  · exact appends_throw _
  · exact (engine.appends_classify v).bind fun _ => engine.appends_call _

theorem outcome_applySigns (tokens : List String) (v : Value) :
    outcome (engine.applySigns tokens v) = match tokens.find? (!isSign ·) with
      | some token => .error (.unrecognizedOperator (.noFamily .before token))
      | none => engine.resolved v >>= fun x => engine.applied (.signs tokens (.ofValue x)) := by
  unfold applySigns
  cases tokens.find? (!isSign ·) with
  | some token => rfl
  | none => exact (engine.outcome_classify_bind (fun _ => engine.appends_call _) v).trans (by simp)

theorem applyPercent_eq (v : Value) (token : String) :
    engine.applyPercent v token =
      if token = "%" then engine.classify v >>= fun o => engine.call (.percent o token)
      else throw (.unrecognizedOperator (.noFamily .after token)) := by
  unfold applyPercent
  by_cases h : token = "%" <;> simp [h]

@[simp] theorem appends_applyPercent (v : Value) (token : String) : Appends (engine.applyPercent v token) := by
  rw [applyPercent_eq]
  split
  · exact (engine.appends_classify v).bind fun _ => engine.appends_call _
  · exact appends_throw _

theorem outcome_applyPercent (v : Value) (token : String) :
    outcome (engine.applyPercent v token) =
      if token = "%" then engine.resolved v >>= fun x => engine.applied (.percent (.ofValue x) token)
      else .error (.unrecognizedOperator (.noFamily .after token)) := by
  rw [applyPercent_eq]
  split
  · exact (engine.outcome_classify_bind (fun _ => engine.appends_call _) v).trans (by simp)
  · rfl

@[simp] theorem appends_applyInfix (left : Value) (token : String) (right : Value) :
    Appends (engine.applyInfix left token right) :=
  (engine.appends_classify left).bind fun _ => (engine.appends_classify right).bind fun _ =>
    (appends_lift _).bind fun _ => engine.appends_call _

theorem outcome_applyInfix (left : Value) (token : String) (right : Value) :
    outcome (engine.applyInfix left token right) =
      (engine.resolved left >>= fun x => engine.resolved right >>= fun y => infixFamily token >>= fun family =>
        engine.applied (.between family (.ofValue x) token (.ofValue y))) := by
  have hfamily : ∀ o o', Appends (liftM (infixFamily token) >>= fun family =>
      engine.call (.between family o token o')) := fun _ _ => (appends_lift _).bind fun _ => engine.appends_call _
  rw [applyInfix, engine.outcome_classify_bind fun _ => (engine.appends_classify right).bind (hfamily _)]
  congr 1
  ext1 x
  rw [engine.outcome_classify_bind (hfamily _)]
  congr 1
  ext1 y
  rw [outcome_bind (appends_lift _) fun _ => engine.appends_call _]
  simp

/-! ## Nodes -/

mutual

theorem appends_operand : ∀ formula : Formula, Appends (engine.operand formula)
  | .literal .. => appends_lift _
  | .address .. => (appends_lift _).bind fun _ => appends_pure _
  | .array rows => (appends_arrayRows rows).bind fun _ => appends_pure _
  | .intersection operands =>
    (appends_operandList operands).bind fun _ => (appends_lift _).bind fun _ => appends_pure _
  | .union operands => (appends_operandList operands).bind fun _ => engine.appends_union _
  | .span operands => (appends_operandList operands).bind fun _ => (appends_lift _).bind fun _ => appends_pure _
  | .signs _ formula => (appends_operand formula).bind fun _ => engine.appends_applySigns _ _
  | .percent formula _ => (appends_operand formula).bind fun _ => engine.appends_applyPercent _ _
  | .binary left _ right =>
    (appends_operand left).bind fun _ => (appends_operand right).bind fun _ => engine.appends_applyInfix _ _ _
  | .value _ => appends_lift _

theorem appends_operandList : ∀ formulas : List Formula, Appends (engine.operandList formulas)
  | [] => appends_pure _
  | formula :: rest =>
    (appends_operand formula).bind fun _ => (appends_operandList rest).bind fun _ => appends_pure _

theorem appends_arrayRow : ∀ formulas : List Formula, Appends (engine.arrayRow formulas)
  | [] => appends_pure _
  | formula :: rest =>
    (appends_operand formula).bind fun _ => (engine.appends_resolve _).bind fun _ =>
      (appends_arrayRow rest).bind fun _ => appends_pure _

theorem appends_arrayRows : ∀ rows : List (List Formula), Appends (engine.arrayRows rows)
  | [] => appends_pure _
  | row :: rest => (appends_arrayRow row).bind fun _ => (appends_arrayRows rest).bind fun _ => appends_pure _

end

/-- What a node stands for. -/
def result (formula : Formula) : Except Fault Value := outcome (engine.operand formula)

/-- What is read of a node. -/
def settled (formula : Formula) : Except Fault Value := engine.result formula >>= engine.resolved

theorem outcome_operandList : ∀ formulas : List Formula,
    outcome (engine.operandList formulas) = formulas.mapM engine.result
  | [] => rfl
  | formula :: rest => by
    have hrest : ∀ v, Appends (engine.operandList rest >>= fun vs => pure (v :: vs)) :=
      fun _ => (engine.appends_operandList rest).bind fun _ => appends_pure _
    rw [List.mapM_cons]
    refine (outcome_bind (engine.appends_operand formula) hrest).trans ?_
    congr 1
    ext1 v
    rw [outcome_bind (engine.appends_operandList rest) fun _ => appends_pure _, outcome_operandList rest]
    rfl

theorem outcome_arrayRow : ∀ formulas : List Formula,
    outcome (engine.arrayRow formulas) = formulas.mapM engine.settled
  | [] => rfl
  | formula :: rest => by
    have hrest : ∀ v, Appends (engine.arrayRow rest >>= fun vs => pure (v :: vs)) :=
      fun _ => (engine.appends_arrayRow rest).bind fun _ => appends_pure _
    rw [List.mapM_cons, settled, bind_assoc]
    refine (outcome_bind (engine.appends_operand formula) fun v => (engine.appends_resolve v).bind hrest).trans ?_
    congr 1
    ext1 v
    rw [outcome_bind (engine.appends_resolve v) hrest, outcome_resolve]
    congr 1
    ext1 x
    rw [outcome_bind (engine.appends_arrayRow rest) fun _ => appends_pure _, outcome_arrayRow rest]
    rfl

theorem outcome_arrayRows : ∀ rows : List (List Formula),
    outcome (engine.arrayRows rows) = rows.mapM fun row => Value.list <$> row.mapM engine.settled
  | [] => rfl
  | row :: rest => by
    have hrest : ∀ items, Appends (engine.arrayRows rest >>= fun vs => pure (.list items :: vs)) :=
      fun _ => (engine.appends_arrayRows rest).bind fun _ => appends_pure _
    rw [List.mapM_cons, map_eq_pure_bind, bind_assoc, ← outcome_arrayRow]
    refine (outcome_bind (engine.appends_arrayRow row) hrest).trans ?_
    congr 1
    ext1 items
    rw [outcome_bind (engine.appends_arrayRows rest) fun _ => appends_pure _, outcome_arrayRows rest]
    rfl

theorem result_literal (kind text : String) : engine.result (.literal kind text) = Literal.value kind text :=
  outcome_lift _

theorem result_address (text : String) (sheet : Option String) :
    engine.result (.address text sheet) = Value.reference <$> Reference.parse text sheet := by
  refine (outcome_bind (appends_lift _) fun _ => appends_pure _).trans ?_
  rw [outcome_lift]
  cases Reference.parse text sheet <;> rfl

theorem settled_address {text : String} {sheet : Option String} {ref : Reference}
    (hparse : Reference.parse text sheet = .ok ref) : engine.settled (.address text sheet) = engine.lookup ref := by
  rw [settled, result_address, hparse]
  rfl

theorem result_array (rows : List (List Formula)) : engine.result (.array rows) =
    Value.list <$> rows.mapM fun row => Value.list <$> row.mapM engine.settled := by
  refine (outcome_bind (engine.appends_arrayRows rows) fun _ => appends_pure _).trans ?_
  rw [outcome_arrayRows]
  rfl

theorem result_intersection (operands : List Formula) : engine.result (.intersection operands) =
    operands.mapM engine.result >>= fun vs => Value.reference <$> intersection vs := by
  refine (outcome_bind (engine.appends_operandList operands) fun _ =>
    (appends_lift _).bind fun _ => appends_pure _).trans ?_
  rw [outcome_operandList]
  congr 1
  ext1 vs
  rw [outcome_bind (appends_lift _) fun _ => appends_pure _, outcome_lift]
  rfl

theorem result_span (operands : List Formula) : engine.result (.span operands) =
    operands.mapM engine.result >>= fun vs => Value.reference <$> span vs := by
  refine (outcome_bind (engine.appends_operandList operands) fun _ =>
    (appends_lift _).bind fun _ => appends_pure _).trans ?_
  rw [outcome_operandList]
  congr 1
  ext1 vs
  rw [outcome_bind (appends_lift _) fun _ => appends_pure _, outcome_lift]
  rfl

theorem result_union (operands : List Formula) : engine.result (.union operands) =
    operands.mapM engine.result >>= fun vs => Value.collection <$> vs.mapM engine.resolved := by
  refine (outcome_bind (engine.appends_operandList operands) fun _ => engine.appends_union _).trans ?_
  rw [outcome_operandList]
  simp only [outcome_union]

theorem result_signs (tokens : List String) (formula : Formula) : engine.result (.signs tokens formula) =
    engine.result formula >>= fun v => outcome (engine.applySigns tokens v) :=
  outcome_bind (engine.appends_operand formula) fun _ => engine.appends_applySigns _ _

theorem result_percent (formula : Formula) (token : String) : engine.result (.percent formula token) =
    engine.result formula >>= fun v => outcome (engine.applyPercent v token) :=
  outcome_bind (engine.appends_operand formula) fun _ => engine.appends_applyPercent _ _

theorem result_binary (left : Formula) (token : String) (right : Formula) :
    engine.result (.binary left token right) =
      engine.result left >>= fun v => engine.result right >>= fun w => outcome (engine.applyInfix v token w) := by
  refine (outcome_bind (engine.appends_operand left) fun _ =>
    (engine.appends_operand right).bind fun _ => engine.appends_applyInfix _ _ _).trans ?_
  congr 1
  ext1 v
  exact outcome_bind (engine.appends_operand right) fun _ => engine.appends_applyInfix _ _ _

theorem result_value (v : Value) : engine.result (.value v) = node v := outcome_lift _

/-! ### What is read of operators -/

theorem resolved_of_plain {v : Value} (hv : v.Plain) : engine.resolved v = .ok v := by
  cases v <;> first | rfl | exact hv.elim

theorem settled_signs_eq_ok_iff {tokens : List String} {formula : Formula} {x : Value} :
    engine.settled (.signs tokens formula) = .ok x ↔ tokens.find? (!isSign ·) = none ∧
      ∃ v, engine.settled formula = .ok v ∧
        (engine.applied (.signs tokens (.ofValue v)) >>= engine.resolved) = .ok x := by
  simp only [settled, result_signs, outcome_applySigns]
  cases tokens.find? (!isSign ·) with
  | some token => simp [bind_eq_ok_iff]
  | none =>
    rw [← bind_eq_ok_iff]
    simp only [bind_assoc, true_and]

theorem settled_percent_eq_ok_iff {formula : Formula} {token : String} {x : Value} :
    engine.settled (.percent formula token) = .ok x ↔ token = "%" ∧
      ∃ v, engine.settled formula = .ok v ∧
        (engine.applied (.percent (.ofValue v) token) >>= engine.resolved) = .ok x := by
  simp only [settled, result_percent, outcome_applyPercent]
  by_cases htoken : token = "%"
  · rw [← bind_eq_ok_iff]
    simp only [htoken, if_true, bind_assoc, true_and]
  · simp [htoken, bind_eq_ok_iff]

/-- Both operands stand for something before either is read; where nothing fails the order does not matter. -/
theorem settled_binary_eq_ok_iff {left : Formula} {token : String} {right : Formula} {x : Value} :
    engine.settled (.binary left token right) = .ok x ↔ ∃ v w family, engine.settled left = .ok v ∧
      engine.settled right = .ok w ∧ infixFamily token = .ok family ∧
      (engine.applied (.between family (.ofValue v) token (.ofValue w)) >>= engine.resolved) = .ok x := by
  simp only [settled, result_binary, outcome_applyInfix, bind_assoc, bind_eq_ok_iff]
  constructor
  · rintro ⟨a, ha, b, hb, v, hv, w, hw, family, hfamily, happlied⟩
    exact ⟨v, w, family, ⟨a, ha, hv⟩, ⟨b, hb, hw⟩, hfamily, happlied⟩
  · rintro ⟨v, w, family, ⟨a, ha, hv⟩, ⟨b, hb, hw⟩, hfamily, happlied⟩
    exact ⟨a, ha, b, hb, v, hv, w, hw, family, hfamily, happlied⟩

/-! ## Formulas -/

theorem evaluate_fst (formula : Formula) :
    (engine.evaluate formula).1 = catchFormulaError (engine.settled formula) := by
  have h := outcome_bind (engine.appends_operand formula) engine.appends_resolve
  simp only [outcome_resolve] at h
  exact congrArg catchFormulaError h

theorem evaluate_snd (formula : Formula) : (engine.evaluate formula).2 =
    match engine.result formula with
    | .ok v => log (engine.operand formula) ++ log (engine.resolve v)
    | .error _ => log (engine.operand formula) := by
  show log (engine.operand formula >>= engine.resolve) = _
  rw [log_bind (engine.appends_operand formula) engine.appends_resolve, result]
  cases outcome (engine.operand formula) <;> rfl

variable {engine}

/-- Unless the formula raises a formula error, a value of it was read of it. -/
theorem settled_of_evaluate {formula : Formula} {v : Value} (h : ¬Aborts (engine.settled formula))
    (hv : (engine.evaluate formula).1 = .ok v) : engine.settled formula = .ok v := by
  rw [evaluate_fst] at hv
  cases hs : engine.settled formula with
  | ok x =>
    rw [hs] at hv
    exact hv
  | error fault =>
    rw [hs] at hv
    cases fault with
    | formula cause => exact absurd ⟨cause, hs⟩ h
    | _ => cases hv

theorem evaluate_of_settled {formula : Formula} {v : Value} (h : engine.settled formula = .ok v) :
    (engine.evaluate formula).1 = .ok v := by
  rw [evaluate_fst, h]
  rfl

end Engine

end GridCalc
