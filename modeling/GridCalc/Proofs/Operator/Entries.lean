import GridCalc.Proofs.Outcome
import GridCalc.Resolution

/-!
# Operators on entries

Every operator between two operands is one operation on entries, broadcast (`InfixFamily.apply_of_knows`). An
operation on entries yields scalars only (`InfixFamily.isScalar_of_entries`), so the families make plain values of
plain operands (`Call.plain_of_apply`). None of them raises a formula error (`Call.not_aborts_apply`): errors of
operators are values.
-/

namespace GridCalc

/-! ## Plain values -/

namespace Value

theorem plain_of_isScalar {v : Value} (h : v.IsScalar) : v.Plain := by
  cases v <;> first | exact trivial | exact h.elim

theorem plainAll_iff {items : List Value} : PlainAll items ↔ ∀ v ∈ items, v.Plain := by
  induction items with
  | nil => simp [PlainAll]
  | cons v rest ih => simp [PlainAll, ih]

end Value

namespace Rows

/-- All entries are plain. -/
def Plain (rows : Rows) : Prop := ∀ row ∈ rows, ∀ v ∈ row, Value.Plain v

theorem plain_toValue {rows : Rows} (h : rows.Plain) : rows.toValue.Plain := by
  unfold toValue Value.Plain
  rw [Value.plainAll_iff]
  intro v hv
  obtain ⟨row, hrow, rfl⟩ := List.mem_map.mp hv
  unfold Value.Plain
  rw [Value.plainAll_iff]
  exact h row hrow

/-- An entry is one of the array, or `#N/A`. -/
theorem entry_mem (rows : Rows) (row col : Nat) :
    (∃ entries ∈ rows, rows.entry row col ∈ entries) ∨ rows.entry row col = .error .notAvailable := by
  unfold entry
  dsimp only
  split
  · rename_i entries hrow
    cases hcol : entries[if (rows.headD []).length = 1 then 0 else col]? with
    | none => exact Or.inr rfl
    | some v => exact Or.inl ⟨entries, List.mem_of_getElem? hrow, List.mem_of_getElem? hcol⟩
  · exact Or.inr rfl

theorem Plain.entry {rows : Rows} (h : rows.Plain) (row col : Nat) : (rows.entry row col).Plain := by
  rcases rows.entry_mem row col with ⟨entries, hmem, hv⟩ | hna
  · exact h entries hmem _ hv
  · rw [hna]
    exact trivial

/-- An operation that has a result on plain entries has one on plain rows. -/
theorem Plain.exists_mapM {op : Value → Except Fault Value} {rows : Rows} (h : rows.Plain)
    (hop : ∀ v, v.Plain → ∃ w, op v = .ok w) : ∃ images : Rows, (rows.mapM fun row => row.mapM op) = .ok images :=
  exists_mapM_of_forall fun row hrow => exists_mapM_of_forall fun v hv => hop v (h row hrow v hv)

end Rows

theorem mem_of_allRows? : ∀ {items : List Value} {rows : Rows}, allRows? items = some rows → ∀ row ∈ rows,
    .list row ∈ items
  | [], rows, h => by cases h; simp
  | v :: rest, rows, h => by
    cases v <;> simp only [allRows?, reduceCtorEq] at h
    obtain ⟨rows', hrest, rfl⟩ := Option.map_eq_some_iff.mp h
    intro row hrow
    rcases List.mem_cons.mp hrow with rfl | hrow
    · exact List.mem_cons_self
    · exact List.mem_cons_of_mem _ (mem_of_allRows? hrest row hrow)

/-- A row of an array is the whole array or an entry of it. -/
theorem mem_rowsOf {items row : List Value} (h : row ∈ rowsOf items) : row = items ∨ .list row ∈ items := by
  unfold rowsOf at h
  split at h
  · rename_i rows hrows
    exact Or.inr (mem_of_allRows? hrows row h)
  · exact Or.inl (List.mem_singleton.mp h)

theorem plain_rowsOf {items : List Value} (h : (Value.list items).Plain) : (rowsOf items).Plain := by
  unfold Value.Plain at h
  rw [Value.plainAll_iff] at h
  intro row hrow
  rcases mem_rowsOf hrow with rfl | hmem
  · exact h
  · have hlist := h _ hmem
    unfold Value.Plain at hlist
    rwa [Value.plainAll_iff] at hlist

theorem Operand.plain_rows {o : Operand} {rows : Rows} (h : o.value.Plain) (hrows : o.rows = .ok rows) :
    rows.Plain := by
  obtain ⟨v, isArray⟩ := o
  cases isArray with
  | false =>
    cases hrows
    intro row hrow w hw
    rw [List.mem_singleton.mp hrow, List.mem_singleton] at hw
    exact hw ▸ h
  | true =>
    cases v with
    | list items =>
      cases hrows
      exact plain_rowsOf h
    | text s =>
      cases hrows
      intro row hrow w hw
      rw [List.mem_singleton.mp hrow] at hw
      obtain ⟨c, -, rfl⟩ := List.mem_map.mp hw
      exact trivial
    | error kind =>
      cases hrows
      intro row hrow w hw
      rw [List.mem_singleton.mp hrow, List.mem_singleton] at hw
      exact hw ▸ trivial
    | empty | bool b | number n => cases hrows
    | collection items | reference ref | bearer ref | classified w b | bare items | bareReference ref => exact h.elim

/-! ## Broadcasting -/

variable {op : Value → Value → Except Fault Value} {left right : Operand}

theorem plain_of_broadcast {v : Value} (hop : ∀ l r v, op l r = .ok v → v.Plain)
    (h : broadcast op left right = .ok v) : v.Plain := by
  unfold broadcast at h
  split at h
  · obtain ⟨l, -, h⟩ := bind_eq_ok_iff.mp h
    obtain ⟨r, -, h⟩ := bind_eq_ok_iff.mp h
    obtain ⟨rows, hrows, h⟩ := bind_eq_ok_iff.mp h
    cases h
    obtain ⟨⟨lh, lw⟩, -, hrows⟩ := bind_eq_ok_iff.mp hrows
    obtain ⟨⟨rh, rw⟩, -, hrows⟩ := bind_eq_ok_iff.mp hrows
    refine Rows.plain_toValue fun row hrow => ?_
    exact forall_mem_of_mapM (P := fun row => ∀ v ∈ row, Value.Plain v) hrows
      (fun i _ row hrow => forall_mem_of_mapM hrow fun j _ v hv => hop _ _ v hv) row hrow
  · exact hop _ _ v h

theorem not_aborts_commonWidth (widths : List Nat) : ¬Aborts (commonWidth widths) := by
  cases widths with
  | nil => exact not_aborts_ok _
  | cons width rest =>
    rw [commonWidth]
    split
    · exact not_aborts_ok _
    · exact not_aborts_raise (by simp)

theorem not_aborts_rows (o : Operand) : ¬Aborts o.rows := by
  unfold Operand.rows
  split
  · split <;> first | exact not_aborts_ok _ | exact not_aborts_raise (by simp)
  · exact not_aborts_ok _

theorem not_aborts_broadcast (hop : ∀ l r, ¬Aborts (op l r)) : ¬Aborts (broadcast op left right) := by
  unfold broadcast
  split
  · refine not_aborts_bind (not_aborts_rows left) fun l _ => not_aborts_bind (not_aborts_rows right) fun r _ =>
      not_aborts_bind ?_ fun _ _ => not_aborts_ok _
    unfold zipRows Rows.shape
    exact not_aborts_bind (not_aborts_bind (not_aborts_commonWidth _) fun _ _ => not_aborts_ok _) fun _ _ =>
      not_aborts_bind (not_aborts_bind (not_aborts_commonWidth _) fun _ _ => not_aborts_ok _) fun _ _ =>
        not_aborts_mapM fun _ _ => not_aborts_mapM fun _ _ => hop _ _
  · exact hop _ _

theorem plain_of_mapEntries {op : Value → Except Fault Value} {o : Operand} {v : Value}
    (hop : ∀ v w, v.Plain → op v = .ok w → w.Plain) (ho : o.value.Plain) (h : mapEntries op o = .ok v) : v.Plain := by
  unfold mapEntries at h
  split at h
  · obtain ⟨rows, hrows, h⟩ := bind_eq_ok_iff.mp h
    obtain ⟨images, himages, h⟩ := bind_eq_ok_iff.mp h
    cases h
    refine Rows.plain_toValue fun row hrow => ?_
    exact forall_mem_of_mapM (P := fun row => ∀ v ∈ row, Value.Plain v) himages
      (fun entries hmem image himage => forall_mem_of_mapM himage fun v hv w hw =>
        hop v w (o.plain_rows ho hrows entries hmem v hv) hw) row hrow
  · exact hop _ v ho h

theorem not_aborts_mapEntries {op : Value → Except Fault Value} {o : Operand} (hop : ∀ v, ¬Aborts (op v)) :
    ¬Aborts (mapEntries op o) := by
  unfold mapEntries
  split
  · exact not_aborts_bind (not_aborts_rows o) fun _ _ => not_aborts_bind
      (not_aborts_mapM fun _ _ => not_aborts_mapM fun _ _ => hop _) fun _ _ => not_aborts_ok _
  · exact hop _

/-! ## Operations on entries -/

theorem not_aborts_unlessError {op : Value → Value → Except Fault Value} {l r : Value} (hop : ¬Aborts (op l r)) :
    ¬Aborts (unlessError op l r) := by
  unfold unlessError
  split
  · exact not_aborts_ok _
  · exact hop

theorem isScalar_of_unlessError {op : Value → Value → Except Fault Value} {l r v : Value}
    (hop : ∀ v, op l r = .ok v → v.IsScalar) (h : unlessError op l r = .ok v) : v.IsScalar := by
  unfold unlessError at h
  split at h
  · cases h
    exact trivial
  · exact hop v h

theorem not_aborts_typeOf (v : Value) : ¬Aborts v.typeOf := by
  unfold Value.typeOf
  split
  · exact not_aborts_ok _
  · exact not_aborts_raise (by simp)

theorem not_aborts_toNumber (v : Value) : ¬Aborts v.toNumber := by
  unfold Value.toNumber
  split <;> try first | exact not_aborts_ok _ | exact not_aborts_raise (by simp)
  dsimp only
  split
  · exact not_aborts_ok _
  · split
    · exact not_aborts_ok _
    · exact not_aborts_raise (by simp)

theorem not_aborts_number? (v : Value) : ¬Aborts (number? v) := by
  have h := not_aborts_toNumber v
  unfold number?
  split
  · exact not_aborts_ok _
  · exact not_aborts_ok _
  · rename_i fault _ heq
    rintro ⟨cause, hcause⟩
    cases hcause
    exact h ⟨cause, heq⟩

theorem not_aborts_integerText (n : Int) : ¬Aborts (Value.integerText n) := by
  unfold Value.integerText
  split
  · exact not_aborts_ok _
  · rintro ⟨cause, hcause⟩
    cases hcause

theorem not_aborts_toText (v : Value) : ¬Aborts v.toText := by
  cases v with
  | number n =>
    cases n with
    | int n => exact not_aborts_integerText n
    | real d =>
      rw [Value.toText]
      split
      · exact not_aborts_integerText _
      · exact not_aborts_ok _
  | empty | bool b | text s => exact not_aborts_ok _
  | _ => exact not_aborts_raise (by simp)

theorem not_aborts_comparisonRank (type : ValueType) : ¬Aborts (comparisonRank type) := by
  unfold comparisonRank
  split <;> first | exact not_aborts_ok _ | exact not_aborts_raise (by simp)

theorem not_aborts_compareScalar (l r : Value) : ¬Aborts (compareScalar l r) := by
  unfold compareScalar
  refine not_aborts_bind (not_aborts_typeOf _) fun _ _ => not_aborts_bind (not_aborts_comparisonRank _) fun _ _ =>
    not_aborts_bind (not_aborts_typeOf _) fun _ _ => not_aborts_bind (not_aborts_comparisonRank _) fun _ _ => ?_
  split
  · exact not_aborts_ok _
  · split <;> exact not_aborts_ok _

namespace InfixFamily

/-- The operation of a family on two entries. -/
def entries (family : InfixFamily) (token : String) (left right : Value) : Except Fault Value :=
  match family with
  | comparison => match Relation.ofToken? token with
    | some relation => compareEntries relation left right
    | none => Fault.raise (.unrecognizedOperator (.unknown (.between .comparison) token))
  | concatenation => concatEntries left right
  | arithmetic => mathScalar left token right

/-- The tokens that a family knows. -/
def Knows : InfixFamily → String → Prop
  | comparison, token => (Relation.ofToken? token).isSome = true
  | concatenation, token => token = "&"
  | arithmetic, token => (MathOperator.ofToken? token).isSome = true

/-- A family is asked for tokens that it knows. -/
theorem knows_of_infixFamily {family : InfixFamily} {token : String} (h : infixFamily token = .ok family) :
    family.Knows token := by
  unfold infixFamily at h
  split at h
  · rename_i hrel
    cases h
    exact hrel
  · split at h
    · rename_i htoken
      cases h
      exact htoken
    · split at h
      · rename_i hmath
        cases h
        exact hmath
      · cases h

/-- A family broadcasts its operation on entries. -/
theorem apply_of_knows {family : InfixFamily} {token : String} (h : family.Knows token) (left right : Operand) :
    family.apply left token right = broadcast (family.entries token) left right := by
  cases family with
  | comparison =>
    obtain ⟨relation, hrel⟩ := Option.isSome_iff_exists.mp h
    have hentries : comparison.entries token = compareEntries relation := by
      funext l r
      simp only [entries, hrel]
    simp only [apply, GridCalc.comparison, hrel, hentries]
  | concatenation => exact if_pos h
  | arithmetic => exact if_pos h

/-- A token that the family does not know is refused. -/
theorem apply_of_not_knows {family : InfixFamily} {token : String} (h : ¬family.Knows token) (left right : Operand) :
    family.apply left token right = Fault.raise (.unrecognizedOperator (.unknown (.between family) token)) := by
  cases family with
  | comparison =>
    have hnone : Relation.ofToken? token = none := by
      cases hrel : Relation.ofToken? token with
      | none => rfl
      | some relation => exact absurd (by simp [Knows, hrel]) h
    simp only [apply, GridCalc.comparison, hnone]
  | concatenation => exact if_neg h
  | arithmetic => exact if_neg h

theorem isScalar_compareEntries {relation : Relation} {l r v : Value} (h : compareEntries relation l r = .ok v) :
    v.IsScalar := by
  unfold compareEntries at h
  refine isScalar_of_unlessError (fun v hv => ?_) h
  obtain ⟨o, -, hv⟩ := bind_eq_ok_iff.mp hv
  cases hv
  exact trivial

theorem isScalar_concatEntries {l r v : Value} (h : concatEntries l r = .ok v) : v.IsScalar := by
  unfold concatEntries at h
  refine isScalar_of_unlessError (fun v hv => ?_) h
  obtain ⟨s, -, hv⟩ := bind_eq_ok_iff.mp hv
  obtain ⟨t, -, hv⟩ := bind_eq_ok_iff.mp hv
  cases hv
  exact trivial

theorem isScalar_mathResult (x : Except ArithmeticFault Number) : (mathResult x).IsScalar := by
  unfold mathResult
  split
  · split <;> exact trivial
  · exact trivial
  · exact trivial

theorem isScalar_mathScalar {token : String} {l r v : Value} (h : mathScalar l token r = .ok v) : v.IsScalar := by
  unfold mathScalar at h
  refine isScalar_of_unlessError (fun v hv => ?_) h
  obtain ⟨x?, -, hv⟩ := bind_eq_ok_iff.mp hv
  obtain ⟨y?, -, hv⟩ := bind_eq_ok_iff.mp hv
  split at hv
  · split at hv
    · cases hv
      exact isScalar_mathResult _
    · cases hv
  · cases hv
    exact trivial

theorem isScalar_of_entries {family : InfixFamily} {token : String} {l r v : Value}
    (h : family.entries token l r = .ok v) : v.IsScalar := by
  cases family with
  | comparison =>
    simp only [entries] at h
    split at h
    · exact isScalar_compareEntries h
    · cases h
  | concatenation => exact isScalar_concatEntries h
  | arithmetic => exact isScalar_mathScalar h

theorem not_aborts_entries (family : InfixFamily) (token : String) (l r : Value) :
    ¬Aborts (family.entries token l r) := by
  cases family with
  | comparison =>
    simp only [entries]
    split
    · unfold compareEntries
      exact not_aborts_unlessError (not_aborts_bind (not_aborts_compareScalar _ _) fun _ _ => not_aborts_ok _)
    · exact not_aborts_raise (by simp)
  | concatenation =>
    simp only [entries]
    unfold concatEntries
    exact not_aborts_unlessError (not_aborts_bind (not_aborts_toText _) fun _ _ =>
      not_aborts_bind (not_aborts_toText _) fun _ _ => not_aborts_ok _)
  | arithmetic =>
    simp only [entries]
    unfold mathScalar
    refine not_aborts_unlessError (not_aborts_bind (not_aborts_number? _) fun _ _ =>
      not_aborts_bind (not_aborts_number? _) fun _ _ => ?_)
    split
    · split
      · exact not_aborts_ok _
      · exact not_aborts_raise (by simp)
    · exact not_aborts_ok _

end InfixFamily

/-! ### One operand -/

theorem isScalar_of_onNumber {op : Number → Except Fault Number} {v w : Value} (h : onNumber op v = .ok w) :
    w.IsScalar := by
  unfold onNumber at h
  split at h
  · cases h
    exact trivial
  · obtain ⟨n?, -, h⟩ := bind_eq_ok_iff.mp h
    split at h
    · obtain ⟨n, -, h⟩ := bind_eq_ok_iff.mp h
      cases h
      exact trivial
    · cases h
      exact trivial

theorem not_aborts_onNumber {op : Number → Except Fault Number} (hop : ∀ n, ¬Aborts (op n)) (v : Value) :
    ¬Aborts (onNumber op v) := by
  unfold onNumber
  split
  · exact not_aborts_ok _
  · refine not_aborts_bind (not_aborts_number? _) fun n? _ => ?_
    split
    · exact not_aborts_bind (hop _) fun _ _ => not_aborts_ok _
    · exact not_aborts_ok _

theorem not_aborts_hundredth (n : Number) : ¬Aborts (hundredth n) := by
  unfold hundredth
  split
  · exact not_aborts_ok _
  · exact not_aborts_raise (by simp)

/-- Signs leave an entry as it is or make a scalar of it. -/
theorem eq_or_isScalar_of_signScalar {tokens : List String} {v w : Value} (h : signScalar tokens v = .ok w) :
    w = v ∨ w.IsScalar := by
  unfold signScalar at h
  dsimp only at h
  split at h
  · cases h
    exact Or.inl rfl
  · exact Or.inr (isScalar_of_onNumber h)

theorem not_aborts_signScalar (tokens : List String) (v : Value) : ¬Aborts (signScalar tokens v) := by
  unfold signScalar
  dsimp only
  split
  · exact not_aborts_ok _
  · exact not_aborts_onNumber (fun _ => not_aborts_ok _) v

/-! ## Calls of the families -/

namespace Call

/-- The operands of a call are plain. -/
def Plain : Call → Prop
  | between _ left _ right => left.value.Plain ∧ right.value.Plain
  | signs _ operand => operand.value.Plain
  | percent operand _ => operand.value.Plain

/-- The families make plain values of plain operands. -/
theorem plain_of_apply {c : Call} {v : Value} (hc : c.Plain) (h : c.apply = .ok v) : v.Plain := by
  cases c with
  | between family left token right =>
    by_cases hknows : family.Knows token
    · rw [apply, InfixFamily.apply_of_knows hknows] at h
      exact plain_of_broadcast (fun _ _ _ hv => Value.plain_of_isScalar (InfixFamily.isScalar_of_entries hv)) h
    · rw [apply, InfixFamily.apply_of_not_knows hknows] at h
      cases h
  | signs tokens operand =>
    unfold apply GridCalc.signs at h
    dsimp only at h
    split at h
    · refine plain_of_mapEntries (fun v w hv hw => ?_) hc h
      rcases eq_or_isScalar_of_signScalar hw with rfl | hscalar
      · exact hv
      · exact Value.plain_of_isScalar hscalar
    · cases h
  | percent operand token =>
    unfold apply GridCalc.percent at h
    dsimp only at h
    split at h
    · exact plain_of_mapEntries (fun v w _ hw => Value.plain_of_isScalar (isScalar_of_onNumber hw)) hc h
    · cases h

/-- The families raise no formula errors: errors of operators are values. -/
theorem not_aborts_apply (c : Call) : ¬Aborts c.apply := by
  cases c with
  | between family left token right =>
    rw [apply]
    by_cases hknows : family.Knows token
    · rw [InfixFamily.apply_of_knows hknows]
      exact not_aborts_broadcast (InfixFamily.not_aborts_entries family token)
    · rw [InfixFamily.apply_of_not_knows hknows]
      exact not_aborts_raise (by simp)
  | signs tokens operand =>
    rw [apply, GridCalc.signs]
    split
    · exact not_aborts_mapEntries (not_aborts_signScalar tokens)
    · exact not_aborts_raise (by simp)
  | percent operand token =>
    rw [apply, GridCalc.percent]
    split
    · exact not_aborts_mapEntries (not_aborts_onNumber not_aborts_hundredth)
    · exact not_aborts_raise (by simp)

end Call

end GridCalc
