import GridCalc.Proofs.Formula.Result
import GridCalc.Proofs.Operator.Entrywise

/-!
# Formulas over the standard families

Over a lookup that serves plain values, a node of a formula stands for a plain value, for a collection of plain values
or for a reference (`Engine.isNodal_of_result`), so that what is read of it is plain (`Engine.plain_of_settled`). Over
a lookup that raises no formula errors, the operators raise none either (`Engine.not_aborts_applyInfix`). Between
scalars an operator is the operation of its family on two entries (`Engine.settled_binary_of_isScalar`).
-/

namespace GridCalc

/-- A property of all formulas, shown for a formula from the formulas that are its parts. -/
@[induction_eliminator]
theorem Formula.induction {motive : Formula → Prop}
    (literal : ∀ kind text, motive (.literal kind text))
    (address : ∀ text sheet, motive (.address text sheet))
    (array : ∀ rows, (∀ row ∈ rows, ∀ f ∈ row, motive f) → motive (.array rows))
    (intersection : ∀ operands, (∀ f ∈ operands, motive f) → motive (.intersection operands))
    (union : ∀ operands, (∀ f ∈ operands, motive f) → motive (.union operands))
    (span : ∀ operands, (∀ f ∈ operands, motive f) → motive (.span operands))
    (signs : ∀ tokens operand, motive operand → motive (.signs tokens operand))
    (percent : ∀ operand token, motive operand → motive (.percent operand token))
    (binary : ∀ left token right, motive left → motive right → motive (.binary left token right))
    (value : ∀ v, motive (.value v)) : ∀ formula, motive formula :=
  @Formula.rec motive (fun rows => ∀ row ∈ rows, ∀ f ∈ row, motive f) (fun formulas => ∀ f ∈ formulas, motive f)
    literal address array intersection union span signs percent binary value
    (List.forall_mem_nil _) (fun _ _ hfirst hrest => List.forall_mem_cons.mpr ⟨hfirst, hrest⟩)
    (List.forall_mem_nil _) (fun _ _ hfirst hrest => List.forall_mem_cons.mpr ⟨hfirst, hrest⟩)

/-- A plain value, a collection of plain values or a reference. -/
def Value.IsNodal : Value → Prop
  | .reference _ => True
  | .collection items => PlainAll items
  | v => v.Plain

theorem Value.Plain.isNodal {v : Value} (hv : v.Plain) : v.IsNodal := by
  cases v <;> first | exact hv | exact hv.elim

namespace Engine

open Run

/-- The standard families over a lookup. -/
def standard (lookup : Lookup) : Engine := ⟨lookup, .standard⟩

variable {lookup : Lookup}

/-! ## Plain values -/

theorem isScalar_of_literal {kind text : String} {v : Value} (h : Literal.value kind text = .ok v) : v.IsScalar := by
  unfold Literal.value at h
  split at h
  · unfold Literal.number at h
    split at h <;> cases h
    exact trivial
  · cases h
    exact trivial
  · cases h
    exact trivial
  · cases h
  · cases h

section

variable (hplain : ∀ ref v, lookup ref = .ok v → v.Plain)
include hplain

theorem plain_of_resolved {v x : Value} (hv : v.IsNodal) (h : (standard lookup).resolved v = .ok x) : x.Plain := by
  cases v with
  | reference ref => exact hplain ref x h
  | collection items => cases h; exact hv
  | list items | empty | bool b | number n | text s | error kind => cases h; exact hv
  | bearer ref | classified v isArray | bare items | bareReference ref => exact hv.elim

theorem plain_of_applySigns {tokens : List String} {v x : Value} (hv : v.IsNodal)
    (h : outcome ((standard lookup).applySigns tokens v) = .ok x) : x.Plain := by
  rw [outcome_applySigns] at h
  split at h
  · cases h
  · obtain ⟨w, hw, h⟩ := bind_eq_ok_iff.mp h
    have hcall : (Call.signs tokens (.ofValue w)).Plain := plain_of_resolved hplain hv hw
    exact Call.plain_of_apply hcall h

theorem plain_of_applyPercent {token : String} {v x : Value} (hv : v.IsNodal)
    (h : outcome ((standard lookup).applyPercent v token) = .ok x) : x.Plain := by
  rw [outcome_applyPercent] at h
  split at h
  · obtain ⟨w, hw, h⟩ := bind_eq_ok_iff.mp h
    have hcall : (Call.percent (.ofValue w) token).Plain := plain_of_resolved hplain hv hw
    exact Call.plain_of_apply hcall h
  · cases h

theorem plain_of_applyInfix {token : String} {v w x : Value} (hv : v.IsNodal) (hw : w.IsNodal)
    (h : outcome ((standard lookup).applyInfix v token w) = .ok x) : x.Plain := by
  rw [outcome_applyInfix] at h
  obtain ⟨v', hv', h⟩ := bind_eq_ok_iff.mp h
  obtain ⟨w', hw', h⟩ := bind_eq_ok_iff.mp h
  obtain ⟨family, -, h⟩ := bind_eq_ok_iff.mp h
  have hcall : (Call.between family (.ofValue v') token (.ofValue w')).Plain :=
    ⟨plain_of_resolved hplain hv hv', plain_of_resolved hplain hw hw'⟩
  exact Call.plain_of_apply hcall h

theorem isNodal_of_result {formula : Formula} : ∀ {v : Value}, (standard lookup).result formula = .ok v →
    v.IsNodal := by
  induction formula with
  | literal kind text =>
    intro v h
    rw [result_literal] at h
    exact (Value.plain_of_isScalar (isScalar_of_literal h)).isNodal
  | address text sheet =>
    intro v h
    rw [result_address] at h
    obtain ⟨ref, -, rfl⟩ := map_eq_ok_iff.mp h
    exact trivial
  | array rows ih =>
    intro v h
    rw [result_array] at h
    obtain ⟨items, hitems, rfl⟩ := map_eq_ok_iff.mp h
    refine Value.plainAll_iff.mpr (forall_mem_of_mapM (P := Value.Plain) hitems fun row hrow item hitem => ?_)
    obtain ⟨entries, hentries, rfl⟩ := map_eq_ok_iff.mp hitem
    refine Value.plainAll_iff.mpr (forall_mem_of_mapM (P := Value.Plain) hentries fun f hf entry hentry => ?_)
    obtain ⟨w, hw, hread⟩ := bind_eq_ok_iff.mp hentry
    exact plain_of_resolved hplain (ih row hrow f hf hw) hread
  | intersection operands =>
    intro v h
    rw [result_intersection] at h
    obtain ⟨vs, -, h⟩ := bind_eq_ok_iff.mp h
    obtain ⟨ref, -, rfl⟩ := map_eq_ok_iff.mp h
    exact trivial
  | union operands ih =>
    intro v h
    rw [result_union] at h
    obtain ⟨vs, hvs, h⟩ := bind_eq_ok_iff.mp h
    obtain ⟨items, hitems, rfl⟩ := map_eq_ok_iff.mp h
    have hnodal : ∀ w ∈ vs, w.IsNodal := forall_mem_of_mapM hvs fun f hf w hw => ih f hf hw
    exact Value.plainAll_iff.mpr (forall_mem_of_mapM (P := Value.Plain) hitems fun w hw item hitem =>
      plain_of_resolved hplain (hnodal w hw) hitem)
  | span operands =>
    intro v h
    rw [result_span] at h
    obtain ⟨vs, -, h⟩ := bind_eq_ok_iff.mp h
    obtain ⟨ref, -, rfl⟩ := map_eq_ok_iff.mp h
    exact trivial
  | signs tokens operand ih =>
    intro v h
    rw [result_signs] at h
    obtain ⟨w, hw, h⟩ := bind_eq_ok_iff.mp h
    exact (plain_of_applySigns hplain (ih hw) h).isNodal
  | percent operand token ih =>
    intro v h
    rw [result_percent] at h
    obtain ⟨w, hw, h⟩ := bind_eq_ok_iff.mp h
    exact (plain_of_applyPercent hplain (ih hw) h).isNodal
  | binary left token right ihl ihr =>
    intro v h
    rw [result_binary] at h
    obtain ⟨l, hl, h⟩ := bind_eq_ok_iff.mp h
    obtain ⟨r, hr, h⟩ := bind_eq_ok_iff.mp h
    exact (plain_of_applyInfix hplain (ihl hl) (ihr hr) h).isNodal
  | value w =>
    intro v h
    rw [result_value] at h
    unfold node at h
    split at h <;> cases h
    exact trivial

theorem plain_of_settled {formula : Formula} {v : Value} (h : (standard lookup).settled formula = .ok v) :
    v.Plain := by
  obtain ⟨w, hw, h⟩ := bind_eq_ok_iff.mp h
  exact plain_of_resolved hplain (isNodal_of_result hplain hw) h

end

/-! ## Operators between scalars -/

/-- An operator between scalars is the operation of its family on them. -/
theorem settled_binary_of_isScalar {left right : Formula} {token : String} {family : InfixFamily} {l r : Value}
    (hfamily : infixFamily token = .ok family) (hl : (standard lookup).settled left = .ok l)
    (hr : (standard lookup).settled right = .ok r) (hls : l.IsScalar) (hrs : r.IsScalar) :
    (standard lookup).settled (.binary left token right) = family.entries token l r := by
  obtain ⟨v, hv, hl⟩ := bind_eq_ok_iff.mp hl
  obtain ⟨w, hw, hr⟩ := bind_eq_ok_iff.mp hr
  have happlied : (standard lookup).applied (.between family (.ofValue l) token (.ofValue r)) =
      family.entries token l r :=
    (InfixFamily.apply_of_knows (InfixFamily.knows_of_infixFamily hfamily) _ _).trans (broadcast_of_isScalar hls hrs)
  rw [settled, result_binary, hv, ok_bind, hw, ok_bind, outcome_applyInfix, hl, ok_bind, hr, ok_bind, hfamily, ok_bind,
    happlied]
  cases h : family.entries token l r with
  | error fault => rfl
  | ok x => exact resolved_of_plain _ (Value.plain_of_isScalar (InfixFamily.isScalar_of_entries h))

/-! ## Formula errors -/

theorem not_aborts_applied (c : Call) : ¬Aborts ((standard lookup).applied c) := c.not_aborts_apply

theorem not_aborts_infixFamily (token : String) : ¬Aborts (infixFamily token) := by
  unfold infixFamily
  split_ifs <;> first | exact not_aborts_ok _ | exact not_aborts_raise (by simp)

section

variable (hlookup : ∀ ref, ¬Aborts (lookup ref))
include hlookup

theorem not_aborts_resolved (v : Value) : ¬Aborts ((standard lookup).resolved v) := by
  cases v with
  | reference ref | bearer ref => exact hlookup ref
  | _ => exact not_aborts_ok _

theorem not_aborts_applySigns (tokens : List String) (v : Value) :
    ¬Aborts (outcome ((standard lookup).applySigns tokens v)) := by
  rw [outcome_applySigns]
  split
  · rintro ⟨cause, h⟩
    cases h
  · exact not_aborts_bind (not_aborts_resolved hlookup v) fun _ _ => not_aborts_applied _

theorem not_aborts_applyPercent (v : Value) (token : String) :
    ¬Aborts (outcome ((standard lookup).applyPercent v token)) := by
  rw [outcome_applyPercent]
  split
  · exact not_aborts_bind (not_aborts_resolved hlookup v) fun _ _ => not_aborts_applied _
  · rintro ⟨cause, h⟩
    cases h

theorem not_aborts_applyInfix (left : Value) (token : String) (right : Value) :
    ¬Aborts (outcome ((standard lookup).applyInfix left token right)) := by
  rw [outcome_applyInfix]
  exact not_aborts_bind (not_aborts_resolved hlookup left) fun _ _ =>
    not_aborts_bind (not_aborts_resolved hlookup right) fun _ _ =>
      not_aborts_bind (not_aborts_infixFamily token) fun _ _ => not_aborts_applied _

end

end Engine

end GridCalc
