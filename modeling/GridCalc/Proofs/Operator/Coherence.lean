import Mathlib.Tactic.Choose
import GridCalc.Proofs.Operator.Layout
import GridCalc.Proofs.Operator.Order

/-!
# Coherence of the comparison operators

The six operators look at the same order of two entries (`compareEntries_cases`), and from the other side at the
reversed one (`compareEntries_mirrored`). So on operands that are scalars or regular arrays their results have one
layout and are the truth values of one order at each place (`Coherent`), whichever side an operand is on.

Main statement: `comparison_coherent`.
-/

namespace GridCalc

namespace Relation

/-- How the operator is written. -/
def token : Relation → String
  | equal => "="
  | unequal => "<>"
  | less => "<"
  | lessOrEqual => "<="
  | greater => ">"
  | greaterOrEqual => ">="

theorem ofToken?_token (relation : Relation) : ofToken? relation.token = some relation := by cases relation <;> rfl

/-- The relation between exchanged sides. -/
def mirrored : Relation → Relation
  | equal => equal
  | unequal => unequal
  | less => greater
  | lessOrEqual => greaterOrEqual
  | greater => less
  | greaterOrEqual => lessOrEqual

theorem holds_swap (relation : Relation) (o : Ordering) : relation.mirrored.holds o.swap = relation.holds o := by
  cases relation <;> cases o <;> rfl

end Relation

/-- What the six operators make of two operands: one formula error, or truth values of which exactly one of `<`, `=`
and `>` is true and `<>`, `<=` and `>=` are the negations of `=`, `>` and `<`. -/
inductive Coherent (result : Relation → Value) : Prop
  | error (kind : ErrorKind) : (∀ relation, result relation = .error kind) → Coherent result
  | truth (holds : Relation → Bool) : (∀ relation, result relation = .bool (holds relation)) →
      (∃! relation, relation ∈ [.less, .equal, .greater] ∧ holds relation = true) →
      holds .unequal = !holds .equal → holds .lessOrEqual = !holds .greater →
      holds .greaterOrEqual = !holds .less → Coherent result

theorem Coherent.of_order {result : Relation → Value} (o : Ordering)
    (h : ∀ relation, result relation = .bool (relation.holds o)) : Coherent result := by
  refine .truth (·.holds o) h ?_ ?_ ?_ ?_
  · cases o with
    | lt => exact ⟨.less, by decide, by rintro (_ | _) <;> simp [Relation.holds]⟩
    | eq => exact ⟨.equal, by decide, by rintro (_ | _) <;> simp [Relation.holds]⟩
    | gt => exact ⟨.greater, by decide, by rintro (_ | _) <;> simp [Relation.holds]⟩
  all_goals cases o <;> rfl

/-! ## Comparisons of entries -/

section

variable {l r : Value}

/-- All six operators find the same error, or look at the same order. -/
theorem compareEntries_cases (hl : l.IsEntry) (hr : r.IsEntry) :
    (∃ kind, ∀ relation, compareEntries relation l r = .ok (.error kind)) ∨
      ∃ o, ∀ relation, compareEntries relation l r = .ok (.bool (relation.holds o)) := by
  unfold compareEntries unlessError
  cases h : firstError [l, r] with
  | some kind => exact Or.inl ⟨kind, fun _ => rfl⟩
  | none =>
    simp only [firstError_eq_none_iff, List.forall_mem_cons] at h
    obtain ⟨⟨hle, hll⟩, ⟨hre, hrl⟩, -⟩ := h
    obtain ⟨o, ho⟩ := exists_compareScalar ⟨hl.isScalar hll, hle⟩ ⟨hr.isScalar hrl, hre⟩
    exact Or.inr ⟨o, fun _ => by simp only [ho, ok_bind, pure_eq_ok]⟩

theorem exists_compareEntries (relation : Relation) (hl : l.IsEntry) (hr : r.IsEntry) :
    ∃ v, compareEntries relation l r = .ok v := by
  rcases compareEntries_cases hl hr with ⟨kind, hkind⟩ | ⟨o, ho⟩
  · exact ⟨_, hkind relation⟩
  · exact ⟨_, ho relation⟩

/-- A comparison and the mirrored one from the other side agree, unless there is an error on both sides. -/
theorem compareEntries_mirrored (relation : Relation) (hl : l.IsEntry) (hr : r.IsEntry)
    (herror : ¬(l.isError = true ∧ r.isError = true)) :
    compareEntries relation.mirrored r l = compareEntries relation l r := by
  unfold compareEntries unlessError
  rw [firstError_swap herror]
  cases h : firstError [l, r] with
  | some kind => rfl
  | none =>
    simp only [firstError_eq_none_iff, List.forall_mem_cons] at h
    obtain ⟨⟨hle, hll⟩, ⟨hre, hrl⟩, -⟩ := h
    obtain ⟨o, ho⟩ := exists_compareScalar ⟨hl.isScalar hll, hle⟩ ⟨hr.isScalar hrl, hre⟩
    simp only [ho, compareScalar_swap ho, ok_bind, pure_eq_ok, Relation.holds_swap]

end

/-! ## Comparisons of operands -/

theorem comparison_token (relation : Relation) (left right : Operand) :
    comparison left relation.token right = broadcast (compareEntries relation) left right := by
  rw [comparison, relation.ofToken?_token]

/-- A comparison of operands is the comparison of what they show at each place. -/
theorem exists_comparison {l r : Value} {lrows rrows : Rows} {lh lw rh rw' : Nat} (hl : l.HasRows lrows lh lw)
    (hr : r.HasRows rrows rh rw') (relation : Relation) :
    ∃ v, comparison (.ofValue l) relation.token (.ofValue r) = .ok v ∧
      (Layout.join (l.isList || r.isList) lh rh lw rw').Has v ∧
      ∀ i j, (Layout.join (l.isList || r.isList) lh rh lw rw').Within i j →
        compareEntries relation (l.entryAt i j) (r.entryAt i j) = .ok (v.entryAt i j) := by
  rw [comparison_token]
  exact exists_broadcast hl hr (fun _ _ hl hr => exists_compareEntries relation hl.isEntry hr.isEntry)
    fun _ _ _ => InfixFamily.isScalar_compareEntries

/-- On scalars and regular arrays the six operators, and the mirrored six with exchanged operands, have results of one
layout. At each place those of the six are coherent, and those of the mirrored ones are the same, unless both operands
show an error there: a single row or column is repeated, and further out an operand shows `#N/A`. -/
theorem comparison_coherent {left right : Value} (hl : left.IsRegular) (hr : right.IsRegular) :
    ∃ (layout : Layout) (results mirrored : Relation → Value),
      (∀ relation, comparison (.ofValue left) relation.token (.ofValue right) = .ok (results relation) ∧
        layout.Has (results relation)) ∧
      (∀ relation, comparison (.ofValue right) relation.mirrored.token (.ofValue left) = .ok (mirrored relation) ∧
        layout.Has (mirrored relation)) ∧
      ∀ i j, layout.Within i j →
        Coherent (fun relation => (results relation).entryAt i j) ∧
        (¬((left.entryAt i j).isError = true ∧ (right.entryAt i j).isError = true) →
          ∀ relation, (mirrored relation).entryAt i j = (results relation).entryAt i j) := by
  obtain ⟨lrows, lh, lw, hl⟩ := hl.exists_rows
  obtain ⟨rrows, rh, rw', hr⟩ := hr.exists_rows
  have hmirrored := fun relation : Relation => exists_comparison hr hl relation.mirrored
  rw [Layout.join_comm] at hmirrored
  choose results hresults hlayout hentries using exists_comparison hl hr
  choose mirrored hmirrored hlayout' hentries' using hmirrored
  refine ⟨_, results, mirrored, fun relation => ⟨hresults relation, hlayout relation⟩,
    fun relation => ⟨hmirrored relation, hlayout' relation⟩, fun i j hij => ⟨?_, fun herror relation => ?_⟩⟩
  -- what stands at a place is a scalar, an array within an array, or the `#N/A` further out
  all_goals
    have hle : (left.entryAt i j).IsEntry := (hl.plain_entryAt i j).isEntry
    have hre : (right.entryAt i j).IsEntry := (hr.plain_entryAt i j).isEntry
  · rcases compareEntries_cases hle hre with ⟨kind, hkind⟩ | ⟨o, ho⟩
    · exact .error kind fun relation => Except.ok.inj ((hentries relation i j hij).symm.trans (hkind relation))
    · exact .of_order o fun relation => Except.ok.inj ((hentries relation i j hij).symm.trans (ho relation))
  · have hsame := compareEntries_mirrored relation hle hre herror
    rw [hentries relation i j hij, hentries' relation i j hij] at hsame
    exact Except.ok.inj hsame

/-- A row of a truth value, an error and nothing against a column of a truth value and an error. -/
theorem comparison_coherent_crossed :
    ∃ results : Relation → Value,
      (∀ relation, comparison (.ofValue (.list [.bool true, .error .num, .empty])) relation.token
        (.ofValue (.list [.list [.bool false], .list [.error .divisionByZero]])) = .ok (results relation)) ∧
      results .greater = Rows.toValue [[.bool true, .error .num, .bool false],
        [.error .divisionByZero, .error .num, .error .divisionByZero]] ∧
      Coherent fun relation => (results relation).entryAt 0 2 := by
  have hrow : (Value.list [.bool true, .error .num, .empty]).IsRegular :=
    ⟨⟨trivial, trivial, trivial, trivial⟩, _, _, rfl, rfl⟩
  have hcolumn : (Value.list [.list [.bool false], .list [.error .divisionByZero]]).IsRegular :=
    ⟨⟨⟨trivial, trivial⟩, ⟨trivial, trivial⟩, trivial⟩, _, _, rfl, rfl⟩
  obtain ⟨layout, results, mirrored, hresults, -, hplaces⟩ := comparison_coherent hrow hcolumn
  have hgreater : results .greater = Rows.toValue [[.bool true, .error .num, .bool false],
      [.error .divisionByZero, .error .num, .error .divisionByZero]] :=
    Except.ok.inj ((hresults .greater).1.symm.trans rfl)
  have hgrid : Rows.IsGrid [[.bool true, .error .num, .bool false],
      [.error .divisionByZero, .error .num, .error .divisionByZero]] 2 3 := ⟨rfl, by simp⟩
  refine ⟨results, fun relation => (hresults relation).1, hgreater, (hplaces 0 2 ?_).1⟩
  have hlayout := (hresults .greater).2
  rw [hgreater] at hlayout
  rw [hlayout.eq_grid hgrid Nat.two_pos]
  exact ⟨Nat.two_pos, Nat.lt_succ_self 2⟩

end GridCalc
