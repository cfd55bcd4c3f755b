import GridCalc.Proofs.Formula.Standard
import GridCalc.Proofs.Operator.Totality

/-!
# References stay inside a formula

While a formula is evaluated, references and collections are handed on as they are: a union passes its collection to
the operator around it, and a sign without a minus leaves every entry alone. None of them is left in the value of the
formula, at any depth (`Engine.evaluate_plain`): within a plain value there are scalars and lists only
(`Value.plain_iff_occursIn`).
-/

namespace GridCalc

/-! ## Values within values -/

namespace Value

/-- The value is the other one or stands somewhere within it. -/
inductive OccursIn (v : Value) : Value → Prop
  | self : OccursIn v v
  | list {items : List Value} {w : Value} (hmem : w ∈ items) (hw : OccursIn v w) : OccursIn v (.list items)
  | collection {items : List Value} {w : Value} (hmem : w ∈ items) (hw : OccursIn v w) :
      OccursIn v (.collection items)
  | bare {items : List Value} {w : Value} (hmem : w ∈ items) (hw : OccursIn v w) : OccursIn v (.bare items)
  | classified {w : Value} {isArray : Bool} (hw : OccursIn v w) : OccursIn v (.classified w isArray)

/-- What stands within a plain value is plain. -/
theorem Plain.of_occursIn {v w : Value} (hw : w.Plain) (h : v.OccursIn w) : v.Plain := by
  induction h with
  | self => exact hw
  | list hmem _ ih => exact ih (plainAll_iff.mp hw _ hmem)
  | collection _ _ _ => exact hw.elim
  | bare _ _ _ => exact hw.elim
  | classified _ _ => exact hw.elim

theorem plain_of_forall_occursIn : ∀ {w : Value}, (∀ v : Value, v.OccursIn w → v.IsEntry) → w.Plain
  | list items, h => plainAll_iff.mpr fun v hv => plain_of_forall_occursIn fun u hu => h u (.list hv hu)
  | empty, _ | bool _, _ | number _, _ | text _, _ | error _, _ => trivial
  | collection _, h | reference _, h | bearer _, h | classified .., h | bare _, h | bareReference _, h =>
    Or.elim (h _ .self) id nofun

/-- Plain are the values within which there are scalars and lists only. -/
theorem plain_iff_occursIn {w : Value} : w.Plain ↔ ∀ v : Value, v.OccursIn w → v.IsEntry :=
  ⟨fun hw _ h => (hw.of_occursIn h).isEntry, plain_of_forall_occursIn⟩

end Value

namespace Engine

variable {lookup : Lookup}

/-- Over a lookup that serves plain values, a formula that has a value has a plain one: neither a reference nor a
collection stands anywhere within it. -/
theorem evaluate_plain (hplain : ∀ ref v, lookup ref = .ok v → v.Plain) {formula : Formula} {v : Value}
    (h : ((standard lookup).evaluate formula).1 = .ok v) :
    v.Plain ∧ (∀ ref, ¬(Value.reference ref).OccursIn v) ∧ ∀ items, ¬(Value.collection items).OccursIn v := by
  have hv : v.Plain := by
    rw [evaluate_fst] at h
    cases hsettled : (standard lookup).settled formula with
    | ok x =>
      rw [hsettled] at h
      cases h
      exact plain_of_settled hplain hsettled
    | error fault =>
      -- a formula error is the value, every other fault stays a fault
      rw [hsettled] at h
      cases fault with
      | formula cause =>
        cases h
        exact trivial
      | _ => cases h
  exact ⟨hv, fun _ hocc => hv.of_occursIn hocc, fun _ hocc => hv.of_occursIn hocc⟩

/-- A lookup that serves one row for every reference. -/
def oneRow : Lookup := fun _ => .ok (.list [.list [.text "x", .empty]])

/-- A union within a union, next to an array of a reference, under a sign that changes nothing. -/
def nestedUnion : Formula :=
  .signs ["+"] (.union [.union [.address "A1" none, .literal "number" "2"], .array [[.address "B1" none]]])

theorem evaluate_plain_nestedUnion : ∃ v, ((standard oneRow).evaluate nestedUnion).1 = .ok v ∧ v.Plain ∧
    (∀ ref, ¬(Value.reference ref).OccursIn v) ∧ ∀ items, ¬(Value.collection items).OccursIn v := by
  have hplain : ∀ ref v, oneRow ref = .ok v → v.Plain := by
    rintro ref v ⟨⟩
    exact ⟨⟨trivial, trivial, trivial⟩, trivial⟩
  have hvalue : ((standard oneRow).evaluate nestedUnion).1 = .ok (.list [.list [.list [.list [.text "x", .empty]], .int 2],
      .list [.list [.list [.list [.text "x", .empty]]]]]) := by
    rfl
  exact ⟨_, hvalue, evaluate_plain hplain hvalue⟩

end Engine

end GridCalc
