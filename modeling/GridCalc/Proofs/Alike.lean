import GridCalc.Formula.Evaluation
import GridCalc.Proofs.Outcome

/-!
# Outcomes of two computations

`Alike excused R x y`: two computations end alike if their results are related by `R`, or if they fail with the same
fault or with formula errors of one kind. Where it is `excused`, the second may also fail with `#NULL!` on its own.

The relation is kept by sequences (`Alike.bind`), traversals (`Alike.mapM`) and folds (`Alike.foldlM`) of computations.
-/

namespace GridCalc

variable {α α' β β' : Type}

inductive Alike (excused : Prop) (R : α → β → Prop) : Except Fault α → Except Fault β → Prop
  | ok {a : α} {b : β} : R a b → Alike excused R (.ok a) (.ok b)
  | fault {fault : Fault} : Alike excused R (.error fault) (.error fault)
  | formula {cause cause' : FormulaFault} :
      cause.kind = cause'.kind → Alike excused R (.error (.formula cause)) (.error (.formula cause'))
  | null {x : Except Fault α} {cause : FormulaFault} :
      excused → cause.kind = .null → Alike excused R x (.error (.formula cause))

namespace Alike

variable {P Q : Prop} {R : α → β → Prop} {R' : α' → β' → Prop} {x : Except Fault α} {y : Except Fault β}

theorem mono {S : α → β → Prop} (h : Alike P R x y) (hP : P → Q) (hR : ∀ a b, R a b → S a b) : Alike Q S x y := by
  cases h with
  | ok hab => exact .ok (hR _ _ hab)
  | fault => exact .fault
  | formula hkind => exact .formula hkind
  | null hp hkind => exact .null (hP hp) hkind

/-- A computation ends like itself. -/
theorem refl {S : α → α → Prop} (h : ∀ a, x = .ok a → S a a) : Alike P S x x := by
  cases x with
  | ok a => exact .ok (h a rfl)
  | error fault => exact .fault

theorem bind {f : α → Except Fault α'} {g : β → Except Fault β'} (h : Alike P R x y)
    (hfg : ∀ a b, R a b → Alike P R' (f a) (g b)) : Alike P R' (x >>= f) (y >>= g) := by
  cases h with
  | ok hab => exact hfg _ _ hab
  | fault => exact .fault
  | formula hkind => exact .formula hkind
  | null hp hkind => exact .null hp hkind

theorem map {f : α → α'} {g : β → β'} (h : Alike P R x y) (hfg : ∀ a b, R a b → R' (f a) (g b)) :
    Alike P R' (f <$> x) (g <$> y) := by
  rw [map_eq_pure_bind, map_eq_pure_bind]
  exact h.bind fun a b hab => .ok (hfg a b hab)

theorem mapM {f : α → Except Fault α'} {g : β → Except Fault β'} {items : List α} {items' : List β}
    (h : List.Forall₂ (fun a b => Alike P R' (f a) (g b)) items items') :
    Alike P (List.Forall₂ R') (items.mapM f) (items'.mapM g) := by
  induction h with
  | nil => exact .ok .nil
  | cons hab _ ih =>
    rw [List.mapM_cons, List.mapM_cons]
    exact hab.bind fun a b hr => ih.bind fun as bs hrs => .ok (.cons hr hrs)

/-- The same for the items of one list and what they become. -/
theorem mapM_map {f : α → Except Fault α'} {g : β → Except Fault β'} (k : α → β) {items : List α}
    (h : ∀ a ∈ items, Alike P R' (f a) (g (k a))) :
    Alike P (List.Forall₂ R') (items.mapM f) ((items.map k).mapM g) :=
  mapM (List.forall₂_map_right_iff.mpr (List.forall₂_same.mpr h))

/-- Folds end alike if every step does. -/
theorem foldlM {f : α' → α → Except Fault α'} {g : β' → β → Except Fault β'}
    (hstep : ∀ s t a b, R' s t → R a b → Alike P R' (f s a) (g t b)) {items : List α} {items' : List β}
    (h : List.Forall₂ R items items') : ∀ {s t}, R' s t → Alike P R' (items.foldlM f s) (items'.foldlM g t) := by
  induction h with
  | nil => exact fun hst => .ok hst
  | cons hab _ ih =>
    intro s t hst
    rw [List.foldlM_cons, List.foldlM_cons]
    exact (hstep _ _ _ _ hst hab).bind fun s' t' => ih

/-- Alike outcomes have the same value, formula errors being values, or else it is excused. -/
theorem catchFormulaError {x y : Except Fault Value} (h : Alike P Eq x y) :
    Engine.catchFormulaError y = Engine.catchFormulaError x ∨
      P ∧ Engine.catchFormulaError y = .ok (.error .null) := by
  cases h with
  | ok hab => exact Or.inl (by rw [hab])
  | fault => exact Or.inl rfl
  | formula hkind =>
    refine Or.inl ?_
    rw [Engine.catchFormulaError, Engine.catchFormulaError, hkind]
  | null hp hkind =>
    refine Or.inr ⟨hp, ?_⟩
    rw [Engine.catchFormulaError, hkind]

end Alike

end GridCalc
