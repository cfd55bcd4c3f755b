import Mathlib.Order.CompleteLattice.Basic
import GridCalc.Proofs.Formula.Result
import GridCalc.Proofs.Reference.Enclosure
import GridCalc.Proofs.Reference.Parsing

/-!
# Trees of references

A tree of addresses, references, intersections and spans denotes an area: a rectangle of cells, on a sheet or on none
(`Formula.area?`). A span denotes the smallest rectangle around its operands, on no sheet; an intersection the common
cells, if its operands lie on one sheet and have a cell in common.

Main statement: `evaluate_referential`. A tree without an area has the value `#NULL!` and nothing is read; any other
tree reads exactly one reference, on the sheet and the cells of its area, and has the value that was read.
-/

namespace GridCalc

/-- A set of cells on a sheet, or on none. -/
structure Area where
  sheet : Option String
  cells : Set (Int × Int)

def Reference.area (ref : Reference) : Area := ⟨ref.sheet, ref.cells⟩

namespace Area

/-- The smallest rectangle around areas, on no sheet: the cells that lie in every rectangle around them. -/
def enclosing (areas : List Area) : Area := ⟨none, sInf (rectanglesAround (areas.map cells))⟩

open Classical in
/-- The common cells of areas on one sheet, if there are any. -/
noncomputable def common? : List Area → Option Area
  | [] => none
  | area :: rest =>
    let cells := {p | ∀ a ∈ area :: rest, p ∈ a.cells}
    if (∀ a ∈ rest, a.sheet = area.sheet) ∧ cells.Nonempty then some ⟨area.sheet, cells⟩ else none

end Area

namespace Formula

mutual

/-- The area that a tree of references denotes. -/
noncomputable def area? : Formula → Option Area
  | .address text sheet => (Reference.parse text sheet).toOption.map Reference.area
  | .value (.reference ref) => some ref.area
  | .span operands => (areas? operands).map Area.enclosing
  | .intersection operands => (areas? operands).bind Area.common?
  | _ => none

/-- The areas of all trees. -/
noncomputable def areas? : List Formula → Option (List Area)
  | [] => some []
  | formula :: rest => (area? formula).bind fun area => (areas? rest).map (area :: ·)

end

/-- A tree of addresses that can be read, references whose coordinates can be written, and intersections and spans of at
least one operand. -/
inductive Referential : Formula → Prop
  | address {text : String} {sheet : Option String} {ref : Reference} :
      Reference.parse text sheet = .ok ref → Referential (.address text sheet)
  | reference {ref : Reference} : ref.writable = true → Referential (.value (.reference ref))
  | intersection {operands : List Formula} :
      operands ≠ [] → (∀ f ∈ operands, Referential f) → Referential (.intersection operands)
  | span {operands : List Formula} :
      operands ≠ [] → (∀ f ∈ operands, Referential f) → Referential (.span operands)

end Formula

/-! ## Areas of references -/

open Classical in
theorem common?_area (ref : Reference) (rest : List Reference) :
    Area.common? ((ref :: rest).map Reference.area) =
      if OnOneSheet (ref :: rest) ∧ (commonCells (ref :: rest)).Nonempty then
        some ⟨ref.sheet, commonCells (ref :: rest)⟩
      else none := by
  have hcells : {p | ∀ a ∈ ref.area :: rest.map Reference.area, p ∈ a.cells} = commonCells (ref :: rest) := by
    ext p
    simp [commonCells, Reference.area]
  have hsheets : (∀ a ∈ rest.map Reference.area, a.sheet = ref.area.sheet) ↔ OnOneSheet (ref :: rest) := by
    rw [onOneSheet_cons_iff]
    simp only [List.forall_mem_map, Reference.sheet_box, Reference.area]
  simp only [List.map_cons, Area.common?]
  rw [hcells]
  exact if_congr (and_congr_left' hsheets) rfl rfl

/-- The span of references is a range on the area around them, which can be written if the references can. -/
theorem exists_span_area {refs : List Reference} (hne : refs ≠ []) :
    ∃ ref, span (refs.map .reference) = .ok ref ∧ ref.area = Area.enclosing (refs.map Reference.area) ∧
      ((∀ ref ∈ refs, ref.writable = true) → ref.writable = true) := by
  obtain ⟨b, hb, hord, hsheet, hleast, hwritable⟩ := exists_span_box hne
  have hcells : (refs.map Reference.area).map Area.cells = refs.map Reference.cells := by
    rw [List.map_map]
    rfl
  refine ⟨b.toRange, hb, ?_, fun hw => Box.writable_toRange (hwritable hw)⟩
  rw [Reference.area, Box.cells_toRange hord, Area.enclosing, hcells, hleast.isGLB.sInf_eq]
  exact congrArg (Area.mk · b.cells) hsheet

/-! ## The reference of a tree -/

namespace Engine

variable (engine : Engine)

theorem references_ne_nil {formulas : List Formula} {refs : List Reference} (hne : formulas ≠ [])
    (h : formulas.mapM engine.result = .ok (refs.map .reference)) : refs ≠ [] := by
  rintro rfl
  exact hne (List.eq_nil_of_length_eq_zero (length_of_mapM_eq_ok h).symm)

/-- A node stands for a reference to the area that it denotes, or for a disjoint intersection. -/
def StandsForArea (formula : Formula) : Prop :=
  match formula.area? with
  | some area => ∃ ref, engine.result formula = .ok (.reference ref) ∧ ref.area = area ∧ ref.writable = true
  | none => ∃ b c, engine.result formula = .error (.formula (.disjoint b c))

/-- The same for all nodes of a list, of which the first that denotes nothing counts. -/
theorem mapM_result_standsForArea : ∀ {formulas : List Formula}, (∀ f ∈ formulas, engine.StandsForArea f) →
    match Formula.areas? formulas with
    | some areas => ∃ refs : List Reference, formulas.mapM engine.result = .ok (refs.map .reference) ∧
        refs.map Reference.area = areas ∧ ∀ ref ∈ refs, ref.writable = true
    | none => ∃ b c, formulas.mapM engine.result = .error (.formula (.disjoint b c))
  | [], _ => ⟨[], rfl, rfl, by simp⟩
  | formula :: rest, h => by
    obtain ⟨hfirst, hrest⟩ := List.forall_mem_cons.mp h
    have ih := mapM_result_standsForArea hrest
    unfold StandsForArea at hfirst
    rw [Formula.areas?, List.mapM_cons]
    cases hf : formula.area? with
    | none =>
      rw [hf] at hfirst
      obtain ⟨b, c, hbc⟩ := hfirst
      exact ⟨b, c, by rw [hbc]; rfl⟩
    | some area =>
      rw [hf] at hfirst
      obtain ⟨ref, href, rfl, hw⟩ := hfirst
      rw [href]
      cases hr : Formula.areas? rest with
      | none =>
        rw [hr] at ih
        obtain ⟨b, c, hbc⟩ := ih
        exact ⟨b, c, by rw [hbc]; rfl⟩
      | some areas =>
        rw [hr] at ih
        obtain ⟨refs, hrefs, rfl, hws⟩ := ih
        exact ⟨ref :: refs, by rw [hrefs]; rfl, rfl, List.forall_mem_cons.mpr ⟨hw, hws⟩⟩

theorem standsForArea_intersection {operands : List Formula} (hne : operands ≠ [])
    (h : ∀ f ∈ operands, engine.StandsForArea f) : engine.StandsForArea (.intersection operands) := by
  have hall := engine.mapM_result_standsForArea h
  unfold StandsForArea
  rw [Formula.area?, result_intersection]
  cases ha : Formula.areas? operands with
  | none =>
    rw [ha] at hall
    obtain ⟨b, c, hbc⟩ := hall
    exact ⟨b, c, by rw [hbc]; rfl⟩
  | some areas =>
    rw [ha] at hall
    obtain ⟨refs, hrefs, rfl, hw⟩ := hall
    obtain ⟨ref, rest, rfl⟩ := List.exists_cons_of_ne_nil (engine.references_ne_nil hne hrefs)
    rw [hrefs, Option.bind_some, common?_area]
    by_cases hc : OnOneSheet (ref :: rest) ∧ (commonCells (ref :: rest)).Nonempty
    · rw [if_pos hc]
      obtain ⟨b, hb, hord, hbw, hsheet, hcells⟩ := intersection_ok (List.cons_ne_nil _ _) hw hc.1 hc.2
      refine ⟨b.toReference, by rw [ok_bind, hb]; rfl, ?_, Box.writable_toReference hbw⟩
      rw [Reference.area, Box.sheet_toReference, Box.cells_toReference hord, hsheet ref List.mem_cons_self, hcells]
    · rw [if_neg hc]
      obtain ⟨b, c, hbc⟩ := intersection_disjoint (List.cons_ne_nil _ _) hw hc
      exact ⟨b, c, by rw [ok_bind, hbc]; rfl⟩

theorem standsForArea_span {operands : List Formula} (hne : operands ≠ [])
    (h : ∀ f ∈ operands, engine.StandsForArea f) : engine.StandsForArea (.span operands) := by
  have hall := engine.mapM_result_standsForArea h
  unfold StandsForArea
  rw [Formula.area?, result_span]
  cases ha : Formula.areas? operands with
  | none =>
    rw [ha] at hall
    obtain ⟨b, c, hbc⟩ := hall
    exact ⟨b, c, by rw [hbc]; rfl⟩
  | some areas =>
    rw [ha] at hall
    obtain ⟨refs, hrefs, rfl, hw⟩ := hall
    obtain ⟨ref, href, harea, hwritable⟩ := exists_span_area (engine.references_ne_nil hne hrefs)
    exact ⟨ref, by rw [hrefs, ok_bind, href]; rfl, harea, hwritable hw⟩

theorem standsForArea_of_referential {formula : Formula} (h : formula.Referential) : engine.StandsForArea formula := by
  induction h with
  | @address text sheet ref hparse =>
    unfold StandsForArea
    rw [Formula.area?, result_address, hparse]
    exact ⟨ref, rfl, rfl, Reference.writable_of_parse hparse⟩
  | @reference ref hw =>
    unfold StandsForArea
    rw [Formula.area?]
    exact ⟨ref, engine.result_value _, rfl, hw⟩
  | intersection hne _ ih => exact engine.standsForArea_intersection hne ih
  | span hne _ ih => exact engine.standsForArea_span hne ih

/-! ## Reading a tree -/

open Run

theorem log_operandList_eq_empty : ∀ {formulas : List Formula}, (∀ f ∈ formulas, log (engine.operand f) = .empty) →
    log (engine.operandList formulas) = .empty
  | [], _ => rfl
  | formula :: rest, h => by
    obtain ⟨hfirst, hrest⟩ := List.forall_mem_cons.mp h
    exact log_bind_eq_empty (engine.appends_operand formula)
      (fun _ => (engine.appends_operandList rest).bind fun _ => appends_pure _) hfirst fun _ =>
        log_bind_eq_empty (engine.appends_operandList rest) (fun _ => appends_pure _)
          (log_operandList_eq_empty hrest) fun _ => rfl

/-- Nothing is read while references are combined. -/
theorem log_operand_of_referential {formula : Formula} (h : formula.Referential) :
    log (engine.operand formula) = .empty := by
  induction h with
  | @address text sheet ref hparse =>
    rw [operand, hparse]
    rfl
  | reference hw => exact log_lift _
  | @intersection operands _ _ ih | @span operands _ _ ih =>
    exact log_bind_eq_empty (engine.appends_operandList operands)
      (fun _ => (appends_lift _).bind fun _ => appends_pure _) (engine.log_operandList_eq_empty ih) fun _ =>
        log_bind_eq_empty (appends_lift _) (fun _ => appends_pure _) (log_lift _) fun _ => rfl

/-- A tree of references without an area has the value `#NULL!`, and nothing is read. Any other tree reads exactly one
reference, on the sheet and the cells of its area, and has the value that was read; a formula error of the lookup is a
value too. -/
theorem evaluate_referential (formula : Formula) (h : formula.Referential) :
    (formula.area? = none → engine.evaluate formula = (.ok (.error .null), .empty)) ∧
    ∀ area, formula.area? = some area → ∃ ref, ref.sheet = area.sheet ∧ ref.cells = area.cells ∧
      engine.evaluate formula = (catchFormulaError (engine.lookup ref), ⟨[.reference ref], []⟩) := by
  have harea := engine.standsForArea_of_referential h
  have hlog := engine.log_operand_of_referential h
  unfold StandsForArea at harea
  constructor
  · intro hnone
    rw [hnone] at harea
    obtain ⟨b, c, hbc⟩ := harea
    refine Prod.ext ?_ ?_
    · rw [evaluate_fst, settled, hbc]
      rfl
    · rw [evaluate_snd, hbc]
      exact hlog
  · intro area hsome
    rw [hsome] at harea
    obtain ⟨ref, href, rfl, -⟩ := harea
    refine ⟨ref, rfl, rfl, Prod.ext ?_ ?_⟩
    · rw [evaluate_fst, settled, href]
      rfl
    · rw [evaluate_snd, href]
      simp only [hlog, Record.empty_append, log_resolve_reference]

/-- The block `A1:B3`, of corners on different sheets, crossed by the column `B:B` and the row `2:2`. -/
def crossing : Formula :=
  .intersection [.span [.address "A1" (some "Data"), .address "B3" none], .address "B:B" none, .address "2:2" none]

theorem area?_crossing : crossing.area? = some ⟨none, {(2, 2)}⟩ := by
  have hA : Reference.parse "A1" (some "Data") = .ok (.cell ⟨1, 1, some "Data", some "A1"⟩) := by rfl
  have hB : Reference.parse "B3" none = .ok (.cell ⟨2, 3, none, some "B3"⟩) := by rfl
  have hcol : Reference.parse "B:B" none =
      .ok (.range ⟨⟨some 2, none, some "B"⟩, ⟨some 2, none, some "B"⟩, none, some "B:B"⟩) := by rfl
  have hrow : Reference.parse "2:2" none =
      .ok (.range ⟨⟨none, some 2, some "2"⟩, ⟨none, some 2, some "2"⟩, none, some "2:2"⟩) := by rfl
  obtain ⟨b, hb, hord, -, hleast, -⟩ :=
    @exists_span_box [.cell ⟨1, 1, some "Data", some "A1"⟩, .cell ⟨2, 3, none, some "B3"⟩] (by simp)
  have hblock : b.toRange = .range ⟨⟨some 1, some 1, none⟩, ⟨some 2, some 3, none⟩, none, none⟩ :=
    (Except.ok.inj hb).symm
  rw [← Box.cells_toRange hord, hblock] at hleast
  have hsInf := hleast.isGLB.sInf_eq
  simp only [List.map_cons, List.map_nil, Reference.cells, coordinatesBetween] at hsInf
  simp only [crossing, Formula.area?, Formula.areas?, hA, hB, hcol, hrow, Except.toOption, Option.map_some,
    Option.bind_some, Reference.area, Reference.sheet, Reference.cells, coordinatesBetween, Area.enclosing,
    List.map_cons, List.map_nil, hsInf, Area.common?, List.forall_mem_cons]
  have hcells : {p : Int × Int | p ∈ Set.uIcc 1 3 ×ˢ Set.uIcc 1 2 ∧ p ∈ Set.univ ×ˢ Set.uIcc 2 2 ∧
      p ∈ Set.uIcc 2 2 ×ˢ Set.univ ∧ ∀ a ∈ ([] : List Area), p ∈ a.cells} = {(2, 2)} := by
    ext ⟨row, col⟩
    simp only [Set.mem_ofPred_eq, Set.mem_prod, Set.mem_uIcc, Set.mem_univ, Set.mem_singleton_iff, Prod.mk.injEq]
    constructor
    · rintro ⟨-, ⟨-, hcol⟩, ⟨hrow, -⟩, -⟩
      omega
    · rintro ⟨rfl, rfl⟩
      simp
  rw [hcells, if_pos ⟨by simp, (2, 2), by simp⟩]

/-- A lookup that serves the number `100 · row + column` for a cell, and nothing for a range. -/
def places : Engine where
  lookup
    | .cell r => .ok (.int (100 * r.row + r.col))
    | .range _ => .ok .empty
  families := .standard

theorem evaluate_referential_crossing : crossing.Referential ∧ crossing.area? = some ⟨none, {(2, 2)}⟩ ∧
    ∃ ref, ref.sheet = none ∧ ref.cells = {(2, 2)} ∧
      places.evaluate crossing = (catchFormulaError (places.lookup ref), ⟨[.reference ref], []⟩) := by
  have h : crossing.Referential := by
    refine .intersection (by simp) ?_
    simp only [List.forall_mem_cons, List.not_mem_nil, false_imp_iff, implies_true, and_true]
    refine ⟨.span (by simp) ?_, .address (by rfl), .address (by rfl)⟩
    simp only [List.forall_mem_cons, List.not_mem_nil, false_imp_iff, implies_true, and_true]
    exact ⟨.address (by rfl), .address (by rfl)⟩
  exact ⟨h, area?_crossing, (evaluate_referential places crossing h).2 _ area?_crossing⟩

end Engine

end GridCalc
