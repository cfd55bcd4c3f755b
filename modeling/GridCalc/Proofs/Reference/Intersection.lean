import Mathlib.Data.Set.Lattice
import GridCalc.Proofs.Outcome
import GridCalc.Proofs.Reference.Cells

/-!
# Intersection of references

The running box of an intersection covers exactly the cells that all references so far have in common
(`Box.cells_of_foldlM_intersect`), so comparing each reference with the running box alone finds out whether all of them
share a cell (`Box.disjoint_of_foldlM_intersect`).

Main statement: `intersection_exact`. An intersection fails iff the references lie on different sheets or have no cell
in common; otherwise it is the reference that covers the common cells, and the operands matter through their common
sheet and their common cells only.
-/

namespace GridCalc

/-- The cells that all references cover. -/
def commonCells (refs : List Reference) : Set (Int × Int) := {p | ∀ ref ∈ refs, p ∈ ref.cells}

/-- All sheets are literally equal; an unset sheet equals only an unset one. -/
def OnOneSheet (refs : List Reference) : Prop := ∀ ref ∈ refs, ∀ ref' ∈ refs, ref.sheet = ref'.sheet

/-! ## The running box -/

namespace Box

variable {b c : Box}

theorem intersect_of_meets (h : b.meets c = true) : b.intersect c = .ok (b.common c) := if_pos h

theorem intersect_eq_ok_iff {d : Box} : b.intersect c = .ok d ↔ b.meets c = true ∧ b.common c = d := by
  cases h : b.meets c with
  | true => simp [intersect_of_meets h]
  | false => simp [intersect, h, Fault.raise]

theorem intersect_eq_error (h : b.meets c = false) :
    b.intersect c = .error (Fault.formula (.disjoint b c)).reported := by
  simp [intersect, h, Fault.raise]

/-- Boxes that do not meet are disjoint, and the fault can tell so if both can be written. -/
theorem intersect_of_not_meets (hb : b.writable = true) (hc : c.writable = true) (h : b.meets c = false) :
    b.intersect c = .error (.formula (.disjoint b c)) := by
  simp [intersect, h, Fault.raise, Fault.reported, Fault.writable, hb, hc]

/-- The cells that all boxes cover. -/
def commonOf (boxes : List Box) : Set (Int × Int) := {p | ∀ b ∈ boxes, p ∈ b.cells}

theorem inter_commonOf_cons (b c : Box) (rest : List Box) :
    b.cells ∩ commonOf (c :: rest) = (b.common c).cells ∩ commonOf rest := by
  ext p
  simp only [cells_common, commonOf, List.forall_mem_cons, Set.mem_inter_iff, Set.mem_ofPred_eq, and_assoc]

/-- The running box covers what the boxes so far have in common. -/
theorem cells_of_foldlM_intersect (rest : List Box) : ∀ {b d : Box}, b.Ordered → (∀ c ∈ rest, c.Ordered) →
    rest.foldlM intersect b = .ok d →
    d.Ordered ∧ d.sheet = b.sheet ∧ (∀ c ∈ rest, c.sheet = b.sheet) ∧ d.cells = b.cells ∩ commonOf rest := by
  induction rest with
  | nil =>
    intro b d hb _ h
    cases h
    exact ⟨hb, rfl, by simp, by simp [commonOf]⟩
  | cons c rest ih =>
    intro b d hb hrest h
    obtain ⟨hc, hrest⟩ := List.forall_mem_cons.mp hrest
    rw [List.foldlM_cons] at h
    obtain ⟨e, he, h⟩ := bind_eq_ok_iff.mp h
    obtain ⟨hmeets, rfl⟩ := intersect_eq_ok_iff.mp he
    obtain ⟨hord, hsheet, hsheets, hcells⟩ := ih (hb.common hc hmeets) hrest h
    refine ⟨hord, hsheet, List.forall_mem_cons.mpr ⟨((meets_iff hb hc).mp hmeets).1.symm, hsheets⟩, ?_⟩
    rw [hcells, inter_commonOf_cons]

/-- The fold stops only where the boxes lie on different sheets or have no cell in common. -/
theorem disjoint_of_foldlM_intersect (rest : List Box) : ∀ {b : Box} {fault : Fault}, b.Ordered →
    (∀ c ∈ rest, c.Ordered) → rest.foldlM intersect b = .error fault →
    ¬((∀ c ∈ rest, c.sheet = b.sheet) ∧ (b.cells ∩ commonOf rest).Nonempty) ∧
      ∃ d e, fault = (Fault.formula (.disjoint d e)).reported := by
  induction rest with
  | nil =>
    intro b fault _ _ h
    cases h
  | cons c rest ih =>
    intro b fault hb hrest h
    obtain ⟨hc, hrest⟩ := List.forall_mem_cons.mp hrest
    rw [List.foldlM_cons] at h
    cases hmeets : b.meets c with
    | false =>
      rw [intersect_eq_error hmeets] at h
      cases h
      refine ⟨fun ⟨hsheets, hne⟩ => ?_, b, c, rfl⟩
      have hmeet := (meets_iff hb hc).mpr ⟨(hsheets c List.mem_cons_self).symm, ?_⟩
      · rw [hmeets] at hmeet
        cases hmeet
      · rw [inter_commonOf_cons, cells_common] at hne
        exact hne.left
    | true =>
      rw [intersect_of_meets hmeets, ok_bind] at h
      obtain ⟨hnot, hfault⟩ := ih (hb.common hc hmeets) hrest h
      refine ⟨fun ⟨hsheets, hne⟩ => hnot ⟨(List.forall_mem_cons.mp hsheets).2, ?_⟩, hfault⟩
      rwa [← inter_commonOf_cons]

theorem writable_of_foldlM_intersect (rest : List Box) : ∀ {b d : Box}, b.writable = true →
    (∀ c ∈ rest, c.writable = true) → rest.foldlM intersect b = .ok d → d.writable = true := by
  induction rest with
  | nil =>
    intro b d hb _ h
    cases h
    exact hb
  | cons c rest ih =>
    intro b d hb hrest h
    obtain ⟨hc, hrest⟩ := List.forall_mem_cons.mp hrest
    rw [List.foldlM_cons] at h
    obtain ⟨e, he, h⟩ := bind_eq_ok_iff.mp h
    obtain ⟨-, rfl⟩ := intersect_eq_ok_iff.mp he
    exact ih (writable_common hb hc) hrest h

theorem foldlM_intersect_ok (rest : List Box) {b : Box} (hb : b.Ordered) (hw : b.writable = true)
    (hrest : ∀ c ∈ rest, c.Ordered ∧ c.writable = true ∧ c.sheet = b.sheet) (hne : (b.cells ∩ commonOf rest).Nonempty) :
    ∃ d, rest.foldlM intersect b = .ok d ∧ d.Ordered ∧ d.writable = true ∧ d.sheet = b.sheet ∧
      d.cells = b.cells ∩ commonOf rest := by
  have hordered : ∀ c ∈ rest, c.Ordered := fun c hc => (hrest c hc).1
  cases hd : rest.foldlM intersect b with
  | error fault =>
    exact absurd ⟨fun c hc => (hrest c hc).2.2, hne⟩ (disjoint_of_foldlM_intersect rest hb hordered hd).1
  | ok d =>
    obtain ⟨hord, hsheet, -, hcells⟩ := cells_of_foldlM_intersect rest hb hordered hd
    exact ⟨d, rfl, hord, writable_of_foldlM_intersect rest hw (fun c hc => (hrest c hc).2.1) hd, hsheet, hcells⟩

/-- Without a common sheet or a common cell, the fold stops at some box that does not meet the running one. -/
theorem foldlM_intersect_disjoint (rest : List Box) : ∀ {b : Box}, b.Ordered → b.writable = true →
    (∀ c ∈ rest, c.Ordered ∧ c.writable = true) →
    ¬((∀ c ∈ rest, c.sheet = b.sheet) ∧ (b.cells ∩ commonOf rest).Nonempty) →
    ∃ d e, rest.foldlM intersect b = .error (.formula (.disjoint d e)) := by
  induction rest with
  | nil =>
    intro b hb _ _ h
    exact absurd ⟨by simp, by simpa [commonOf] using hb.nonempty⟩ h
  | cons c rest ih =>
    intro b hb hw hrest h
    obtain ⟨⟨hc, hcw⟩, hrest⟩ := List.forall_mem_cons.mp hrest
    rw [List.foldlM_cons]
    cases hmeets : b.meets c with
    | false => exact ⟨b, c, by rw [intersect_of_not_meets hw hcw hmeets]; rfl⟩
    | true =>
      rw [intersect_of_meets hmeets]
      refine ih (hb.common hc hmeets) (writable_common hw hcw) hrest fun ⟨hsheets, hne⟩ => h ⟨?_, ?_⟩
      · exact List.forall_mem_cons.mpr ⟨((meets_iff hb hc).mp hmeets).1.symm, hsheets⟩
      · rwa [inter_commonOf_cons]

/-- Boxes that intersect lie on one sheet. -/
theorem sheet_of_foldlM_intersect (rest : List Box) : ∀ {b d : Box}, rest.foldlM intersect b = .ok d →
    b.sheet = d.sheet ∧ ∀ c ∈ rest, c.sheet = d.sheet := by
  induction rest with
  | nil =>
    intro b d h
    cases h
    exact ⟨rfl, List.forall_mem_nil _⟩
  | cons c rest ih =>
    intro b d h
    rw [List.foldlM_cons] at h
    obtain ⟨e, he, h⟩ := bind_eq_ok_iff.mp h
    obtain ⟨hed, hrest⟩ := ih h
    obtain ⟨hmeets, rfl⟩ := intersect_eq_ok_iff.mp he
    simp only [meets, Bool.and_eq_true, beq_iff_eq] at hmeets
    exact ⟨hed, List.forall_mem_cons.mpr ⟨hmeets.1.1.symm.trans hed, hrest⟩⟩

end Box

/-! ## Operands that are references -/

theorem mapM_box (refs : List Reference) :
    (refs.map Value.reference).mapM Value.box = .ok (refs.map Reference.box) := by
  induction refs with
  | nil => rfl
  | cons ref rest ih =>
    rw [List.map_cons, List.mapM_cons, ih]
    rfl

theorem operandBoxes_references (operator : RangeOperator) (ref : Reference) (rest : List Reference) :
    operandBoxes operator ((ref :: rest).map .reference) = .ok (ref.box, rest.map Reference.box) := by
  rw [List.map_cons, operandBoxes, mapM_box]
  rfl

theorem commonOf_box (refs : List Reference) : Box.commonOf (refs.map Reference.box) = commonCells refs := by
  ext p
  simp [Box.commonOf, commonCells, Reference.cells_box]

theorem commonCells_cons (ref : Reference) (rest : List Reference) :
    commonCells (ref :: rest) = ref.box.cells ∩ Box.commonOf (rest.map Reference.box) := by
  rw [commonOf_box, Reference.cells_box]
  ext p
  simp [commonCells]

theorem onOneSheet_cons_iff {ref : Reference} {rest : List Reference} :
    OnOneSheet (ref :: rest) ↔ ∀ b ∈ rest.map Reference.box, b.sheet = ref.box.sheet := by
  simp only [List.forall_mem_map, Reference.sheet_box]
  constructor
  · intro h other hother
    exact h other (List.mem_cons_of_mem _ hother) ref List.mem_cons_self
  · intro h
    have hall : ∀ other ∈ ref :: rest, other.sheet = ref.sheet := List.forall_mem_cons.mpr ⟨rfl, h⟩
    intro r hr s hs
    rw [hall r hr, hall s hs]

theorem intersection_cons (ref : Reference) (rest : List Reference) :
    intersection ((ref :: rest).map .reference) =
      Box.toReference <$> (rest.map Reference.box).foldlM Box.intersect ref.box := by
  rw [intersection, operandBoxes_references]
  rfl

/-- References that intersect lie on the sheet of their intersection. -/
theorem sheet_of_intersection {operands : List Value} {ref r : Reference} (h : intersection operands = .ok ref)
    (hr : .reference r ∈ operands) : r.sheet = ref.sheet := by
  unfold intersection at h
  obtain ⟨⟨b, boxes⟩, hboxes, h⟩ := bind_eq_ok_iff.mp h
  obtain ⟨d, hd, h⟩ := bind_eq_ok_iff.mp h
  cases h
  obtain ⟨hb, hall⟩ := Box.sheet_of_foldlM_intersect _ hd
  rw [Box.sheet_toReference, ← Reference.sheet_box]
  cases operands with
  | nil => cases hr
  | cons first rest =>
    obtain ⟨b', hfirst, hboxes⟩ := bind_eq_ok_iff.mp hboxes
    obtain ⟨boxes', hrest, hboxes⟩ := bind_eq_ok_iff.mp hboxes
    cases hboxes
    rcases List.mem_cons.mp hr with rfl | hr
    · cases hfirst
      exact hb
    · obtain ⟨c, hc, hbox⟩ := exists_of_mapM_eq_ok hrest hr
      cases hbox
      exact hall _ hc

/-! ## The common reference -/

theorem cells_of_intersection {refs : List Reference} {ref : Reference} (hne : refs ≠ [])
    (h : intersection (refs.map .reference) = .ok ref) :
    (OnOneSheet refs ∧ (commonCells refs).Nonempty) ∧ (∀ other ∈ refs, ref.sheet = other.sheet) ∧
      ref.cells = commonCells refs := by
  obtain ⟨first, rest, rfl⟩ := List.exists_cons_of_ne_nil hne
  rw [intersection_cons] at h
  obtain ⟨b, hb, rfl⟩ := map_eq_ok_iff.mp h
  obtain ⟨hord, hsheet, hsheets, hcells⟩ := Box.cells_of_foldlM_intersect _ first.ordered_box
    (List.forall_mem_map.mpr fun other _ => other.ordered_box) hb
  have hone : OnOneSheet (first :: rest) := onOneSheet_cons_iff.mpr hsheets
  rw [Box.sheet_toReference, Box.cells_toReference hord, commonCells_cons, ← hcells]
  refine ⟨⟨hone, hord.nonempty⟩, fun other hother => ?_, rfl⟩
  rw [hsheet, Reference.sheet_box]
  exact hone first List.mem_cons_self other hother

theorem disjoint_of_intersection {refs : List Reference} {fault : Fault} (hne : refs ≠ [])
    (h : intersection (refs.map .reference) = .error fault) :
    ¬(OnOneSheet refs ∧ (commonCells refs).Nonempty) ∧ ∃ b c, fault = (Fault.formula (.disjoint b c)).reported := by
  obtain ⟨first, rest, rfl⟩ := List.exists_cons_of_ne_nil hne
  rw [intersection_cons] at h
  rw [commonCells_cons, onOneSheet_cons_iff]
  exact Box.disjoint_of_foldlM_intersect _ first.ordered_box (List.forall_mem_map.mpr fun other _ => other.ordered_box)
    (map_eq_error_iff.mp h)

/-- On one sheet and with a common cell, the intersection is the reference of the box of the common cells. -/
theorem intersection_ok {refs : List Reference} (hne : refs ≠ []) (hw : ∀ ref ∈ refs, ref.writable = true)
    (hs : OnOneSheet refs) (hc : (commonCells refs).Nonempty) :
    ∃ b : Box, intersection (refs.map .reference) = .ok b.toReference ∧ b.Ordered ∧ b.writable = true ∧
      (∀ ref ∈ refs, b.sheet = ref.sheet) ∧ b.cells = commonCells refs := by
  obtain ⟨ref, rest, rfl⟩ := List.exists_cons_of_ne_nil hne
  obtain ⟨hw, hws⟩ := List.forall_mem_cons.mp hw
  rw [commonCells_cons] at hc ⊢
  obtain ⟨b, hb, hord, hbw, hsheet, hcells⟩ := Box.foldlM_intersect_ok _ ref.ordered_box (ref.writable_box hw)
    (fun c hc => by
      obtain ⟨other, hother, rfl⟩ := List.mem_map.mp hc
      exact ⟨other.ordered_box, other.writable_box (hws other hother), onOneSheet_cons_iff.mp hs _ hc⟩) hc
  refine ⟨b, by rw [intersection_cons, hb]; rfl, hord, hbw, fun other hother => ?_, hcells⟩
  rw [hsheet, Reference.sheet_box]
  exact hs ref List.mem_cons_self other hother

theorem intersection_disjoint {refs : List Reference} (hne : refs ≠ []) (hw : ∀ ref ∈ refs, ref.writable = true)
    (h : ¬(OnOneSheet refs ∧ (commonCells refs).Nonempty)) :
    ∃ b c, intersection (refs.map .reference) = .error (.formula (.disjoint b c)) := by
  obtain ⟨ref, rest, rfl⟩ := List.exists_cons_of_ne_nil hne
  obtain ⟨hw, hws⟩ := List.forall_mem_cons.mp hw
  rw [commonCells_cons, onOneSheet_cons_iff] at h
  obtain ⟨b, c, hbc⟩ := Box.foldlM_intersect_disjoint _ ref.ordered_box (ref.writable_box hw)
    (fun c hc => by
      obtain ⟨other, hother, rfl⟩ := List.mem_map.mp hc
      exact ⟨other.ordered_box, other.writable_box (hws other hother)⟩) h
  exact ⟨b, c, by rw [intersection_cons, hbc]; rfl⟩

/-- An intersection is exact: it is disjoint iff the references lie on different sheets or have no cell in common, and
otherwise it is a reference on their sheet, without texts, that covers the common cells and is a cell iff there is only
one of them. Other references on that sheet with the same common cells intersect in the same reference. -/
theorem intersection_exact (refs : List Reference) (hne : refs ≠ []) (hw : ∀ ref ∈ refs, ref.writable = true) :
    ((∃ b c, intersection (refs.map .reference) = .error (.formula (.disjoint b c))) ↔
      ¬OnOneSheet refs ∨ commonCells refs = ∅) ∧
    (OnOneSheet refs → commonCells refs ≠ ∅ → ∃ common, intersection (refs.map .reference) = .ok common ∧
      (∀ ref ∈ refs, common.sheet = ref.sheet) ∧ common.Unaddressed ∧ common.cells = commonCells refs ∧
      (common.IsCell ↔ ∃ p, commonCells refs = {p}) ∧
      ∀ others : List Reference, others ≠ [] → (∀ ref ∈ others, ref.writable = true) → OnOneSheet others →
        (∀ ref ∈ others, ref.sheet = common.sheet) → commonCells others = commonCells refs →
        intersection (others.map .reference) = .ok common) := by
  have hok : OnOneSheet refs → commonCells refs ≠ ∅ → ∃ b : Box, intersection (refs.map .reference) =
      .ok b.toReference ∧ b.Ordered ∧ b.writable = true ∧ (∀ ref ∈ refs, b.sheet = ref.sheet) ∧
      b.cells = commonCells refs :=
    fun hs hc => intersection_ok hne hw hs (Set.nonempty_iff_ne_empty.mpr hc)
  refine ⟨⟨fun ⟨b, c, hbc⟩ => ?_, fun h => intersection_disjoint hne hw fun ⟨hs, hc⟩ => ?_⟩, fun hs hc => ?_⟩
  · by_contra hnot
    push Not at hnot
    obtain ⟨d, hd, -⟩ := hok hnot.1 hnot.2.ne_empty
    rw [hbc] at hd
    cases hd
  · exact h.elim (· hs) hc.ne_empty
  · obtain ⟨b, hb, hord, -, hsheet, hcells⟩ := hok hs hc
    refine ⟨b.toReference, hb, ?_, b.unaddressed_toReference, ?_, ?_, fun others hne' hw' hs' hsheet' hcells' => ?_⟩
    · rwa [Box.sheet_toReference]
    · rw [Box.cells_toReference hord, hcells]
    · rw [Box.isCell_toReference_iff hord, hcells]
    · obtain ⟨d, hd, hord', -, hdsheet, hdcells⟩ :=
        intersection_ok hne' hw' hs' (by rwa [hcells', Set.nonempty_iff_ne_empty])
      obtain ⟨ref, hmem⟩ := List.exists_mem_of_ne_nil _ hne'
      have hbd : d = b := hord'.ext hord
        (by rw [hdsheet ref hmem, hsheet' ref hmem, Box.sheet_toReference])
        (by rw [hdcells, hcells', hcells])
      rw [hd, hbd]

/-- The block `B3:A1`, given by its last corner first, the rows `5:3` and the column `B:B`. -/
def cornerOperands : List Reference :=
  [.range { first := ⟨some 2, some 3, none⟩, last := ⟨some 1, some 1, none⟩, sheet := none, address := some "B3:A1" },
    .range { first := ⟨none, some 5, none⟩, last := ⟨none, some 3, none⟩, sheet := none, address := some "5:3" },
    .range { first := ⟨some 2, none, none⟩, last := ⟨some 2, none, none⟩, sheet := none, address := some "B:B" }]

theorem commonCells_cornerOperands : commonCells cornerOperands = {(3, 2)} := by
  ext ⟨row, col⟩
  simp only [commonCells, cornerOperands, List.forall_mem_cons, Reference.cells, coordinatesBetween, Set.mem_ofPred_eq,
    Set.mem_prod, Set.mem_uIcc, Set.mem_univ, Set.mem_singleton_iff, Prod.mk.injEq]
  constructor
  · rintro ⟨⟨hrow, hcol⟩, ⟨hrow', -⟩, ⟨-, hcol'⟩, -⟩
    omega
  · rintro ⟨rfl, rfl⟩
    simp

theorem intersection_exact_corner : cornerOperands ≠ [] ∧ (∀ ref ∈ cornerOperands, ref.writable = true) ∧
    OnOneSheet cornerOperands ∧ ∃ common, intersection (cornerOperands.map .reference) = .ok common ∧
      common.sheet = none ∧ common.Unaddressed ∧ common.cells = {(3, 2)} ∧ common.IsCell := by
  have hne : cornerOperands ≠ [] := by simp [cornerOperands]
  have hw : ∀ ref ∈ cornerOperands, ref.writable = true := by decide +kernel
  have hs : OnOneSheet cornerOperands := by
    intro ref href other hother
    simp only [cornerOperands, List.mem_cons, List.not_mem_nil, or_false] at href hother
    rcases href with rfl | rfl | rfl <;> rcases hother with rfl | rfl | rfl <;> rfl
  have hc : commonCells cornerOperands ≠ ∅ := by simp [commonCells_cornerOperands]
  obtain ⟨common, hcommon, hsheet, hbare, hcells, hcell, -⟩ := (intersection_exact cornerOperands hne hw).2 hs hc
  rw [commonCells_cornerOperands] at hcells hcell
  exact ⟨hne, hw, hs, common, hcommon, hsheet _ List.mem_cons_self, hbare, hcells, hcell.mpr ⟨_, rfl⟩⟩

end GridCalc
