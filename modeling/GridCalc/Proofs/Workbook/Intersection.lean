import GridCalc.Proofs.Workbook.Inside

/-!
# Reading an intersection

An open axis is unbounded where references intersect, and ends with the used cells where a reference is read. So the
common part of two references may cover cells that neither of them covers on the worksheet; such a cell lies beyond the
used ones (`Axis.Within.mem_clamp_of_narrow`) and is empty.

Main statement: `SheetReader.read_intersection`. The common part of two references that can be read can be read as well,
and shows what the first of them shows.
-/

namespace GridCalc

/-! ## Common axes on a worksheet -/

namespace Axis

variable {a b : Axis} {limit used n : Int}

/-- The common part of two axes inside a limit ends inside it on a worksheet, if the first axis does. -/
theorem Within.clamp_narrow (ha : a.Within limit) (hb : b.Within limit) (h : a.overlaps b = true)
    (hclamp : (a.clamp used).2 ≤ limit) :
    1 ≤ ((a.narrow b).clamp used).1 ∧ ((a.narrow b).clamp used).2 ≤ limit := by
  have hcommon := ha.narrow hb h
  rcases a with _ | ⟨low, high⟩ | low | high <;> simp only [Within] at ha
  · rcases b with _ | ⟨low', high'⟩ | low' | high' <;> simp only [Within] at hb
    · exact ⟨le_refl 1, hclamp⟩
    · exact ⟨hb.1, hb.2.2⟩
  · rcases b with _ | ⟨low', high'⟩ | low' | high' <;> simp only [Within] at hb
    · exact ⟨ha.1, ha.2.2⟩
    · exact ⟨hcommon.1, hcommon.2.2⟩

/-- On a worksheet, the common part of two axes leaves the first one only beyond the used coordinates. -/
theorem Within.mem_clamp_of_narrow (ha : a.Within limit) (hb : b.Within limit) (hn : 1 ≤ n)
    (hlow : ((a.narrow b).clamp used).1 ≤ n) (hhigh : n ≤ ((a.narrow b).clamp used).2) :
    ((a.clamp used).1 ≤ n ∧ n ≤ (a.clamp used).2) ∨ used < n := by
  rcases a with _ | ⟨low, high⟩ | low | high <;> simp only [Within] at ha
  · simp only [Axis.clamp]
    omega
  · rcases b with _ | ⟨low', high'⟩ | low' | high' <;> simp only [Within] at hb
    · exact Or.inl ⟨hlow, hhigh⟩
    · simp only [Axis.narrow, Axis.clamp] at hlow hhigh ⊢
      omega

end Axis

/-! ## Boxes of references that were read -/

theorem Axis.within_ofEnds {s t : Option Int} {limit used : Int} (hs : ∀ n ∈ s, 1 ≤ n) (ht : ∀ n ∈ t, 1 ≤ n)
    (hlimit : ((ofEnds s t).clamp used).2 ≤ limit) : (ofEnds s t).Within limit := by
  rcases s with _ | a
  · exact trivial
  rcases t with _ | b
  · exact trivial
  have ha : 1 ≤ a := hs a rfl
  have hb : 1 ≤ b := ht b rfl
  simp only [ofEnds, clamp] at hlimit
  simp only [ofEnds, Within]
  omega

/-- References that intersect in a reference meet, and it has their common box. -/
theorem box_of_intersection {r₁ r₂ common : Reference}
    (h : intersection [.reference r₁, .reference r₂] = .ok common) :
    r₁.box.meets r₂.box = true ∧ common.box = r₁.box.common r₂.box := by
  have hcons := intersection_cons r₁ [r₂]
  simp only [List.map_cons, List.map_nil] at hcons
  rw [hcons, List.foldlM_cons] at h
  obtain ⟨b, hb, rfl⟩ := map_eq_ok_iff.mp h
  obtain ⟨c, hc, hb⟩ := bind_eq_ok_iff.mp hb
  obtain ⟨hmeets, rfl⟩ := Box.intersect_eq_ok_iff.mp hc
  cases hb
  exact ⟨hmeets, Box.box_toReference (r₁.ordered_box.common r₂.ordered_box hmeets)⟩

namespace SheetReader

variable {reader : SheetReader} {ref : Reference} {sheet : Worksheet} {v : Value}

/-- The axes of a reference lie inside the limits, and end there on a worksheet. -/
structure Bounds (reader : SheetReader) (ref : Reference) (sheet : Worksheet) : Prop where
  rows : ref.box.rows.Within reader.maxRow
  cols : ref.box.cols.Within reader.maxCol
  lastRow : (ref.rowsOn sheet).2 ≤ reader.maxRow
  lastCol : (ref.colsOn sheet).2 ≤ reader.maxCol

/-- The limits bound a reference with positive coordinates that was read. -/
theorem bounds_of_read (hpos : ∀ n ∈ ref.coordinates, 1 ≤ n) (h : reader.read ref = .ok v)
    (hsheet : reader.sheetOf ref.sheet = .ok (.worksheet sheet)) : reader.Bounds ref sheet := by
  obtain ⟨hin, -, -⟩ := rows_of_read h hsheet
  simp only [inBounds, Bool.and_eq_true, decide_eq_true_eq] at hin
  obtain ⟨⟨-, hrow⟩, -, hcol⟩ := hin
  refine ⟨?_, ?_, hrow, hcol⟩
  · cases ref with
    | cell r => exact ⟨hpos r.row (by simp [Reference.coordinates]), le_refl _, hrow⟩
    | range r =>
      refine Axis.within_ofEnds (fun n hn => hpos n ?_) (fun n hn => hpos n ?_) hrow
      · exact List.mem_filterMap.mpr ⟨r.first.row, by simp, hn⟩
      · exact List.mem_filterMap.mpr ⟨r.last.row, by simp, hn⟩
  · cases ref with
    | cell r => exact ⟨hpos r.col (by simp [Reference.coordinates]), le_refl _, hcol⟩
    | range r =>
      refine Axis.within_ofEnds (fun n hn => hpos n ?_) (fun n hn => hpos n ?_) hcol
      · exact List.mem_filterMap.mpr ⟨r.first.col, by simp, hn⟩
      · exact List.mem_filterMap.mpr ⟨r.last.col, by simp, hn⟩

section

variable {r₁ r₂ common : Reference} (h₁ : reader.Bounds r₁ sheet) (h₂ : reader.Bounds r₂ sheet)
  (hcommon : intersection [.reference r₁, .reference r₂] = .ok common)
include h₁ h₂ hcommon

/-- The common part of references lies inside the limits that bound them. -/
theorem limits_of_intersection : (1 ≤ (common.rowsOn sheet).1 ∧ (common.rowsOn sheet).2 ≤ reader.maxRow) ∧
    1 ≤ (common.colsOn sheet).1 ∧ (common.colsOn sheet).2 ≤ reader.maxCol := by
  obtain ⟨hmeets, hbox⟩ := box_of_intersection hcommon
  simp only [Box.meets, Bool.and_eq_true] at hmeets
  constructor
  · rw [Reference.rowsOn, hbox]
    exact h₁.rows.clamp_narrow h₂.rows hmeets.1.2 h₁.lastRow
  · rw [Reference.colsOn, hbox]
    exact h₁.cols.clamp_narrow h₂.cols hmeets.2 h₁.lastCol

/-- A cell of the common part is covered by the first reference, or it lies beyond the used ones. -/
theorem covers_or_unused {row col : Int} (hcovers : common.Covers sheet row col) :
    r₁.Covers sheet row col ∨ sheet.lastRow < row ∨ sheet.lastCol < col := by
  obtain ⟨hrow, hcol⟩ := limits_of_intersection h₁ h₂ hcommon
  obtain ⟨-, hbox⟩ := box_of_intersection hcommon
  obtain ⟨⟨hlow, hhigh⟩, hleft, hright⟩ := hcovers
  rw [Reference.rowsOn, hbox] at hrow hlow hhigh
  rw [Reference.colsOn, hbox] at hcol hleft hright
  rcases h₁.rows.mem_clamp_of_narrow h₂.rows (by omega) hlow hhigh with hrow' | hrow'
  · rcases h₁.cols.mem_clamp_of_narrow h₂.cols (by omega) hleft hright with hcol' | hcol'
    · exact Or.inl ⟨hrow', hcol'⟩
    · exact Or.inr (Or.inr hcol')
  · exact Or.inr (Or.inl hrow')

end

/-- If two references with positive coordinates can be read and have a common part, it can be read as well. It shows
something at exactly the cells that it covers: what the first reference shows there, or nothing beyond it. -/
theorem read_intersection (hnamed : reader.maxCol ≤ Column.lastNamed) {r₁ r₂ common : Reference} {v₁ v₂ : Value}
    (hpos₁ : ∀ n ∈ r₁.coordinates, 1 ≤ n) (hpos₂ : ∀ n ∈ r₂.coordinates, 1 ≤ n) (h₁ : reader.read r₁ = .ok v₁)
    (h₂ : reader.read r₂ = .ok v₂) (hcommon : intersection [.reference r₁, .reference r₂] = .ok common) :
    ∃ sheet v, reader.sheetOf r₁.sheet = .ok (.worksheet sheet) ∧ reader.read common = .ok v ∧
      (∀ row col, common.Covers sheet row col ↔ ∃ x, common.shown? sheet v row col = some x) ∧
      ∀ row col x, common.shown? sheet v row col = some x → x = (r₁.shown? sheet v₁ row col).getD .empty := by
  obtain ⟨sheet, hsheet⟩ := exists_worksheet_of_read h₁
  have hsheet₁ : r₁.sheet = common.sheet := sheet_of_intersection hcommon List.mem_cons_self
  have hsheet₂ : r₂.sheet = common.sheet :=
    sheet_of_intersection hcommon (List.mem_cons_of_mem _ List.mem_cons_self)
  have hsheet' : reader.sheetOf common.sheet = .ok (.worksheet sheet) := hsheet₁ ▸ hsheet
  have hbounds₁ := bounds_of_read hpos₁ h₁ hsheet
  have hbounds₂ := bounds_of_read hpos₂ h₂ (hsheet₂ ▸ hsheet')
  obtain ⟨hrows, hcols⟩ := limits_of_intersection hbounds₁ hbounds₂ hcommon
  have hcell : ∀ row col, common.Covers sheet row col →
      sheet.readCell row col = .ok ((r₁.shown? sheet v₁ row col).getD .empty) := by
    intro row col hcovers
    by_cases hfirst : r₁.Covers sheet row col
    · obtain ⟨x, hx, hread⟩ := shown?_of_covers h₁ hsheet hfirst
      rw [hx, hread]
      rfl
    · have hunused := (covers_or_unused hbounds₁ hbounds₂ hcommon hcovers).resolve_left hfirst
      rw [shown?_of_not_covers h₁ hsheet hfirst, Worksheet.readCell_of_unused hunused]
      rfl
  obtain ⟨v, hv⟩ := exists_read_of_cells hnamed hsheet' hrows hcols fun row col hcovers =>
    ⟨_, hcell row col hcovers⟩
  refine ⟨sheet, v, hsheet, hv, fun row col => covers_iff_shown? hv hsheet', fun row col x hx => ?_⟩
  have hcovers : common.Covers sheet row col := (covers_iff_shown? hv hsheet').mpr ⟨x, hx⟩
  obtain ⟨y, hy, hread⟩ := shown?_of_covers hv hsheet' hcovers
  rw [hcell row col hcovers] at hread
  cases hread
  rw [hx] at hy
  exact Option.some.inj hy

/-- A sheet with one text in `B2`, so that its second row is the last that is used. -/
def shortSheet : Worksheet := ⟨"Data", [((2, 2), .text "low")]⟩

def shortReader : SheetReader where
  workbook := { sheets := [.worksheet shortSheet], active := 0 }

/-- The columns `A:B`. -/
def firstColumns : Reference :=
  .range ⟨⟨some 1, none, none⟩, ⟨some 2, none, none⟩, none, none⟩

/-- The block `C3:B2`. -/
def lowBlock : Reference :=
  .range ⟨⟨some 3, some 3, none⟩, ⟨some 2, some 2, none⟩, none, none⟩

/-- The columns have no third row to show, and their common part with the block shows nothing there. -/
theorem read_intersection_below : shortReader.maxCol ≤ Column.lastNamed ∧
    (∀ n ∈ firstColumns.coordinates, 1 ≤ n) ∧ (∀ n ∈ lowBlock.coordinates, 1 ≤ n) ∧
    shortReader.read firstColumns = .ok (Rows.toValue [[.empty, .empty], [.empty, .text "low"]]) ∧
    shortReader.read lowBlock = .ok (Rows.toValue [[.text "low", .empty], [.empty, .empty]]) ∧
    ∃ common v, intersection [.reference firstColumns, .reference lowBlock] = .ok common ∧
      shortReader.read common = .ok v ∧ v = Rows.toValue [[.text "low"], [.empty]] ∧
      common.shown? shortSheet v 3 2 = some .empty ∧
      firstColumns.shown? shortSheet (Rows.toValue [[.empty, .empty], [.empty, .text "low"]]) 3 2 = none := by
  have hnamed : shortReader.maxCol ≤ Column.lastNamed := by decide
  have hpos₁ : ∀ n ∈ firstColumns.coordinates, 1 ≤ n := by decide
  have hpos₂ : ∀ n ∈ lowBlock.coordinates, 1 ≤ n := by decide
  have hcommon : intersection [.reference firstColumns, .reference lowBlock] =
      .ok (.range ⟨⟨some 2, some 2, none⟩, ⟨some 2, some 3, none⟩, none, none⟩) := rfl
  obtain ⟨sheet, v, hsheet, hv, hcovers, hshown⟩ := read_intersection hnamed hpos₁ hpos₂ rfl rfl hcommon
  cases hsheet
  cases hv
  obtain ⟨x, hx⟩ := (hcovers 3 2).mp (by decide)
  have hbelow : x = .empty := hshown 3 2 x hx
  subst hbelow
  exact ⟨hnamed, hpos₁, hpos₂, rfl, rfl, _, _, hcommon, rfl, rfl, hx, rfl⟩

end SheetReader

end GridCalc
