import GridCalc.Proofs.Operator.Rectangular
import GridCalc.Proofs.Reference.Enclosure
import GridCalc.Proofs.Reference.Parsing
import GridCalc.Proofs.Workbook.Coverage

/-!
# References inside the limits

A box lies *inside* the limits of a reader if its ends do and it lies on a worksheet that is used inside the limits only
(`Box.Inside`). Intersections and spans stay inside (`endsIn_intersection`, `exists_span`). What lies inside is read as
a rectangular value, unless one of the cells of its worksheet cannot be read; then it fails as that cell does
(`SheetReader.endsIn_read`).
-/

namespace GridCalc

/-! ## Contents -/

/-- A decimal other than a signaling NaN, a rich text whose integers can be written, or any other content. -/
def Content.Readable : Content → Prop
  | decimal d => d ≠ .nan true
  | rich parts => ∀ n, RichPart.int n ∈ parts → Number.intWritable n = true
  | _ => True

theorem RichPart.exists_read {part : RichPart} (h : ∀ n, part = .int n → Number.intWritable n = true) :
    ∃ s, part.read = .ok s := by
  cases part with
  | text s => exact ⟨s, rfl⟩
  | int n => exact ⟨Number.intText n, by simp [read, h n rfl]⟩

theorem RichPart.read_of_not_writable {n : Int} (h : Number.intWritable n = false) :
    (RichPart.int n).read = .error (.invalid .tooManyDigits) := by
  simp [read, h]

theorem Content.Readable.exists_read {content : Content} (h : content.Readable) : ∃ v, content.read = .ok v := by
  cases content with
  | empty | bool b | number n | text s | date d | dateTime d t | time t | duration d => exact ⟨_, rfl⟩
  | decimal d =>
    cases d with
    | finite negative digits exponent => exact ⟨_, rfl⟩
    | infinite negative => exact ⟨_, rfl⟩
    | nan signaling =>
      cases signaling with
      | false => exact ⟨_, rfl⟩
      | true => exact absurd rfl h
  | rich parts =>
    obtain ⟨texts, htexts⟩ := exists_mapM_of_forall fun (part : RichPart) (hpart : part ∈ parts) =>
      RichPart.exists_read fun n hn => h n (hn ▸ hpart)
    exact ⟨_, by rw [read, htexts]; rfl⟩
  | arrayFormula text => cases text <;> exact ⟨_, rfl⟩

/-! ## Worksheets -/

/-- The worksheet is used inside the limits only. -/
structure Worksheet.Fits (sheet : Worksheet) (reader : SheetReader) : Prop where
  rows : sheet.lastRow ≤ reader.maxRow
  cols : sheet.lastCol ≤ reader.maxCol

/-- The fault is what reading some cell of the worksheet fails with. -/
def Worksheet.Fails (sheet : Worksheet) (fault : Fault) : Prop :=
  ∃ position content, sheet.get? position = some content ∧ content.read = .error fault

theorem Worksheet.fails_of_readCell {sheet : Worksheet} {row col : Int} {fault : Fault}
    (h : sheet.readCell row col = .error fault) : sheet.Fails fault := by
  obtain ⟨content, hcontent, hread⟩ := readCell_eq_error_iff.mp h
  exact ⟨(row, col), content, hcontent, hread⟩

theorem Worksheet.not_fails {sheet : Worksheet} {fault : Fault}
    (h : ∀ position content, sheet.get? position = some content → content.Readable) : ¬sheet.Fails fault := by
  rintro ⟨position, content, hcontent, hfault⟩
  obtain ⟨v, hv⟩ := (h position content hcontent).exists_read
  cases hv.symm.trans hfault

/-- References to the sheet are read from a worksheet that is used inside the limits only, and all faults of its cells
are of one kind. -/
def SheetReader.Admits (reader : SheetReader) (E : Fault → Prop) (title : Option String) : Prop :=
  ∃ sheet, reader.sheetOf title = .ok (.worksheet sheet) ∧ sheet.Fits reader ∧ ∀ fault, sheet.Fails fault → E fault

/-! ## Boxes -/

namespace Axis

/-- Unbounded, or between two ends in their order that lie from 1 up to the limit. -/
def Within (axis : Axis) (limit : Int) : Prop :=
  match axis with
  | unbounded => True
  | between low high => 1 ≤ low ∧ low ≤ high ∧ high ≤ limit
  | atLeast _ | atMost _ => False

instance (axis : Axis) (limit : Int) : Decidable (axis.Within limit) :=
  match axis with
  | unbounded => isTrue trivial
  | between low high => inferInstanceAs (Decidable (1 ≤ low ∧ low ≤ high ∧ high ≤ limit))
  | atLeast _ | atMost _ => isFalse id

variable {a b : Axis} {limit : Int}

theorem Within.ordered (ha : a.Within limit) : a.Ordered := by
  cases a with
  | unbounded => exact trivial
  | between low high => exact ha.2.1
  | atLeast low | atMost high => exact ha.elim

theorem Within.narrow (ha : a.Within limit) (hb : b.Within limit) (h : a.overlaps b = true) :
    (a.narrow b).Within limit := by
  rcases a with _ | ⟨low, high⟩ | low | high <;> rcases b with _ | ⟨low', high'⟩ | low' | high' <;>
    simp only [Within] at ha hb
  · exact trivial
  · exact hb
  · exact ha
  · simp only [overlaps, Bool.not_eq_true', Bool.or_eq_false_iff, decide_eq_false_iff_not] at h
    simp only [Axis.narrow, Within]
    omega

theorem Within.widen (ha : a.Within limit) (hb : b.Within limit) : (a.widen b).Within limit := by
  rcases a with _ | ⟨low, high⟩ | low | high <;> rcases b with _ | ⟨low', high'⟩ | low' | high' <;>
    simp only [Within] at ha hb
  · exact trivial
  · exact trivial
  · exact trivial
  · simp only [Axis.widen, Within]
    omega

/-- An axis inside the limit is read inside the limit, an unbounded one as far as the sheet is used. -/
theorem Within.clamp {used : Int} (ha : a.Within limit) (hpos : 1 ≤ used) (hused : used ≤ limit) :
    1 ≤ (a.clamp used).1 ∧ (a.clamp used).1 ≤ (a.clamp used).2 ∧ (a.clamp used).2 ≤ limit := by
  cases a with
  | unbounded => exact ⟨le_refl 1, hpos, hused⟩
  | between low high => exact ha
  | atLeast low | atMost high => exact ha.elim

theorem ofEnds_ends (ha : a.Ordered) : ofEnds a.low? a.high? = a := by
  rcases a with _ | ⟨low, high⟩ | low | high <;> simp only [Ordered] at ha
  · rfl
  · simp [low?, high?, ofEnds, ha]

end Axis

namespace Box

/-- The ends of the box can be written and lie inside the limits, and so does all that is used of its sheet, whose cells
have faults of one kind. -/
structure Inside (b : Box) (reader : SheetReader) (E : Fault → Prop) : Prop where
  rows : b.rows.Within reader.maxRow
  cols : b.cols.Within reader.maxCol
  writable : b.writable = true
  sheet : reader.Admits E b.sheet

variable {b c : Box} {reader : SheetReader} {E : Fault → Prop}

theorem Inside.ordered (hb : b.Inside reader E) : b.Ordered := ⟨hb.rows.ordered, hb.cols.ordered⟩

theorem Inside.common (hb : b.Inside reader E) (hc : c.Inside reader E) (h : b.meets c = true) :
    (b.common c).Inside reader E := by
  simp only [meets, Bool.and_eq_true] at h
  exact ⟨hb.rows.narrow hc.rows h.1.2, hb.cols.narrow hc.cols h.2, writable_common hb.writable hc.writable, hb.sheet⟩

theorem Inside.span (hb : b.Inside reader E) (hc : c.Inside reader E) (hcurrent : reader.Admits E none) :
    (b.span c).Inside reader E :=
  ⟨hb.rows.widen hc.rows, hb.cols.widen hc.cols, writable_span hb.writable hc.writable, hcurrent⟩

/-- The running box of an intersection stays inside, unless the boxes are disjoint. -/
theorem endsIn_foldlM_intersect (rest : List Box) : ∀ {b : Box}, b.Inside reader E →
    (∀ c ∈ rest, c.Inside reader E) → EndsIn (Inside · reader E) Fault.IsFormula (rest.foldlM intersect b) := by
  induction rest with
  | nil => exact fun hb _ => hb
  | cons c rest ih =>
    intro b hb hrest
    obtain ⟨hc, hrest⟩ := List.forall_mem_cons.mp hrest
    rw [List.foldlM_cons]
    cases hmeets : b.meets c with
    | false =>
      rw [intersect_of_not_meets hb.writable hc.writable hmeets]
      exact ⟨_, rfl⟩
    | true =>
      rw [intersect_of_meets hmeets, ok_bind]
      exact ih (hb.common hc hmeets) hrest

theorem inside_foldl_span (hcurrent : reader.Admits E none) (rest : List Box) : ∀ {b : Box}, b.Inside reader E →
    (∀ c ∈ rest, c.Inside reader E) → (rest.foldl Box.span b).Inside reader E := by
  induction rest with
  | nil => exact fun hb _ => hb
  | cons c rest ih =>
    intro b hb hrest
    obtain ⟨hc, hrest⟩ := List.forall_mem_cons.mp hrest
    exact ih (hb.span hc hcurrent) hrest

theorem box_toRange (hb : b.Ordered) : b.toRange.box = b := by
  simp [toRange, Reference.box, Axis.ofEnds_ends hb.rows, Axis.ofEnds_ends hb.cols]

theorem box_toReference (hb : b.Ordered) : b.toReference.box = b :=
  b.toReference.ordered_box.ext hb (by rw [Reference.sheet_box, sheet_toReference])
    (by rw [Reference.cells_box, cells_toReference hb])

end Box

/-! ## References -/

section

variable {reader : SheetReader} {E : Fault → Prop} {refs : List Reference}

theorem endsIn_intersection (hne : refs ≠ []) (hrefs : ∀ ref ∈ refs, ref.box.Inside reader E) :
    EndsIn (fun ref => ref.box.Inside reader E) Fault.IsFormula (intersection (refs.map .reference)) := by
  obtain ⟨ref, rest, rfl⟩ := List.exists_cons_of_ne_nil hne
  obtain ⟨href, hrest⟩ := List.forall_mem_cons.mp hrefs
  rw [intersection_cons]
  refine (Box.endsIn_foldlM_intersect _ href (List.forall_mem_map.mpr hrest)).map fun b hb => ?_
  rwa [Box.box_toReference hb.ordered]

theorem exists_span (hcurrent : reader.Admits E none) (hne : refs ≠ [])
    (hrefs : ∀ ref ∈ refs, ref.box.Inside reader E) :
    ∃ ref, span (refs.map .reference) = .ok ref ∧ ref.box.Inside reader E := by
  obtain ⟨ref, rest, rfl⟩ := List.exists_cons_of_ne_nil hne
  obtain ⟨href, hrest⟩ := List.forall_mem_cons.mp hrefs
  have hbox : ({ ref.box with sheet := none } : Box).Inside reader E :=
    ⟨href.rows, href.cols, href.writable, hcurrent⟩
  have hinside := Box.inside_foldl_span hcurrent _ hbox (List.forall_mem_map.mpr hrest)
  exact ⟨_, span_cons ref rest, by rwa [Box.box_toRange hinside.ordered]⟩

end

namespace SheetReader

variable {reader : SheetReader}

theorem rectangular_of_read {ref : Reference} {v : Value} (h : reader.read ref = .ok v) : v.Rectangular := by
  cases ref with
  | cell r =>
    obtain ⟨sheet, -, -, hread⟩ := reader.read_cell_eq_ok_iff.mp h
    exact .scalar (Worksheet.isScalar_of_readCell hread)
  | range r =>
    obtain ⟨sheet, grid, -, -, hread, rfl⟩ := reader.exists_grid_of_read h
    exact .grid (Worksheet.isGrid_of_readRows hread).1.width fun row hrow x hx =>
      Value.plain_of_isScalar (Worksheet.isScalar_of_readRows hread row hrow x hx)

/-- What lies inside the limits is read as a cell, or as rows of one width, or it fails as a cell of its worksheet. -/
theorem endsIn_read {E : Fault → Prop} (hnamed : reader.maxCol ≤ Column.lastNamed) {ref : Reference}
    (h : ref.box.Inside reader E) : EndsIn Value.Rectangular E (reader.read ref) := by
  obtain ⟨hrows, hcols, -, sheet, hsheet, hfits, hfaults⟩ := h
  rw [Reference.sheet_box] at hsheet
  cases hread : reader.read ref with
  | ok v => exact rectangular_of_read hread
  | error fault =>
    have hrow : 1 ≤ (ref.rowsOn sheet).1 ∧ (ref.rowsOn sheet).1 ≤ (ref.rowsOn sheet).2 ∧
        (ref.rowsOn sheet).2 ≤ reader.maxRow := hrows.clamp sheet.one_le_lastRow hfits.rows
    have hcol : 1 ≤ (ref.colsOn sheet).1 ∧ (ref.colsOn sheet).1 ≤ (ref.colsOn sheet).2 ∧
        (ref.colsOn sheet).2 ≤ reader.maxCol := hcols.clamp sheet.one_le_lastCol hfits.cols
    obtain ⟨row, col, -, hcell⟩ :=
      exists_cell_of_read_error hnamed hsheet ⟨hrow.1, hrow.2.2⟩ ⟨hcol.1, hcol.2.2⟩ hread
    exact hfaults fault (Worksheet.fails_of_readCell hcell)

end SheetReader

end GridCalc
