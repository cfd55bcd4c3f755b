import GridCalc.Proofs.Formula.Standard
import GridCalc.Proofs.Workbook.Inside

/-!
# Formulas that always have a value

A formula is *regular* if its literals can be read, the rows of its arrays have one length, its addresses and what
becomes of them lie inside the limits, and its operators are signs, comparisons or arithmetic ones.

Main statement: `evaluate_progress`. Over a reader whose current sheet fits, a regular formula has a value, which is a
scalar or a list of rows of one width, or it fails as one of the cells does that it may read: a decimal that is a
signaling NaN and a rich text with an integer that cannot be written have no value
(`evaluate_address_of_unreadable`). The invariant of the induction is that a node raises a formula error or stands for
something of which a rectangular value is read, unless a cell fails (`Engine.Progresses`).
-/

namespace GridCalc

namespace Formula

/-- An address on the sheet stands in the formula; without a title it is the current sheet. -/
inductive Names (title : Option String) : Formula → Prop
  | address {text : String} : Names title (.address text title)
  | array {rows : List (List Formula)} {row : List Formula} {f : Formula} :
      row ∈ rows → f ∈ row → Names title f → Names title (.array rows)
  | intersection {operands : List Formula} {f : Formula} :
      f ∈ operands → Names title f → Names title (.intersection operands)
  | union {operands : List Formula} {f : Formula} : f ∈ operands → Names title f → Names title (.union operands)
  | span {operands : List Formula} {f : Formula} : f ∈ operands → Names title f → Names title (.span operands)
  | signs {tokens : List String} {operand : Formula} : Names title operand → Names title (.signs tokens operand)
  | percent {operand : Formula} {token : String} : Names title operand → Names title (.percent operand token)
  | left {left : Formula} {token : String} {right : Formula} : Names title left → Names title (.binary left token right)
  | right {left : Formula} {token : String} {right : Formula} :
      Names title right → Names title (.binary left token right)

/-- The worksheet is the current one, or one that an address of the formula is on. -/
def Involves (formula : Formula) (reader : SheetReader) (sheet : Worksheet) : Prop :=
  ∃ title, (title = none ∨ formula.Names title) ∧ reader.sheetOf title = .ok (.worksheet sheet)

/-- All faults of the cells on sheets that the formula names are of one kind. -/
def Excused (formula : Formula) (reader : SheetReader) (E : Fault → Prop) : Prop :=
  ∀ title sheet fault, formula.Names title → reader.sheetOf title = .ok (.worksheet sheet) → sheet.Fails fault → E fault

theorem Excused.of_names {formula part : Formula} {reader : SheetReader} {E : Fault → Prop}
    (h : formula.Excused reader E) (hpart : ∀ title, part.Names title → formula.Names title) : part.Excused reader E :=
  fun title sheet fault hname => h title sheet fault (hpart title hname)

/-- A tree of addresses inside the limits, on worksheets that fit, and of intersections and spans of them. -/
inductive Locatable (reader : SheetReader) : Formula → Prop
  | address {text : String} {sheet : Option String} {ref : Reference} {worksheet : Worksheet} :
      Reference.parse text sheet = .ok ref → reader.sheetOf sheet = .ok (.worksheet worksheet) →
      worksheet.Fits reader → ref.box.rows.Within reader.maxRow → ref.box.cols.Within reader.maxCol →
      Locatable reader (.address text sheet)
  | intersection {operands : List Formula} :
      operands ≠ [] → (∀ f ∈ operands, Locatable reader f) → Locatable reader (.intersection operands)
  | span {operands : List Formula} :
      operands ≠ [] → (∀ f ∈ operands, Locatable reader f) → Locatable reader (.span operands)

/-- A formula of literals, arrays of rows of one length, references, signs, comparisons and arithmetic operators. -/
inductive Regular (reader : SheetReader) : Formula → Prop
  | literal {kind text : String} {v : Value} :
      Literal.value kind text = .ok v → Regular reader (.literal kind text)
  | error {text : String} : Regular reader (.literal "error" text)
  | array {rows : List (List Formula)} {width : Nat} :
      (∀ row ∈ rows, row.length = width) → (∀ row ∈ rows, ∀ f ∈ row, Regular reader f) → Regular reader (.array rows)
  | reference {formula : Formula} : Locatable reader formula → Regular reader formula
  | signs {tokens : List String} {operand : Formula} :
      (∀ token ∈ tokens, isSign token = true) → Regular reader operand → Regular reader (.signs tokens operand)
  | binary {left : Formula} {token : String} {right : Formula} :
      (Relation.ofToken? token).isSome = true ∨ (MathOperator.ofToken? token).isSome = true → Regular reader left →
      Regular reader right → Regular reader (.binary left token right)

end Formula

/-- A reference inside the limits, to a sheet whose cells have faults of one kind. -/
def Value.IsInside (v : Value) (reader : SheetReader) (E : Fault → Prop) : Prop :=
  ∃ ref, v = .reference ref ∧ ref.box.Inside reader E

/-- A formula error, or a fault of one kind. -/
def Fault.IsFormulaOr (E : Fault → Prop) (fault : Fault) : Prop := fault.IsFormula ∨ E fault

/-- A comparison or an arithmetic operator has a family, which is not that of concatenation. -/
theorem exists_infixFamily {token : String}
    (h : (Relation.ofToken? token).isSome = true ∨ (MathOperator.ofToken? token).isSome = true) :
    ∃ family, infixFamily token = .ok family ∧ family ≠ .concatenation := by
  unfold infixFamily
  by_cases hrelation : (Relation.ofToken? token).isSome = true
  · exact ⟨.comparison, if_pos hrelation, by decide⟩
  · have hmath := h.resolve_left hrelation
    have htoken : token ≠ "&" := by
      rintro rfl
      cases hmath
    exact ⟨.arithmetic, by rw [if_neg hrelation, if_neg htoken, if_pos hmath], by decide⟩

namespace Engine

open Run

/-! ## References -/

section

variable {reader : SheetReader} {E : Fault → Prop} {engine : Engine}

theorem endsIn_mapM_inside : ∀ {formulas : List Formula},
    (∀ f ∈ formulas, EndsIn (Value.IsInside · reader E) Fault.IsFormula (engine.result f)) →
    EndsIn (fun vs => ∃ refs : List Reference, vs = refs.map .reference ∧ refs.length = formulas.length ∧
      ∀ ref ∈ refs, ref.box.Inside reader E) Fault.IsFormula (formulas.mapM engine.result)
  | [], _ => ⟨[], rfl, rfl, by simp⟩
  | formula :: rest, h => by
    obtain ⟨hfirst, hrest⟩ := List.forall_mem_cons.mp h
    rw [List.mapM_cons]
    refine hfirst.bind fun v hv => (endsIn_mapM_inside hrest).bind fun vs hvs => ?_
    obtain ⟨ref, rfl, href⟩ := hv
    obtain ⟨refs, rfl, hlength, hrefs⟩ := hvs
    exact ⟨ref :: refs, rfl, congrArg (· + 1) hlength, List.forall_mem_cons.mpr ⟨href, hrefs⟩⟩

theorem ne_nil_of_length_eq {α β : Type} {as : List α} {bs : List β} (h : as.length = bs.length) (hne : bs ≠ []) :
    as ≠ [] := by
  rintro rfl
  exact hne (List.eq_nil_of_length_eq_zero h.symm)

/-- A tree of references inside the limits stands for one of them, or is disjoint. -/
theorem endsIn_result_of_locatable (hcurrent : reader.Admits E none) {formula : Formula}
    (hf : formula.Locatable reader) :
    formula.Excused reader E → EndsIn (Value.IsInside · reader E) Fault.IsFormula (engine.result formula) := by
  induction hf with
  | @address text sheet ref worksheet hparse hsheet hworksheet hrows hcols =>
    intro hexcused
    rw [result_address, hparse]
    refine ⟨ref, rfl, hrows, hcols, Reference.writable_box (Reference.writable_of_parse hparse), worksheet, ?_,
      hworksheet, fun fault => hexcused sheet worksheet fault .address hsheet⟩
    rw [Reference.sheet_box, Reference.sheet_of_parse hparse, hsheet]
  | @intersection operands hne _ ih =>
    intro hexcused
    have hoperands : ∀ f ∈ operands, EndsIn (Value.IsInside · reader E) Fault.IsFormula (engine.result f) :=
      fun f hf => ih f hf (hexcused.of_names fun _ => .intersection hf)
    rw [result_intersection]
    refine (endsIn_mapM_inside hoperands).bind fun vs hvs => ?_
    obtain ⟨refs, rfl, hlength, hrefs⟩ := hvs
    exact (endsIn_intersection (ne_nil_of_length_eq hlength hne) hrefs).map fun ref href => ⟨ref, rfl, href⟩
  | @span operands hne _ ih =>
    intro hexcused
    have hoperands : ∀ f ∈ operands, EndsIn (Value.IsInside · reader E) Fault.IsFormula (engine.result f) :=
      fun f hf => ih f hf (hexcused.of_names fun _ => .span hf)
    rw [result_span]
    refine (endsIn_mapM_inside hoperands).bind fun vs hvs => ?_
    obtain ⟨refs, rfl, hlength, hrefs⟩ := hvs
    obtain ⟨ref, href, hinside⟩ := exists_span hcurrent (ne_nil_of_length_eq hlength hne) hrefs
    rw [href]
    exact ⟨ref, rfl, hinside⟩

end

/-! ## Nodes -/

/-- A rectangular value is read of the value, or reading it ends in a fault of one kind. -/
def Settles (engine : Engine) (E : Fault → Prop) (v : Value) : Prop := EndsIn Value.Rectangular E (engine.resolved v)

/-- The node raises a formula error, or a rectangular value is read of it, unless the evaluation of the node or the
reading ends in a fault of one kind. -/
def Progresses (engine : Engine) (E : Fault → Prop) (formula : Formula) : Prop :=
  EndsIn (engine.Settles E) (Fault.IsFormulaOr E) (engine.result formula)

section

variable {engine : Engine} {E : Fault → Prop}

theorem settles_of_rectangular (engine : Engine) {v : Value} (hv : v.Rectangular) : engine.Settles E v := by
  rw [Settles, engine.resolved_of_plain hv.plain]
  exact hv

theorem Settles.resolved {v : Value} (h : engine.Settles E v) :
    EndsIn Value.Rectangular (Fault.IsFormulaOr E) (engine.resolved v) := h.mono_fault fun _ => Or.inr

theorem Progresses.settled {formula : Formula} (h : engine.Progresses E formula) :
    EndsIn Value.Rectangular (Fault.IsFormulaOr E) (engine.settled formula) := h.bind fun _ hv => hv.resolved

/-- The rows of an array, once their entries are read. -/
theorem exists_grid_of_forall₂ {rows : List (List Formula)} {items : List Value} {width : Nat}
    (hwidth : ∀ row ∈ rows, row.length = width)
    (h : List.Forall₂ (fun row item => ∃ entries : List Value, item = .list entries ∧ entries.length = row.length ∧
      ∀ x ∈ entries, x.Plain) rows items) :
    ∃ grid : Rows, Value.list items = grid.toValue ∧ (∀ row ∈ grid, row.length = width) ∧ grid.Plain := by
  induction h with
  | nil => exact ⟨[], rfl, by simp, by simp [Rows.Plain]⟩
  | cons hrow _ ih =>
    obtain ⟨hfirst, hrest⟩ := List.forall_mem_cons.mp hwidth
    obtain ⟨entries, rfl, hlength, hplain⟩ := hrow
    obtain ⟨grid, hgrid, hgridWidth, hgridPlain⟩ := ih hrest
    cases hgrid
    exact ⟨entries :: grid, rfl, List.forall_mem_cons.mpr ⟨hlength.trans hfirst, hgridWidth⟩,
      List.forall_mem_cons.mpr ⟨hplain, hgridPlain⟩⟩

theorem progresses_array {rows : List (List Formula)} {width : Nat} (hwidth : ∀ row ∈ rows, row.length = width)
    (h : ∀ row ∈ rows, ∀ f ∈ row, engine.Progresses E f) : engine.Progresses E (.array rows) := by
  unfold Progresses
  rw [result_array]
  have hrow : ∀ row ∈ rows, EndsIn (fun item => ∃ entries : List Value, item = .list entries ∧
      entries.length = row.length ∧ ∀ x ∈ entries, x.Plain) (Fault.IsFormulaOr E)
        (Value.list <$> row.mapM engine.settled) := by
    intro row hrow
    refine (EndsIn.forall_mapM fun f hf => (h row hrow f hf).settled).map fun entries hentries => ?_
    exact ⟨entries, rfl, hentries.1, fun x hx => (hentries.2 x hx).plain⟩
  refine (EndsIn.mapM hrow).map fun items hitems => ?_
  obtain ⟨grid, hgrid, hgridWidth, hplain⟩ := exists_grid_of_forall₂ hwidth hitems
  rw [hgrid]
  exact engine.settles_of_rectangular (.grid hgridWidth hplain)

end

section

variable {lookup : Lookup} {E : Fault → Prop}

theorem progresses_signs {tokens : List String} {operand : Formula} (hsigns : ∀ token ∈ tokens, isSign token = true)
    (h : (standard lookup).Progresses E operand) : (standard lookup).Progresses E (.signs tokens operand) := by
  have hfind : tokens.find? (!isSign ·) = none :=
    List.find?_eq_none.mpr fun token htoken => by simp [hsigns token htoken]
  unfold Progresses
  rw [result_signs]
  refine EndsIn.bind h fun v hv => ?_
  rw [outcome_applySigns, hfind]
  refine hv.resolved.bind fun x hx => ?_
  obtain ⟨w, hw, hrectangular⟩ := Call.exists_signs hsigns hx
  have happlied : (standard lookup).applied (.signs tokens (.ofValue x)) = .ok w := hw
  rw [happlied]
  exact settles_of_rectangular _ hrectangular

theorem progresses_binary {left : Formula} {token : String} {right : Formula}
    (htoken : (Relation.ofToken? token).isSome = true ∨ (MathOperator.ofToken? token).isSome = true)
    (hl : (standard lookup).Progresses E left) (hr : (standard lookup).Progresses E right) :
    (standard lookup).Progresses E (.binary left token right) := by
  obtain ⟨family, hfamily, hne⟩ := exists_infixFamily htoken
  unfold Progresses
  rw [result_binary]
  refine EndsIn.bind hl fun v hv => EndsIn.bind hr fun w hw => ?_
  rw [outcome_applyInfix]
  refine hv.resolved.bind fun x hx => hw.resolved.bind fun y hy => ?_
  obtain ⟨z, hz, hrectangular⟩ := Call.exists_between (InfixFamily.knows_of_infixFamily hfamily) hne hx hy
  have happlied : (standard lookup).applied (.between family (.ofValue x) token (.ofValue y)) = .ok z := hz
  rw [hfamily, ok_bind, happlied]
  exact settles_of_rectangular _ hrectangular

end

/-! ## Formulas -/

theorem progresses_of_regular {reader : SheetReader} {E : Fault → Prop} (hnamed : reader.maxCol ≤ Column.lastNamed)
    (hcurrent : reader.Admits E none) {formula : Formula} (hf : formula.Regular reader) :
    formula.Excused reader E → (standard reader.read).Progresses E formula := by
  -- the parts of a formula name no other sheets, so that they are excused with it
  induction hf with
  | literal hv =>
    intro _
    unfold Progresses
    rw [result_literal, hv]
    exact settles_of_rectangular _ (.scalar (isScalar_of_literal hv))
  | error =>
    intro _
    unfold Progresses
    rw [result_literal]
    exact Or.inl ⟨_, rfl⟩
  | array hwidth _ ih =>
    intro hexcused
    exact progresses_array hwidth fun row hrow f hf => ih row hrow f hf (hexcused.of_names fun _ => .array hrow hf)
  | @reference formula hlocatable =>
    intro hexcused
    have hresult : EndsIn (Value.IsInside · reader E) Fault.IsFormula ((standard reader.read).result formula) :=
      endsIn_result_of_locatable hcurrent hlocatable hexcused
    refine (hresult.mono fun v hv => ?_).mono_fault fun _ => Or.inl
    obtain ⟨ref, rfl, hinside⟩ := hv
    exact SheetReader.endsIn_read hnamed hinside
  | signs hsigns _ ih => exact fun hexcused => progresses_signs hsigns (ih (hexcused.of_names fun _ => .signs))
  | binary htoken _ _ ihl ihr =>
    intro hexcused
    exact progresses_binary htoken (ihl (hexcused.of_names fun _ => .left)) (ihr (hexcused.of_names fun _ => .right))

/-- The value of a formula that progresses is rectangular, unless its evaluation ends in a fault of the kind. -/
theorem Progresses.endsIn_evaluate {engine : Engine} {E : Fault → Prop} {formula : Formula}
    (h : engine.Progresses E formula) : EndsIn Value.Rectangular E (engine.evaluate formula).1 := by
  have hsettled := h.settled
  rw [evaluate_fst]
  cases hresult : engine.settled formula with
  | ok v =>
    rw [hresult] at hsettled
    exact hsettled
  | error fault =>
    rw [hresult] at hsettled
    cases fault with
    | formula cause => exact .scalar trivial
    | _ => exact hsettled.resolve_left fun ⟨cause, hcause⟩ => by cases hcause

/-- A regular formula has a value, which is a scalar or a list of rows of one width, or its evaluation ends in the fault
of a cell that cannot be read, on the current worksheet or on one that an address of the formula is on. If all the cells
of these worksheets can be read, it has a value. -/
theorem evaluate_progress (reader : SheetReader) (hnamed : reader.maxCol ≤ Column.lastNamed) {current : Worksheet}
    (hcurrent : reader.sheetOf none = .ok (.worksheet current)) (hfits : current.Fits reader) {formula : Formula}
    (hf : formula.Regular reader) :
    EndsIn Value.Rectangular (fun fault => ∃ sheet, formula.Involves reader sheet ∧ sheet.Fails fault)
      ((standard reader.read).evaluate formula).1 ∧
    ((∀ sheet, formula.Involves reader sheet →
        ∀ position content, sheet.get? position = some content → content.Readable) →
      ∃ v, ((standard reader.read).evaluate formula).1 = .ok v ∧ v.Rectangular) := by
  have hadmits : reader.Admits (fun fault => ∃ sheet, formula.Involves reader sheet ∧ sheet.Fails fault) none :=
    ⟨current, hcurrent, hfits, fun _ hfault => ⟨current, ⟨none, Or.inl rfl, hcurrent⟩, hfault⟩⟩
  have hprogress := progresses_of_regular hnamed hadmits hf fun title sheet _ hname hsheet hfault =>
    ⟨sheet, ⟨title, Or.inr hname, hsheet⟩, hfault⟩
  have hends := hprogress.endsIn_evaluate
  refine ⟨hends, fun hreadable => hends.exists_eq_ok ?_⟩
  rintro fault ⟨sheet, hinvolves, hfault⟩
  exact Worksheet.not_fails (hreadable sheet hinvolves) hfault

/-- A sheet that holds the number 8, a text and a truth value, on a grid of the usual size. -/
def boardSheet : Worksheet := ⟨"Data", [((1, 1), .number (.int 8)), ((1, 2), .text "x"), ((2, 2), .bool true)]⟩

def boardReader : SheetReader where
  workbook := { sheets := [.worksheet boardSheet], active := 0 }

/-- The block `A1:B2` with its signs changed, times the row `{1,2}`. -/
def scaledBoard : Formula :=
  .binary (.signs ["-"] (.span [.address "A1" none, .address "B2" none])) "*"
    (.array [[.literal "number" "1", .literal "number" "2"]])

theorem boardSheet_fits : boardSheet.Fits boardReader := ⟨by decide, by decide⟩

theorem boardSheet_readable {position : CellPosition} {content : Content}
    (h : boardSheet.get? position = some content) : content.Readable := by
  rw [Worksheet.get?, boardSheet] at h
  simp only [List.lookup_cons] at h
  split at h
  · cases h
    exact trivial
  · split at h
    · cases h
      exact trivial
    · split at h
      · cases h
        exact trivial
      · cases h

theorem parse_firstCell (title : Option String) :
    Reference.parse "A1" title = .ok (.cell ⟨1, 1, title, some "A1"⟩) := by rfl

theorem scaledBoard_regular : scaledBoard.Regular boardReader := by
  have hB : Reference.parse "B2" none = .ok (.cell ⟨2, 2, none, some "B2"⟩) := by rfl
  have hspan : Formula.Locatable boardReader (.span [.address "A1" none, .address "B2" none]) := by
    refine .span (by simp) ?_
    simp only [List.forall_mem_cons, List.not_mem_nil, false_imp_iff, implies_true, and_true]
    exact ⟨.address (parse_firstCell none) rfl boardSheet_fits (by decide) (by decide),
      .address hB rfl boardSheet_fits (by decide) (by decide)⟩
  have hrow : Formula.Regular boardReader (.array [[.literal "number" "1", .literal "number" "2"]]) := by
    have hwidth : ∀ row ∈ [[Formula.literal "number" "1", .literal "number" "2"]], row.length = 2 := by simp
    refine .array hwidth ?_
    simp only [List.forall_mem_cons, List.not_mem_nil, false_imp_iff, implies_true, and_true]
    exact ⟨.literal (v := .int 1) (by rfl), .literal (v := .int 2) (by rfl)⟩
  exact .binary (.inr rfl) (.signs (by simp [isSign]) (.reference hspan)) hrow

theorem eq_none_of_names_scaledBoard {title : Option String} (h : scaledBoard.Names title) : title = none := by
  cases h with
  | left h =>
    cases h with
    | signs h =>
      cases h with
      | span hf h =>
        simp only [List.mem_cons, List.not_mem_nil, or_false] at hf
        rcases hf with rfl | rfl
        · cases h
          rfl
        · cases h
          rfl
  | right h =>
    cases h with
    | array hrow hf h =>
      simp only [List.mem_cons, List.not_mem_nil, or_false] at hrow
      subst hrow
      simp only [List.mem_cons, List.not_mem_nil, or_false] at hf
      rcases hf with rfl | rfl <;> cases h

theorem evaluate_progress_board : boardReader.maxCol ≤ Column.lastNamed ∧
    boardReader.sheetOf none = .ok (.worksheet boardSheet) ∧ boardSheet.Fits boardReader ∧
    scaledBoard.Regular boardReader ∧ ∃ v, ((standard boardReader.read).evaluate scaledBoard).1 = .ok v ∧
      v.Rectangular ∧ v = Rows.toValue [[.int (-8), .error .value], [.int 0, .int (-2)]] := by
  have hreadable : ∀ sheet, scaledBoard.Involves boardReader sheet →
      ∀ position content, sheet.get? position = some content → content.Readable := by
    rintro sheet ⟨title, htitle, hsheet⟩ position content hcontent
    obtain rfl : title = none := htitle.elim id eq_none_of_names_scaledBoard
    cases hsheet
    exact boardSheet_readable hcontent
  obtain ⟨v, hv, hrectangular⟩ :=
    (evaluate_progress boardReader (by decide) rfl boardSheet_fits scaledBoard_regular).2 hreadable
  refine ⟨by decide, rfl, boardSheet_fits, scaledBoard_regular, v, hv, hrectangular, ?_⟩
  have hvalue : ((standard boardReader.read).evaluate scaledBoard).1 =
      .ok (Rows.toValue [[.int (-8), .error .value], [.int 0, .int (-2)]]) := by rfl
  exact Except.ok.inj (hv.symm.trans hvalue)

/-- An address fails as the reference does that it stands for. -/
theorem evaluate_address_of_read_error {reader : SheetReader} {text : String} {title : Option String} {ref : Reference}
    {fault : Fault} (hparse : Reference.parse text title = .ok ref) (hread : reader.read ref = .error fault) :
    ((standard reader.read).evaluate (.address text title)).1 = .error fault := by
  have hsettled : (standard reader.read).settled (.address text title) = .error fault :=
    (settled_address _ hparse).trans hread
  rw [evaluate_fst, hsettled]
  cases fault with
  | formula cause => exact absurd ⟨cause, hread⟩ (reader.not_aborts_read ref)
  | _ => rfl

/-- A sheet whose only cell stores a decimal that is no double. -/
def signalingSheet : Worksheet := ⟨"Notes", [((1, 1), .decimal (.nan true))]⟩

def pairReader : SheetReader where
  workbook := { sheets := [.worksheet boardSheet, .worksheet signalingSheet], active := 0 }

/-- A sheet whose only cell is a rich text with the least integer that cannot be written. -/
def longSheet : Worksheet := ⟨"Data", [((1, 1), .rich [.int (Nat.pow 10 Number.digitLimit : Nat)])]⟩

def longReader : SheetReader where
  workbook := { sheets := [.worksheet longSheet], active := 0 }

theorem read_longReader : longReader.read (.cell ⟨1, 1, none, some "A1"⟩) = .error (.invalid .tooManyDigits) := by
  have hsheet : longReader.sheetOf none = .ok (.worksheet longSheet) := rfl
  have hcell : longSheet.readCell 1 1 = Content.read (.rich [.int (Nat.pow 10 Number.digitLimit : Nat)]) := rfl
  rw [SheetReader.read_cell_of_inBounds hsheet (by decide), hcell, Content.read, List.mapM_cons,
    RichPart.read_of_not_writable not_intWritable_tenPow]
  rfl

/-- The cell that an address inside the limits stands for need not have a value: neither a decimal that is no double, on
another sheet than the current one, nor a rich text that cannot be written. -/
theorem evaluate_address_of_unreadable :
    (pairReader.maxRow = gridRows ∧ pairReader.maxCol = gridCols ∧
      pairReader.sheetOf none = .ok (.worksheet boardSheet) ∧ boardSheet.Fits pairReader ∧
      (∀ position, boardSheet.get? position ≠ some (.decimal (.nan true))) ∧
      (Formula.address "A1" (some "Notes")).Regular pairReader ∧
      ((standard pairReader.read).evaluate (.address "A1" (some "Notes"))).1 = .error (.invalid .signalingNaN)) ∧
    longReader.maxRow = gridRows ∧ longReader.maxCol = gridCols ∧
      longReader.sheetOf none = .ok (.worksheet longSheet) ∧ longSheet.Fits longReader ∧
      (∀ position, longSheet.get? position ≠ some (.decimal (.nan true))) ∧
      (Formula.address "A1" none).Regular longReader ∧
      ((standard longReader.read).evaluate (.address "A1" none)).1 = .error (.invalid .tooManyDigits) := by
  refine ⟨⟨rfl, rfl, rfl, ⟨by decide, by decide⟩, fun position h => boardSheet_readable h rfl, ?_, ?_⟩,
    rfl, rfl, rfl, ⟨by decide, by decide⟩, fun position h => ?_, ?_, ?_⟩
  · exact .reference (.address (parse_firstCell _) rfl ⟨by decide, by decide⟩ (by decide) (by decide))
  · exact evaluate_address_of_read_error (parse_firstCell _) rfl
  · rw [Worksheet.get?, longSheet] at h
    simp only [List.lookup_cons] at h
    split at h <;> cases h
  · exact .reference (.address (parse_firstCell _) rfl ⟨by decide, by decide⟩ (by decide) (by decide))
  · exact evaluate_address_of_read_error (parse_firstCell _) read_longReader

end Engine

end GridCalc
