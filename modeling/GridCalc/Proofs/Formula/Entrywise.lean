import GridCalc.Proofs.Formula.Standard
import GridCalc.Proofs.Operator.Entrywise
import GridCalc.Proofs.Reference.Enclosure
import GridCalc.Proofs.Reference.Parsing
import GridCalc.Proofs.Workbook.Reading

/-!
# Formulas over ranges, cell by cell

A formula over ranges that fit into `h × w` places (`Formula.Entrywise`) has one formula over cells at each place, in
which every range is replaced by its cell there (`Formula.EntryAt`).

Main statement: `evaluate_entrywise`. The value of the formula shows at each place the value of the formula there. The
invariant is `Engine.Agrees`: it holds of the leaves because a range is read cell by cell, and operators preserve it
because they are broadcast.
-/

namespace GridCalc

/-- The number of coordinates from one to another, both counted. -/
def extent (a b : Int) : Nat := (a - b).natAbs + 1

/-- The range between two corners. -/
def blockBetween (p q : CellReference) : RangeReference where
  first := ⟨some (min p.col q.col), some (min p.row q.row), none⟩
  last := ⟨some (max p.col q.col), some (max p.row q.row), none⟩
  sheet := none
  address := none

namespace Formula

/-- Operators over literals, cells and ranges between two cells, of height 1 or `h` and of width 1 or `w`. -/
inductive Entrywise (h w : Nat) : Formula → Prop
  | literal {kind text : String} {v : Value} : Literal.value kind text = .ok v → Entrywise h w (.literal kind text)
  | cell {text : String} {sheet : Option String} {r : CellReference} :
      Reference.parse text sheet = .ok (.cell r) → Entrywise h w (.address text sheet)
  | range {first last : String} {sheet sheet' : Option String} {p q : CellReference} :
      Reference.parse first sheet = .ok (.cell p) → Reference.parse last sheet' = .ok (.cell q) →
      (extent p.row q.row = 1 ∨ extent p.row q.row = h) → (extent p.col q.col = 1 ∨ extent p.col q.col = w) →
      Entrywise h w (.span [.address first sheet, .address last sheet'])
  | signs {tokens : List String} {operand : Formula} : Entrywise h w operand → Entrywise h w (.signs tokens operand)
  | percent {operand : Formula} {token : String} : Entrywise h w operand → Entrywise h w (.percent operand token)
  | binary {left : Formula} {token : String} {right : Formula} :
      Entrywise h w left → Entrywise h w right → Entrywise h w (.binary left token right)

/-- A range stands among the leaves. -/
def hasRange : Formula → Bool
  | .span _ => true
  | .signs _ operand => hasRange operand
  | .percent operand _ => hasRange operand
  | .binary left _ right => hasRange left || hasRange right
  | _ => false

/-- A leaf that names a cell, on no sheet. -/
inductive NamesCell (row col : Int) : Formula → Prop
  | address {text : String} {r : CellReference} :
      Reference.parse text none = .ok (.cell r) → r.row = row → r.col = col → NamesCell row col (.address text none)
  | reference {r : CellReference} :
      r.sheet = none → r.row = row → r.col = col → NamesCell row col (.value (.reference (.cell r)))

/-- The formula at a place: each range is replaced by its cell there, on an axis of size 1 by its only one. -/
inductive EntryAt (i j : Nat) : Formula → Formula → Prop
  | literal {kind text : String} : EntryAt i j (.literal kind text) (.literal kind text)
  | cell {text : String} {sheet : Option String} : EntryAt i j (.address text sheet) (.address text sheet)
  | range {first last : String} {sheet sheet' : Option String} {p q : CellReference} {leaf : Formula} :
      Reference.parse first sheet = .ok (.cell p) → Reference.parse last sheet' = .ok (.cell q) →
      NamesCell (min p.row q.row + placeOn (extent p.row q.row) i) (min p.col q.col + placeOn (extent p.col q.col) j)
        leaf →
      EntryAt i j (.span [.address first sheet, .address last sheet']) leaf
  | signs {tokens : List String} {operand operand' : Formula} :
      EntryAt i j operand operand' → EntryAt i j (.signs tokens operand) (.signs tokens operand')
  | percent {operand operand' : Formula} {token : String} :
      EntryAt i j operand operand' → EntryAt i j (.percent operand token) (.percent operand' token)
  | binary {left left' : Formula} {token : String} {right right' : Formula} :
      EntryAt i j left left' → EntryAt i j right right' →
      EntryAt i j (.binary left token right) (.binary left' token right')

theorem Entrywise.exists_entryAt {h w : Nat} {formula : Formula} (hf : formula.Entrywise h w) (i j : Nat) :
    ∃ formula', EntryAt i j formula formula' := by
  induction hf with
  | literal => exact ⟨_, .literal⟩
  | cell => exact ⟨_, .cell⟩
  | range hp hq => exact ⟨_, .range hp hq (.reference (r := ⟨_, _, none, none⟩) rfl rfl rfl)⟩
  | signs _ ih =>
    obtain ⟨operand', h'⟩ := ih
    exact ⟨_, .signs h'⟩
  | percent _ ih =>
    obtain ⟨operand', h'⟩ := ih
    exact ⟨_, .percent h'⟩
  | binary _ _ ihl ihr =>
    obtain ⟨left', hl⟩ := ihl
    obtain ⟨right', hr⟩ := ihr
    exact ⟨_, .binary hl hr⟩

end Formula

/-! ## Leaves -/

theorem rowsOn_blockBetween (p q : CellReference) (sheet : Worksheet) :
    (blockBetween p q).rowsOn sheet = (min p.row q.row, max p.row q.row) := by
  simp only [RangeReference.rowsOn, blockBetween, Axis.ofEnds, Axis.clamp, Prod.mk.injEq]
  omega

theorem colsOn_blockBetween (p q : CellReference) (sheet : Worksheet) :
    (blockBetween p q).colsOn sheet = (min p.col q.col, max p.col q.col) := by
  simp only [RangeReference.colsOn, blockBetween, Axis.ofEnds, Axis.clamp, Prod.mk.injEq]
  omega

namespace Engine

theorem result_block (engine : Engine) {first last : String} {sheet sheet' : Option String} {p q : CellReference}
    (hp : Reference.parse first sheet = .ok (.cell p)) (hq : Reference.parse last sheet' = .ok (.cell q)) :
    engine.result (.span [.address first sheet, .address last sheet']) =
      .ok (.reference (.range (blockBetween p q))) := by
  have hoperands : [Formula.address first sheet, .address last sheet'].mapM engine.result =
      .ok ([Reference.cell p, .cell q].map Value.reference) := by
    simp [List.mapM_cons, result_address, hp, hq]
  rw [result_span, hoperands, ok_bind, span_cons]
  rfl

theorem result_of_namesCell (engine : Engine) {row col : Int} {leaf : Formula} (h : leaf.NamesCell row col) :
    ∃ c : CellReference, engine.result leaf = .ok (.reference (.cell c)) ∧ c.sheet = none ∧ c.row = row ∧
      c.col = col := by
  cases h with
  | @address text r hparse hrow hcol =>
    exact ⟨r, by rw [result_address, hparse]; rfl, Reference.sheet_of_parse hparse, hrow, hcol⟩
  | @reference r hsheet hrow hcol => exact ⟨r, engine.result_value _, hsheet, hrow, hcol⟩

end Engine

/-! ## Agreement at all places -/

namespace Engine

variable (reader : SheetReader) {h w : Nat}

/-- What is read of a formula shows at each place what is read of the formula there, and is an array iff there is a
range in the formula. -/
structure Agrees (h w : Nat) (formula : Formula) (x : Value) : Prop where
  spreads : x.Spreads h w
  isList : x.isList = formula.hasRange
  entry : ∀ i < h, ∀ j < w, ∀ formula', formula.EntryAt i j formula' →
    (standard reader.read).settled formula' = .ok (x.entryAt i j)

variable {reader}

theorem agrees_literal {kind text : String} {v : Value}
    (hv : (standard reader.read).settled (.literal kind text) = .ok v) : Agrees reader h w (.literal kind text) v := by
  obtain ⟨u, hu, hread⟩ := bind_eq_ok_iff.mp hv
  rw [result_literal] at hu
  have hscalar := isScalar_of_literal hu
  rw [resolved_of_plain _ (Value.plain_of_isScalar hscalar)] at hread
  cases hread
  refine ⟨.scalar hscalar, Value.isList_of_isScalar hscalar, fun i _ j _ formula' hentry => ?_⟩
  cases hentry
  rw [hv, Value.entryAt_of_isScalar hscalar]

theorem agrees_cell {text : String} {sheet : Option String} {r : CellReference} {v : Value}
    (hparse : Reference.parse text sheet = .ok (.cell r))
    (hv : (standard reader.read).settled (.address text sheet) = .ok v) :
    Agrees reader h w (.address text sheet) v := by
  have hread : reader.read (.cell r) = .ok v := (settled_address _ hparse).symm.trans hv
  obtain ⟨worksheet, -, -, hcell⟩ := reader.read_cell_eq_ok_iff.mp hread
  have hscalar := Worksheet.isScalar_of_readCell hcell
  refine ⟨.scalar hscalar, Value.isList_of_isScalar hscalar, fun i _ j _ formula' hentry => ?_⟩
  cases hentry
  rw [hv, Value.entryAt_of_isScalar hscalar]

theorem agrees_range (hh : 0 < h) (hw : 0 < w) {first last : String} {sheet sheet' : Option String}
    {p q : CellReference} {v : Value} (hp : Reference.parse first sheet = .ok (.cell p))
    (hq : Reference.parse last sheet' = .ok (.cell q)) (hrows : extent p.row q.row = 1 ∨ extent p.row q.row = h)
    (hcols : extent p.col q.col = 1 ∨ extent p.col q.col = w)
    (hv : (standard reader.read).settled (.span [.address first sheet, .address last sheet']) = .ok v) :
    Agrees reader h w (.span [.address first sheet, .address last sheet']) v := by
  have hread : reader.read (.range (blockBetween p q)) = .ok v := by
    rw [settled, result_block _ hp hq] at hv
    exact hv
  obtain ⟨hp1, hp2⟩ := Reference.one_le_of_parse hp
  obtain ⟨hq1, hq2⟩ := Reference.one_le_of_parse hq
  obtain ⟨worksheet, grid, rfl, hscalar, hgrid, hcells⟩ := reader.cells_of_read_range hread
    (fun worksheet => by rw [rowsOn_blockBetween]; omega) (fun worksheet => by rw [colsOn_blockBetween]; omega)
  rw [rowsOn_blockBetween, colsOn_blockBetween] at hgrid hcells
  have hheight : (max p.row q.row - min p.row q.row + 1).toNat = extent p.row q.row := by unfold extent; omega
  have hwidth : (max p.col q.col - min p.col q.col + 1).toNat = extent p.col q.col := by unfold extent; omega
  simp only [hheight, hwidth] at hgrid hcells
  have hspreads : Rows.Spreads grid h w := ⟨_, _, hgrid, hrows, hcols⟩
  refine ⟨.grid hspreads hscalar, rfl, fun i hi j hj formula' hentry => ?_⟩
  cases hentry with
  | range hp' hq' hleaf =>
    rw [hp] at hp'
    rw [hq] at hq'
    cases hp'
    cases hq'
    obtain ⟨c, hc, hsheet, hrow, hcol⟩ := result_of_namesCell (standard reader.read) hleaf
    have hirow : placeOn (extent p.row q.row) i < extent p.row q.row := placeOn_lt (by omega) (by omega)
    have hjcol : placeOn (extent p.col q.col) j < extent p.col q.col := placeOn_lt (by omega) (by omega)
    obtain ⟨x, hx, hcell⟩ := hcells _ _ c (by omega) (by omega) hsheet hrow hcol
    rw [Rows.Spreads.get?_eq hh hw hi hj hgrid hrows hcols, Option.some.injEq] at hx
    rw [Value.entryAt_toValue (hspreads.ne_nil hh), hx, ← hcell, settled, hc]
    rfl

theorem agrees_signs (hh : 0 < h) (hw : 0 < w) {tokens : List String} {operand : Formula} {v : Value}
    (ih : ∀ {x}, (standard reader.read).settled operand = .ok x → Agrees reader h w operand x)
    (hv : (standard reader.read).settled (.signs tokens operand) = .ok v) :
    Agrees reader h w (.signs tokens operand) v := by
  obtain ⟨hsigns, x, hx, hcall⟩ := (settled_signs_eq_ok_iff _).mp hv
  obtain ⟨u, hu, hread⟩ := bind_eq_ok_iff.mp hcall
  have hagrees := ih hx
  obtain ⟨hspreads, hlist, hentries⟩ := Call.spreads_of_signs hh hw hagrees.spreads hu
  rw [resolved_of_plain _ hspreads.plain] at hread
  cases hread
  refine ⟨hspreads, hlist.trans hagrees.isList, fun i hi j hj formula' hentry => ?_⟩
  cases hentry with
  | signs hoperand =>
    have hplain := Value.plain_of_isScalar (hspreads.isScalar_entryAt hh hw hi hj)
    exact (settled_signs_eq_ok_iff _).mpr ⟨hsigns, _, hagrees.entry i hi j hj _ hoperand,
      bind_eq_ok_iff.mpr ⟨_, hentries i hi j hj, resolved_of_plain _ hplain⟩⟩

theorem agrees_percent (hh : 0 < h) (hw : 0 < w) {operand : Formula} {token : String} {v : Value}
    (ih : ∀ {x}, (standard reader.read).settled operand = .ok x → Agrees reader h w operand x)
    (hv : (standard reader.read).settled (.percent operand token) = .ok v) :
    Agrees reader h w (.percent operand token) v := by
  obtain ⟨htoken, x, hx, hcall⟩ := (settled_percent_eq_ok_iff _).mp hv
  obtain ⟨u, hu, hread⟩ := bind_eq_ok_iff.mp hcall
  have hagrees := ih hx
  obtain ⟨hspreads, hlist, hentries⟩ := Call.spreads_of_percent hh hw hagrees.spreads hu
  rw [resolved_of_plain _ hspreads.plain] at hread
  cases hread
  refine ⟨hspreads, hlist.trans hagrees.isList, fun i hi j hj formula' hentry => ?_⟩
  cases hentry with
  | percent hoperand =>
    have hplain := Value.plain_of_isScalar (hspreads.isScalar_entryAt hh hw hi hj)
    exact (settled_percent_eq_ok_iff _).mpr ⟨htoken, _, hagrees.entry i hi j hj _ hoperand,
      bind_eq_ok_iff.mpr ⟨_, hentries i hi j hj, resolved_of_plain _ hplain⟩⟩

theorem agrees_binary (hh : 0 < h) (hw : 0 < w) {left : Formula} {token : String} {right : Formula} {v : Value}
    (ihl : ∀ {x}, (standard reader.read).settled left = .ok x → Agrees reader h w left x)
    (ihr : ∀ {x}, (standard reader.read).settled right = .ok x → Agrees reader h w right x)
    (hv : (standard reader.read).settled (.binary left token right) = .ok v) :
    Agrees reader h w (.binary left token right) v := by
  obtain ⟨x, y, family, hx, hy, hfamily, hcall⟩ := (settled_binary_eq_ok_iff _).mp hv
  obtain ⟨u, hu, hread⟩ := bind_eq_ok_iff.mp hcall
  have hleft := ihl hx
  have hright := ihr hy
  obtain ⟨hspreads, hlist, hentries⟩ := Call.spreads_of_between hh hw hleft.spreads hright.spreads hu
  rw [resolved_of_plain _ hspreads.plain] at hread
  cases hread
  refine ⟨hspreads, ?_, fun i hi j hj formula' hentry => ?_⟩
  · rw [hlist, hleft.isList, hright.isList, Formula.hasRange]
  · cases hentry with
    | binary hl hr =>
      have hplain := Value.plain_of_isScalar (hspreads.isScalar_entryAt hh hw hi hj)
      exact (settled_binary_eq_ok_iff _).mpr ⟨_, _, family, hleft.entry i hi j hj _ hl, hright.entry i hi j hj _ hr,
        hfamily, bind_eq_ok_iff.mpr ⟨_, hentries i hi j hj, resolved_of_plain _ hplain⟩⟩

theorem agrees_of_settled (hh : 0 < h) (hw : 0 < w) {formula : Formula} (hf : formula.Entrywise h w) :
    ∀ {x}, (standard reader.read).settled formula = .ok x → Agrees reader h w formula x := by
  induction hf with
  | literal => exact agrees_literal
  | cell hparse => exact agrees_cell hparse
  | range hp hq hrows hcols => exact agrees_range hh hw hp hq hrows hcols
  | signs _ ih => exact agrees_signs hh hw ih
  | percent _ ih => exact agrees_percent hh hw ih
  | binary _ _ ihl ihr => exact agrees_binary hh hw ihl ihr

/-! ## Evaluation -/

/-- Nothing in the formula raises a formula error, so that its value is what is read of it. -/
theorem not_aborts_result_of_entrywise {formula : Formula} (hf : formula.Entrywise h w) :
    ¬Aborts ((standard reader.read).result formula) := by
  induction hf with
  | literal hv =>
    rw [result_literal, hv]
    exact not_aborts_ok _
  | cell hparse =>
    rw [result_address, hparse]
    exact not_aborts_ok _
  | range hp hq =>
    rw [result_block _ hp hq]
    exact not_aborts_ok _
  | signs _ ih =>
    rw [result_signs]
    exact not_aborts_bind ih fun _ _ => not_aborts_applySigns reader.not_aborts_read _ _
  | percent _ ih =>
    rw [result_percent]
    exact not_aborts_bind ih fun _ _ => not_aborts_applyPercent reader.not_aborts_read _ _
  | binary _ _ ihl ihr =>
    rw [result_binary]
    exact not_aborts_bind ihl fun _ _ => not_aborts_bind ihr fun _ _ =>
      not_aborts_applyInfix reader.not_aborts_read _ _ _

/-- A formula over ranges that has a value has a grid as its value, of height 1 or `h` and of width 1 or `w`, which
shows at each place the value of every formula that has the cells at this place instead of the ranges. -/
theorem evaluate_entrywise (reader : SheetReader) (hh : 0 < h) (hw : 0 < w) {formula : Formula}
    (hf : formula.Entrywise h w) (hrange : formula.hasRange = true) {v : Value}
    (hv : ((standard reader.read).evaluate formula).1 = .ok v) :
    ∃ (rows : Rows) (height width : Nat), v = rows.toValue ∧ rows.IsGrid height width ∧
      (height = 1 ∨ height = h) ∧ (width = 1 ∨ width = w) ∧ ∀ i < h, ∀ j < w,
        ∃ entry, rows.get? (placeOn height i) (placeOn width j) = some entry ∧
          (∃ formula', formula.EntryAt i j formula') ∧ ∀ formula', formula.EntryAt i j formula' →
            ((standard reader.read).evaluate formula').1 = .ok entry := by
  have hnot : ¬Aborts ((standard reader.read).settled formula) :=
    not_aborts_bind (not_aborts_result_of_entrywise hf) fun _ _ => not_aborts_resolved reader.not_aborts_read _
  have hagrees := agrees_of_settled hh hw hf (settled_of_evaluate hnot hv)
  have hlist := hagrees.isList.trans hrange
  obtain hscalar | ⟨hrows, -⟩ := hagrees.spreads
  · rw [Value.isList_of_isScalar hscalar] at hlist
    cases hlist
  · rename_i rows
    have hne := hrows.ne_nil hh
    obtain ⟨height, width, hgrid, hheight, hwidth⟩ := hrows
    refine ⟨rows, height, width, rfl, hgrid, hheight, hwidth, fun i hi j hj => ?_⟩
    refine ⟨rows.entry i j, Rows.Spreads.get?_eq hh hw hi hj hgrid hheight hwidth, hf.exists_entryAt i j, ?_⟩
    intro formula' hentry
    rw [← Value.entryAt_toValue hne]
    exact evaluate_of_settled (hagrees.entry i hi j hj formula' hentry)

/-- The column `A1:A2` plus the row `A1:B1`. -/
def sums : Formula :=
  .binary (.span [.address "A1" none, .address "A2" none]) "+" (.span [.address "A1" none, .address "B1" none])

/-- A sheet that holds 1 and 10 in its first row and 2 below the 1. -/
def sumsReader : SheetReader where
  workbook :=
    { sheets := [.worksheet
        ⟨"Data", [((1, 1), .number (.int 1)), ((1, 2), .number (.int 10)), ((2, 1), .number (.int 2))]⟩]
      active := 0 }

theorem entrywise_sums : sums.Entrywise 2 2 := by
  have hA1 : Reference.parse "A1" none = .ok (.cell ⟨1, 1, none, some "A1"⟩) := by rfl
  have hA2 : Reference.parse "A2" none = .ok (.cell ⟨1, 2, none, some "A2"⟩) := by rfl
  have hB1 : Reference.parse "B1" none = .ok (.cell ⟨2, 1, none, some "B1"⟩) := by rfl
  exact .binary (.range hA1 hA2 (by decide) (by decide)) (.range hA1 hB1 (by decide) (by decide))

theorem evaluate_entrywise_sums : sums.Entrywise 2 2 ∧ sums.hasRange = true ∧
    ((standard sumsReader.read).evaluate sums).1 = .ok (Rows.toValue [[.int 2, .int 11], [.int 3, .int 12]]) ∧
    ∀ formula', sums.EntryAt 1 0 formula' → ((standard sumsReader.read).evaluate formula').1 = .ok (.int 3) := by
  have hv : ((standard sumsReader.read).evaluate sums).1 =
      .ok (Rows.toValue [[.int 2, .int 11], [.int 3, .int 12]]) := by rfl
  obtain ⟨rows, height, width, hrows, hgrid, -, -, hentries⟩ :=
    evaluate_entrywise sumsReader (h := 2) (w := 2) (by decide) (by decide) entrywise_sums rfl hv
  have hsums : [[Value.int 2, .int 11], [.int 3, .int 12]] = rows := Rows.toValue_injective hrows
  obtain ⟨entry, hentry, -, hall⟩ := hentries 1 (by decide) 0 (by decide)
  have hheight : height = 2 := by
    rw [← hgrid.height, ← hsums]
    rfl
  have hcol : placeOn width 0 = 0 := ite_self 0
  rw [hheight, hcol, ← hsums] at hentry
  cases hentry
  exact ⟨entrywise_sums, rfl, hv, hall⟩

end Engine

end GridCalc
