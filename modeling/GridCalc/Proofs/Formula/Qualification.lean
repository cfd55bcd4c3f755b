import GridCalc.Proofs.Formula.Standard
import GridCalc.Proofs.Reference.Qualification
import GridCalc.Proofs.Workbook.Reading

/-!
# Addresses on the current sheet

Giving every address of a formula the title of the sheet that it is read from anyway (`Formula.onSheet`) changes nothing
as long as no intersection mixes operands that bear a sheet with operands that drop theirs (`Formula.Mixes`). A span is
on no sheet, whatever its operands are on, and an intersection takes an unset sheet for another one than a set sheet.
So once the addresses have a sheet, an intersection that mixes is `#NULL!`.

Main statement: `evaluate_onSheet`.
-/

namespace GridCalc

/-! ## Formulas on a sheet -/

namespace Formula

mutual

/-- The formula with all addresses on a sheet. -/
def onSheet (title : String) : Formula → Formula
  | .address text _ => .address text (some title)
  | .array rows => .array (rowsOnSheet title rows)
  | .intersection operands => .intersection (listOnSheet title operands)
  | .union operands => .union (listOnSheet title operands)
  | .span operands => .span (listOnSheet title operands)
  | .signs tokens operand => .signs tokens (onSheet title operand)
  | .percent operand token => .percent (onSheet title operand) token
  | .binary left token right => .binary (onSheet title left) token (onSheet title right)
  | .literal kind text => .literal kind text
  | .value v => .value v

def listOnSheet (title : String) : List Formula → List Formula
  | [] => []
  | formula :: rest => onSheet title formula :: listOnSheet title rest

def rowsOnSheet (title : String) : List (List Formula) → List (List Formula)
  | [] => []
  | row :: rest => listOnSheet title row :: rowsOnSheet title rest

end

/-- The addresses have no sheet, and no reference stands in the formula itself. -/
inductive Unqualified : Formula → Prop
  | literal {kind text : String} : Unqualified (.literal kind text)
  | address {text : String} : Unqualified (.address text none)
  | array {rows : List (List Formula)} : (∀ row ∈ rows, ∀ f ∈ row, Unqualified f) → Unqualified (.array rows)
  | intersection {operands : List Formula} : (∀ f ∈ operands, Unqualified f) → Unqualified (.intersection operands)
  | union {operands : List Formula} : (∀ f ∈ operands, Unqualified f) → Unqualified (.union operands)
  | span {operands : List Formula} : (∀ f ∈ operands, Unqualified f) → Unqualified (.span operands)
  | signs {tokens : List String} {operand : Formula} : Unqualified operand → Unqualified (.signs tokens operand)
  | percent {operand : Formula} {token : String} : Unqualified operand → Unqualified (.percent operand token)
  | binary {left : Formula} {token : String} {right : Formula} :
      Unqualified left → Unqualified right → Unqualified (.binary left token right)
  | value {v : Value} : (∀ ref, v ≠ .reference ref) → Unqualified (.value v)

/-- The sheet of some address is the sheet of the formula. -/
inductive Bears : Formula → Prop
  | address {text : String} {sheet : Option String} : Bears (.address text sheet)
  | intersection {operands : List Formula} {f : Formula} : f ∈ operands → Bears f → Bears (.intersection operands)

/-- The formula is a span, which is on no sheet, or an intersection with one. -/
inductive Drops : Formula → Prop
  | span {operands : List Formula} : Drops (.span operands)
  | intersection {operands : List Formula} {f : Formula} : f ∈ operands → Drops f → Drops (.intersection operands)

/-- Some intersection has both an operand that bears a sheet and an operand that drops it. -/
inductive Mixes : Formula → Prop
  | here {operands : List Formula} {f g : Formula} :
      f ∈ operands → Bears f → g ∈ operands → Drops g → Mixes (.intersection operands)
  | array {rows : List (List Formula)} {row : List Formula} {f : Formula} :
      row ∈ rows → f ∈ row → Mixes f → Mixes (.array rows)
  | intersection {operands : List Formula} {f : Formula} : f ∈ operands → Mixes f → Mixes (.intersection operands)
  | union {operands : List Formula} {f : Formula} : f ∈ operands → Mixes f → Mixes (.union operands)
  | span {operands : List Formula} {f : Formula} : f ∈ operands → Mixes f → Mixes (.span operands)
  | signs {tokens : List String} {operand : Formula} : Mixes operand → Mixes (.signs tokens operand)
  | percent {operand : Formula} {token : String} : Mixes operand → Mixes (.percent operand token)
  | left {left : Formula} {token : String} {right : Formula} : Mixes left → Mixes (.binary left token right)
  | right {left : Formula} {token : String} {right : Formula} : Mixes right → Mixes (.binary left token right)

theorem listOnSheet_eq_map (title : String) (formulas : List Formula) :
    listOnSheet title formulas = formulas.map (onSheet title) := by
  induction formulas with
  | nil => rfl
  | cons formula rest ih => exact congrArg (onSheet title formula :: ·) ih

theorem rowsOnSheet_eq_map (title : String) (rows : List (List Formula)) :
    rowsOnSheet title rows = rows.map fun row => row.map (onSheet title) := by
  induction rows with
  | nil => rfl
  | cons row rest ih => exact congrArg₂ List.cons (listOnSheet_eq_map title row) ih

section

variable (title : String)

theorem onSheet_literal (kind text : String) : (literal kind text).onSheet title = .literal kind text := rfl

theorem onSheet_address (text : String) (sheet : Option String) :
    (address text sheet).onSheet title = .address text (some title) := rfl

theorem onSheet_array (rows : List (List Formula)) :
    (array rows).onSheet title = .array (rows.map fun row => row.map (onSheet title)) :=
  congrArg array (rowsOnSheet_eq_map title rows)

theorem onSheet_intersection (operands : List Formula) :
    (intersection operands).onSheet title = .intersection (operands.map (onSheet title)) :=
  congrArg intersection (listOnSheet_eq_map title operands)

theorem onSheet_union (operands : List Formula) :
    (union operands).onSheet title = .union (operands.map (onSheet title)) :=
  congrArg union (listOnSheet_eq_map title operands)

theorem onSheet_span (operands : List Formula) :
    (span operands).onSheet title = .span (operands.map (onSheet title)) :=
  congrArg span (listOnSheet_eq_map title operands)

theorem onSheet_signs (tokens : List String) (operand : Formula) :
    (signs tokens operand).onSheet title = .signs tokens (operand.onSheet title) := rfl

theorem onSheet_percent (operand : Formula) (token : String) :
    (percent operand token).onSheet title = .percent (operand.onSheet title) token := rfl

theorem onSheet_binary (left : Formula) (token : String) (right : Formula) :
    (binary left token right).onSheet title = .binary (left.onSheet title) token (right.onSheet title) := rfl

theorem onSheet_value (v : Value) : (value v).onSheet title = .value v := rfl

end

end Formula

/-! ## Reading -/

/-- The current sheet is read, whether it is named or not. -/
theorem SheetReader.read_onSheet {reader : SheetReader} {title : String} (hcurrent : reader.current = .titled title)
    {ref : Reference} (hsheet : ref.sheet = none) : reader.read (ref.onSheet (some title)) = reader.read ref := by
  have hsame : reader.sheetOf (some title) = reader.sheetOf none := by
    simp only [sheetOf, hcurrent]
  unfold read
  rw [Reference.sheet_onSheet, hsheet, hsame]
  cases ref <;> rfl

namespace Engine

open Run

variable {reader : SheetReader} {title : String}

theorem isNodal_of_qualifies {bears drops : Prop} {v v' : Value} (h : Value.Qualifies title bears drops v v') :
    v.IsNodal := by
  cases h with
  | plain hv => exact hv.isNodal
  | collection hitems => exact hitems
  | bearing => exact trivial
  | dropping => exact trivial

section

variable (hcurrent : reader.current = .titled title) {bears drops P : Prop} {v v' w w' : Value}
include hcurrent

theorem resolved_of_qualifies (h : Value.Qualifies title bears drops v v') :
    (standard reader.read).resolved v' = (standard reader.read).resolved v := by
  cases h with
  | bearing _ hsheet _ => exact SheetReader.read_onSheet hcurrent hsheet
  | _ => rfl

/-- What is read is plain, and the same before and after. -/
theorem alike_resolved (h : Value.Qualifies title bears drops v v') :
    Alike P (fun x x' => x = x' ∧ x.Plain) ((standard reader.read).resolved v)
      ((standard reader.read).resolved v') := by
  rw [resolved_of_qualifies hcurrent h]
  exact .refl fun x hx => ⟨rfl, plain_of_resolved (fun _ _ => reader.plain_of_read) (isNodal_of_qualifies h) hx⟩

theorem alike_applySigns (tokens : List String) (h : Value.Qualifies title bears drops v v') :
    Alike P (Value.Qualifies title False False) (outcome ((standard reader.read).applySigns tokens v))
      (outcome ((standard reader.read).applySigns tokens v')) := by
  have hsame : outcome ((standard reader.read).applySigns tokens v') =
      outcome ((standard reader.read).applySigns tokens v) := by
    rw [outcome_applySigns, outcome_applySigns, resolved_of_qualifies hcurrent h]
  rw [hsame]
  exact .refl fun x hx => .plain (plain_of_applySigns (fun _ _ => reader.plain_of_read) (isNodal_of_qualifies h) hx)

theorem alike_applyPercent (token : String) (h : Value.Qualifies title bears drops v v') :
    Alike P (Value.Qualifies title False False) (outcome ((standard reader.read).applyPercent v token))
      (outcome ((standard reader.read).applyPercent v' token)) := by
  have hsame : outcome ((standard reader.read).applyPercent v' token) =
      outcome ((standard reader.read).applyPercent v token) := by
    rw [outcome_applyPercent, outcome_applyPercent, resolved_of_qualifies hcurrent h]
  rw [hsame]
  exact .refl fun x hx => .plain (plain_of_applyPercent (fun _ _ => reader.plain_of_read) (isNodal_of_qualifies h) hx)

theorem alike_applyInfix (token : String) {bears' drops' : Prop} (h : Value.Qualifies title bears drops v v')
    (h' : Value.Qualifies title bears' drops' w w') :
    Alike P (Value.Qualifies title False False) (outcome ((standard reader.read).applyInfix v token w))
      (outcome ((standard reader.read).applyInfix v' token w')) := by
  have hsame : outcome ((standard reader.read).applyInfix v' token w') =
      outcome ((standard reader.read).applyInfix v token w) := by
    rw [outcome_applyInfix, outcome_applyInfix, resolved_of_qualifies hcurrent h, resolved_of_qualifies hcurrent h']
  rw [hsame]
  exact .refl fun x hx => .plain
    (plain_of_applyInfix (fun _ _ => reader.plain_of_read) (isNodal_of_qualifies h) (isNodal_of_qualifies h') hx)

end

/-! ## Nodes before and after -/

/-- The node ends alike on the sheet, unless some intersection in it mixes. -/
def AlikeOnSheet (reader : SheetReader) (title : String) (formula : Formula) : Prop :=
  Alike formula.Mixes (Value.Qualifies title formula.Bears formula.Drops) ((standard reader.read).result formula)
    ((standard reader.read).result (formula.onSheet title))

theorem eq_of_forall₂_plain {items items' : List Value}
    (h : List.Forall₂ (fun x x' => x = x' ∧ x.Plain) items items') : items = items' ∧ Value.PlainAll items := by
  induction h with
  | nil => exact ⟨rfl, trivial⟩
  | cons hfirst _ ih => exact ⟨by rw [hfirst.1, ih.1], hfirst.2, ih.2⟩

/-- The operands of a node end alike if each of them does. -/
theorem alike_operands {P bears drops : Prop} {operands : List Formula}
    (h : ∀ f ∈ operands, AlikeOnSheet reader title f) (hmixes : ∀ f ∈ operands, f.Mixes → P)
    (hbears : ∀ f ∈ operands, f.Bears → bears) (hdrops : ∀ f ∈ operands, f.Drops → drops) :
    Alike P (List.Forall₂ (Value.Qualifies title bears drops)) (operands.mapM (standard reader.read).result)
      ((operands.map (Formula.onSheet title)).mapM (standard reader.read).result) :=
  Alike.mapM_map _ fun f hf => (h f hf).mono (hmixes f hf) fun _ _ hv => hv.mono (hbears f hf) (hdrops f hf)

theorem alikeOnSheet_intersection {operands : List Formula} (h : ∀ f ∈ operands, AlikeOnSheet reader title f) :
    AlikeOnSheet reader title (.intersection operands) := by
  unfold AlikeOnSheet
  rw [Formula.onSheet_intersection, result_intersection, result_intersection]
  refine Alike.bind (alike_operands h (fun f hf => .intersection hf) (fun f hf => .intersection hf)
    fun f hf => .intersection hf) fun vs vs' hvs => (alike_intersection hvs).mono ?_ fun _ _ hv => hv
  rintro ⟨hbears, hdrops⟩
  cases hbears with
  | intersection hf hbears =>
    cases hdrops with
    | intersection hg hdrops => exact .here hf hbears hg hdrops

theorem alikeOnSheet_span {operands : List Formula} (h : ∀ f ∈ operands, AlikeOnSheet reader title f) :
    AlikeOnSheet reader title (.span operands) := by
  have hoperands : Alike (Formula.span operands).Mixes (List.Forall₂ (Value.Qualifies title True True))
      (operands.mapM (standard reader.read).result)
      ((operands.map (Formula.onSheet title)).mapM (standard reader.read).result) :=
    alike_operands h (fun _ hf => .span hf) (fun _ _ _ => trivial) fun _ _ _ => trivial
  unfold AlikeOnSheet
  rw [Formula.onSheet_span, result_span, result_span]
  refine hoperands.bind fun vs vs' hvs => (alike_span hvs).mono id fun _ _ hv => ?_
  exact hv.mono False.elim fun _ => .span

section

variable (hcurrent : reader.current = .titled title)
include hcurrent

theorem alike_settled {formula : Formula} {P : Prop} (h : AlikeOnSheet reader title formula) (hP : formula.Mixes → P) :
    Alike P (fun x x' => x = x' ∧ x.Plain) ((standard reader.read).settled formula)
      ((standard reader.read).settled (formula.onSheet title)) :=
  (h.mono hP fun _ _ hv => hv).bind fun _ _ => alike_resolved hcurrent

theorem alikeOnSheet_array {rows : List (List Formula)} (h : ∀ row ∈ rows, ∀ f ∈ row, AlikeOnSheet reader title f) :
    AlikeOnSheet reader title (.array rows) := by
  have hrow : ∀ row ∈ rows, Alike (Formula.array rows).Mixes (fun x x' => x = x' ∧ x.Plain)
      (Value.list <$> row.mapM (standard reader.read).settled)
      (Value.list <$> (row.map (Formula.onSheet title)).mapM (standard reader.read).settled) := by
    intro row hrow
    have hentries : Alike (Formula.array rows).Mixes (List.Forall₂ fun x x' => x = x' ∧ x.Plain)
        (row.mapM (standard reader.read).settled)
        ((row.map (Formula.onSheet title)).mapM (standard reader.read).settled) :=
      Alike.mapM_map _ fun f hf => alike_settled hcurrent (h row hrow f hf) (.array hrow hf)
    refine hentries.map fun items items' hitems => ?_
    obtain ⟨rfl, hplain⟩ := eq_of_forall₂_plain hitems
    exact ⟨rfl, hplain⟩
  unfold AlikeOnSheet
  rw [Formula.onSheet_array, result_array, result_array]
  refine (Alike.mapM_map (List.map (Formula.onSheet title)) hrow).map fun items items' hitems => ?_
  obtain ⟨rfl, hplain⟩ := eq_of_forall₂_plain hitems
  exact .plain hplain

theorem alikeOnSheet_union {operands : List Formula} (h : ∀ f ∈ operands, AlikeOnSheet reader title f) :
    AlikeOnSheet reader title (.union operands) := by
  have hoperands : Alike (Formula.union operands).Mixes (List.Forall₂ (Value.Qualifies title True True))
      (operands.mapM (standard reader.read).result)
      ((operands.map (Formula.onSheet title)).mapM (standard reader.read).result) :=
    alike_operands h (fun _ hf => .union hf) (fun _ _ _ => trivial) fun _ _ _ => trivial
  unfold AlikeOnSheet
  rw [Formula.onSheet_union, result_union, result_union]
  refine hoperands.bind fun vs vs' hvs =>
    Alike.map (Alike.mapM (hvs.imp fun _ _ => alike_resolved hcurrent)) fun items items' hitems => ?_
  obtain ⟨rfl, hplain⟩ := eq_of_forall₂_plain hitems
  exact .collection hplain

theorem alikeOnSheet_of_unqualified {formula : Formula} (hf : formula.Unqualified) :
    AlikeOnSheet reader title formula := by
  induction hf with
  | @literal kind text =>
    unfold AlikeOnSheet
    rw [Formula.onSheet_literal, result_literal]
    exact .refl fun v hv => .plain (Value.plain_of_isScalar (isScalar_of_literal hv))
  | @address text =>
    unfold AlikeOnSheet
    rw [Formula.onSheet_address, result_address, result_address, Reference.parse_onSheet text (some title)]
    cases hparse : Reference.parse text none with
    | ok ref => exact .ok (.bearing .address (Reference.sheet_of_parse hparse) (Reference.writable_of_parse hparse))
    | error fault => exact .fault
  | array _ ih => exact alikeOnSheet_array hcurrent ih
  | intersection _ ih => exact alikeOnSheet_intersection ih
  | union _ ih => exact alikeOnSheet_union hcurrent ih
  | span _ ih => exact alikeOnSheet_span ih
  | signs _ ih =>
    unfold AlikeOnSheet
    rw [Formula.onSheet_signs, result_signs, result_signs]
    refine (ih.mono .signs fun _ _ hv => hv).bind fun v v' hv => ?_
    exact (alike_applySigns hcurrent _ hv).mono id fun _ _ hx => hx.mono False.elim False.elim
  | percent _ ih =>
    unfold AlikeOnSheet
    rw [Formula.onSheet_percent, result_percent, result_percent]
    refine (ih.mono .percent fun _ _ hv => hv).bind fun v v' hv => ?_
    exact (alike_applyPercent hcurrent _ hv).mono id fun _ _ hx => hx.mono False.elim False.elim
  | binary _ _ ihl ihr =>
    unfold AlikeOnSheet
    rw [Formula.onSheet_binary, result_binary, result_binary]
    refine (ihl.mono .left fun _ _ hv => hv).bind fun v v' hv =>
      (ihr.mono .right fun _ _ hw => hw).bind fun w w' hw => ?_
    exact (alike_applyInfix hcurrent _ hv hw).mono id fun _ _ hx => hx.mono False.elim False.elim
  | @value v hv =>
    unfold AlikeOnSheet
    rw [Formula.onSheet_value, result_value]
    refine .refl fun x hx => ?_
    unfold node at hx
    split at hx
    · exact absurd rfl (hv _)
    · cases hx

end

/-! ## Formulas that mix -/

section

variable {engine : Engine}

theorem result_of_mem_operands {operands : List Formula} {vs : List Value} {f : Formula}
    (h : (operands.map (Formula.onSheet title)).mapM engine.result = .ok vs) (hf : f ∈ operands) :
    ∃ v ∈ vs, engine.result (f.onSheet title) = .ok v :=
  exists_of_mapM_eq_ok h (List.mem_map_of_mem hf)

/-- If all is well, a formula that bears a sheet stands for a reference on it. -/
theorem sheet_of_bears {formula : Formula} (hf : formula.Bears) : ∀ {v},
    engine.result (formula.onSheet title) = .ok v → ∃ ref, v = .reference ref ∧ ref.sheet = some title := by
  induction hf with
  | address =>
    intro v h
    rw [Formula.onSheet_address, result_address] at h
    obtain ⟨ref, hparse, rfl⟩ := map_eq_ok_iff.mp h
    exact ⟨ref, rfl, Reference.sheet_of_parse hparse⟩
  | intersection hmem _ ih =>
    intro v h
    rw [Formula.onSheet_intersection, result_intersection] at h
    obtain ⟨vs, hvs, h⟩ := bind_eq_ok_iff.mp h
    obtain ⟨ref, hcommon, rfl⟩ := map_eq_ok_iff.mp h
    obtain ⟨w, hw, hresult⟩ := result_of_mem_operands hvs hmem
    obtain ⟨r, rfl, hr⟩ := ih hresult
    exact ⟨ref, rfl, (sheet_of_intersection hcommon hw).symm.trans hr⟩

/-- If all is well, a formula that drops its sheet stands for a reference on none. -/
theorem sheet_of_drops {formula : Formula} (hf : formula.Drops) : ∀ {v},
    engine.result (formula.onSheet title) = .ok v → ∃ ref, v = .reference ref ∧ ref.sheet = none := by
  induction hf with
  | span =>
    intro v h
    rw [Formula.onSheet_span, result_span] at h
    obtain ⟨vs, -, h⟩ := bind_eq_ok_iff.mp h
    obtain ⟨ref, hspan, rfl⟩ := map_eq_ok_iff.mp h
    exact ⟨ref, rfl, sheet_of_span hspan⟩
  | intersection hmem _ ih =>
    intro v h
    rw [Formula.onSheet_intersection, result_intersection] at h
    obtain ⟨vs, hvs, h⟩ := bind_eq_ok_iff.mp h
    obtain ⟨ref, hcommon, rfl⟩ := map_eq_ok_iff.mp h
    obtain ⟨w, hw, hresult⟩ := result_of_mem_operands hvs hmem
    obtain ⟨r, rfl, hr⟩ := ih hresult
    exact ⟨ref, rfl, (sheet_of_intersection hcommon hw).symm.trans hr⟩

/-- No reference lies both on a sheet and on none. -/
theorem result_intersection_ne_ok {operands : List Formula} {f g : Formula} (hf : f ∈ operands) (hbears : f.Bears)
    (hg : g ∈ operands) (hdrops : g.Drops) (v : Value) :
    engine.result ((Formula.intersection operands).onSheet title) ≠ .ok v := by
  intro h
  rw [Formula.onSheet_intersection, result_intersection] at h
  obtain ⟨vs, hvs, h⟩ := bind_eq_ok_iff.mp h
  obtain ⟨ref, hcommon, -⟩ := map_eq_ok_iff.mp h
  obtain ⟨w, hw, hresult⟩ := result_of_mem_operands hvs hf
  obtain ⟨w', hw', hresult'⟩ := result_of_mem_operands hvs hg
  obtain ⟨r, rfl, hr⟩ := sheet_of_bears hbears hresult
  obtain ⟨r', rfl, hr'⟩ := sheet_of_drops hdrops hresult'
  rw [sheet_of_intersection hcommon hw, ← sheet_of_intersection hcommon hw', hr'] at hr
  cases hr

/-- A formula that mixes stands for nothing once its addresses have a sheet. -/
theorem result_ne_ok_of_mixes {formula : Formula} (hf : formula.Mixes) : ∀ v,
    engine.result (formula.onSheet title) ≠ .ok v := by
  induction hf with
  | here hmem hbears hmem' hdrops => exact result_intersection_ne_ok hmem hbears hmem' hdrops
  | array hrow hmem _ ih =>
    intro v h
    rw [Formula.onSheet_array, result_array] at h
    obtain ⟨items, hitems, -⟩ := map_eq_ok_iff.mp h
    obtain ⟨item, -, hitem⟩ := exists_of_mapM_eq_ok hitems (List.mem_map_of_mem hrow)
    obtain ⟨entries, hentries, -⟩ := map_eq_ok_iff.mp hitem
    obtain ⟨entry, -, hentry⟩ := exists_of_mapM_eq_ok hentries (List.mem_map_of_mem hmem)
    obtain ⟨w, hw, -⟩ := bind_eq_ok_iff.mp hentry
    exact ih w hw
  | intersection hmem _ ih =>
    intro v h
    rw [Formula.onSheet_intersection, result_intersection] at h
    obtain ⟨vs, hvs, -⟩ := bind_eq_ok_iff.mp h
    obtain ⟨w, -, hw⟩ := result_of_mem_operands hvs hmem
    exact ih w hw
  | union hmem _ ih =>
    intro v h
    rw [Formula.onSheet_union, result_union] at h
    obtain ⟨vs, hvs, -⟩ := bind_eq_ok_iff.mp h
    obtain ⟨w, -, hw⟩ := result_of_mem_operands hvs hmem
    exact ih w hw
  | span hmem _ ih =>
    intro v h
    rw [Formula.onSheet_span, result_span] at h
    obtain ⟨vs, hvs, -⟩ := bind_eq_ok_iff.mp h
    obtain ⟨w, -, hw⟩ := result_of_mem_operands hvs hmem
    exact ih w hw
  | signs _ ih =>
    intro v h
    rw [Formula.onSheet_signs, result_signs] at h
    obtain ⟨w, hw, -⟩ := bind_eq_ok_iff.mp h
    exact ih w hw
  | percent _ ih =>
    intro v h
    rw [Formula.onSheet_percent, result_percent] at h
    obtain ⟨w, hw, -⟩ := bind_eq_ok_iff.mp h
    exact ih w hw
  | left _ ih =>
    intro v h
    rw [Formula.onSheet_binary, result_binary] at h
    obtain ⟨w, hw, -⟩ := bind_eq_ok_iff.mp h
    exact ih w hw
  | right _ ih =>
    intro v h
    rw [Formula.onSheet_binary, result_binary] at h
    obtain ⟨w, -, h⟩ := bind_eq_ok_iff.mp h
    obtain ⟨w', hw', -⟩ := bind_eq_ok_iff.mp h
    exact ih w' hw'

end

/-! ## Evaluation -/

/-- A formula that mixes and was not at fault can fail on the sheet for its mixing only. -/
theorem evaluate_onSheet_of_mixes {reader : SheetReader} {title : String}
    (hcurrent : reader.current = .titled title) {formula : Formula} (hf : formula.Unqualified) (hmixes : formula.Mixes)
    {x : Value} (hx : (standard reader.read).settled formula = .ok x) :
    ((standard reader.read).evaluate (formula.onSheet title)).1 = .ok (.error .null) := by
  have halike := alike_settled hcurrent (alikeOnSheet_of_unqualified hcurrent hf) id
  have hfails : ∀ y, (standard reader.read).settled (formula.onSheet title) ≠ .ok y := by
    intro y hy
    obtain ⟨v, hv, -⟩ := bind_eq_ok_iff.mp hy
    exact result_ne_ok_of_mixes hmixes v hv
  rw [evaluate_fst]
  rw [hx] at halike
  generalize (standard reader.read).settled (formula.onSheet title) = y at halike hfails ⊢
  cases halike with
  | ok => exact absurd rfl (hfails _)
  | null _ hkind => rw [catchFormulaError, hkind]

/-- Putting the addresses of a formula on the current sheet changes nothing, if no intersection mixes. If one does, the
value becomes `#NULL!`, unless the formula was at fault before: then it may also stay at this fault. -/
theorem evaluate_onSheet (reader : SheetReader) (title : String) (hcurrent : reader.current = .titled title)
    (formula : Formula) (hf : formula.Unqualified) :
    (¬formula.Mixes → ((standard reader.read).evaluate (formula.onSheet title)).1 =
      ((standard reader.read).evaluate formula).1) ∧
    (formula.Mixes → ((standard reader.read).evaluate (formula.onSheet title)).1 = .ok (.error .null) ∨
      (∃ fault, (standard reader.read).settled formula = .error fault) ∧
        ((standard reader.read).evaluate (formula.onSheet title)).1 =
          ((standard reader.read).evaluate formula).1) := by
  have halike := alike_settled hcurrent (alikeOnSheet_of_unqualified hcurrent hf) id
  have hvalue := (halike.mono id fun _ _ hx => hx.1).catchFormulaError
  rw [← evaluate_fst, ← evaluate_fst] at hvalue
  constructor
  · intro hmixes
    exact hvalue.resolve_right fun hnull => hmixes hnull.1
  · intro hmixes
    cases hs : (standard reader.read).settled formula with
    | error fault => exact hvalue.symm.imp And.right fun hsame => ⟨⟨fault, rfl⟩, hsame⟩
    | ok x => exact Or.inl (evaluate_onSheet_of_mixes hcurrent hf hmixes hs)

/-- The column `A:A` crossed by the row `1:1`, both on no sheet. -/
def crossedLines : Formula := .intersection [.address "A:A" none, .address "1:1" none]

/-- The block `A1:B2`, which is on no sheet, crossed by `A1`, which gets one. -/
def crossedBlock : Formula :=
  .intersection [.span [.address "A1" none, .address "B2" none], .address "A1" none]

/-- A sheet that holds 7 in its first cell, and is chosen by its title. -/
def titledReader : SheetReader where
  workbook := { sheets := [.worksheet ⟨"Data", [((1, 1), .number (.int 7))]⟩], active := 0 }
  current := .titled "Data"

theorem unqualified_crossedLines : crossedLines.Unqualified := by
  refine .intersection ?_
  simp only [List.forall_mem_cons, List.not_mem_nil, false_imp_iff, implies_true, and_true]
  exact ⟨.address, .address⟩

theorem unqualified_crossedBlock : crossedBlock.Unqualified := by
  refine .intersection ?_
  simp only [List.forall_mem_cons, List.not_mem_nil, false_imp_iff, implies_true, and_true]
  refine ⟨.span ?_, .address⟩
  simp only [List.forall_mem_cons, List.not_mem_nil, false_imp_iff, implies_true, and_true]
  exact ⟨.address, .address⟩

theorem not_mixes_crossedLines : ¬crossedLines.Mixes := by
  intro h
  cases h with
  | here _ _ hmem hdrops =>
    simp only [List.mem_cons, List.not_mem_nil, or_false] at hmem
    rcases hmem with rfl | rfl <;> cases hdrops
  | intersection hmem hmixes =>
    simp only [List.mem_cons, List.not_mem_nil, or_false] at hmem
    rcases hmem with rfl | rfl <;> cases hmixes

theorem mixes_crossedBlock : crossedBlock.Mixes :=
  .here (List.mem_cons_of_mem _ List.mem_cons_self) .address List.mem_cons_self .span

theorem settled_crossedBlock : (standard titledReader.read).settled crossedBlock = .ok (.int 7) := by rfl

theorem evaluate_onSheet_crossed : titledReader.current = .titled "Data" ∧ crossedLines.Unqualified ∧
    ¬crossedLines.Mixes ∧ crossedBlock.Unqualified ∧ crossedBlock.Mixes ∧
    ((standard titledReader.read).evaluate (crossedLines.onSheet "Data")).1 = .ok (.int 7) ∧
    ((standard titledReader.read).evaluate (crossedBlock.onSheet "Data")).1 = .ok (.error .null) := by
  have hlines := (evaluate_onSheet titledReader "Data" rfl crossedLines unqualified_crossedLines).1
    not_mixes_crossedLines
  have hblock := (evaluate_onSheet titledReader "Data" rfl crossedBlock unqualified_crossedBlock).2
    mixes_crossedBlock
  refine ⟨rfl, unqualified_crossedLines, not_mixes_crossedLines, unqualified_crossedBlock, mixes_crossedBlock,
    hlines.trans (by rfl), hblock.resolve_right ?_⟩
  rintro ⟨⟨fault, hfault⟩, -⟩
  rw [settled_crossedBlock] at hfault
  cases hfault

/-- Qualifying addresses may change a value: the block is on no sheet, and so no longer meets the cell. -/
theorem evaluate_onSheet_ne : titledReader.current = .titled "Data" ∧ crossedBlock.Unqualified ∧
    ((standard titledReader.read).evaluate crossedBlock).1 = .ok (.int 7) ∧
    ((standard titledReader.read).evaluate (crossedBlock.onSheet "Data")).1 = .ok (.error .null) ∧
    ((standard titledReader.read).evaluate (crossedBlock.onSheet "Data")).1 ≠
      ((standard titledReader.read).evaluate crossedBlock).1 := by
  have hbefore : ((standard titledReader.read).evaluate crossedBlock).1 = .ok (.int 7) := by rfl
  have hcurrent : titledReader.current = .titled "Data" := rfl
  have hafter := evaluate_onSheet_of_mixes hcurrent unqualified_crossedBlock mixes_crossedBlock settled_crossedBlock
  refine ⟨rfl, unqualified_crossedBlock, hbefore, hafter, ?_⟩
  rw [hbefore, hafter]
  intro h
  cases h

end Engine

end GridCalc
