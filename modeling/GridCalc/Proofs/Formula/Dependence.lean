import GridCalc.Proofs.Formula.Result
import GridCalc.Proofs.Workbook.Agreement

/-!
# What evaluation depends on

One computation follows another (`Run.Follows`) if it ends alike with the same record, provided that the answers are the
same for all references that the other one asked for. What a computation asks for next may depend on the answers so far,
so the condition is on the requests of a whole run; those of a part are among them (`Run.asks_bind`), which is why
computations that are followed part by part are followed as a whole (`Run.Follows.bind`). Engines with the same families
follow one another at every node of a formula (`Engine.follows_operand`).

Main statement: `Engine.evaluate_of_agreement`. Workbooks of the same layout that store the same in the cells of all
references that were asked for give a formula the same outcome.
-/

namespace GridCalc

variable {α β : Type}

/-- The reference was read through the lookup. -/
def Record.Asks (record : Record) (ref : Reference) : Prop :=
  .reference ref ∈ record.requests ∨ .bearer ref ∈ record.requests

theorem Record.Asks.append {r s : Record} {ref : Reference} (h : r.Asks ref) : (r ++ s).Asks ref :=
  h.imp (List.mem_append_left _) (List.mem_append_left _)

/-! ## Computations that follow one another -/

namespace Run

/-- What the first part of a computation asked for is among what the whole one asked for. -/
theorem asks_bind {m : Run α} {f : α → Run β} (hf : ∀ a, Appends (f a)) {record : Record} {ref : Reference}
    (h : (start m record).2.Asks ref) : (start (m >>= f) record).2.Asks ref := by
  rw [start_bind]
  generalize start m record = ended at h ⊢
  rcases ended with ⟨fault | a, record'⟩
  · exact h
  · show (start (f a) record').2.Asks ref
    rw [hf a record']
    exact h.append

/-- The second computation ends like the first, with the same record, if the answers are the same for all references
that the first one asked for. -/
structure Follows (same : Reference → Prop) (m m' : Run α) : Prop where
  appends : Appends m
  start_eq : ∀ record, (∀ ref, (start m record).2.Asks ref → same ref) → start m' record = start m record

namespace Follows

variable {same : Reference → Prop}

theorem refl {m : Run α} (hm : Appends m) : Follows same m m := ⟨hm, fun _ _ => rfl⟩

theorem bind {m m' : Run α} {f f' : α → Run β} (hm : Follows same m m') (hf : ∀ a, Follows same (f a) (f' a)) :
    Follows same (m >>= f) (m' >>= f') where
  appends := hm.appends.bind fun a => (hf a).appends
  start_eq record hsame := by
    have hfirst : start m' record = start m record :=
      hm.start_eq record fun ref hasks => hsame ref (asks_bind (fun a => (hf a).appends) hasks)
    rw [start_bind] at hsame
    rw [start_bind, start_bind, hfirst]
    generalize start m record = ended at hsame ⊢
    rcases ended with ⟨fault | a, record'⟩
    · rfl
    · exact (hf a).start_eq record' hsame

theorem mapM {f f' : α → Run β} (hf : ∀ a, Follows same (f a) (f' a)) :
    ∀ items : List α, Follows same (items.mapM f) (items.mapM f')
  | [] => refl (appends_pure _)
  | a :: rest => by
    rw [List.mapM_cons, List.mapM_cons]
    exact (hf a).bind fun b => (mapM hf rest).bind fun _ => refl (appends_pure _)

end Follows

end Run

/-! ## Engines -/

namespace Engine

open Run

variable {lookup lookup' : Lookup} {families : Families}

/-- Both lookups answer alike for the reference. -/
def SameAnswer (lookup lookup' : Lookup) (ref : Reference) : Prop := lookup' ref = lookup ref

theorem follows_read {v : Value} {ref : Reference} (hv : v = .reference ref ∨ v = .bearer ref) :
    Follows (SameAnswer lookup lookup') (read ⟨lookup, families⟩ v ref) (read ⟨lookup', families⟩ v ref) where
  appends := appends_read _ v ref
  start_eq record hsame := by
    rw [start_read] at hsame
    have hanswer : lookup' ref = lookup ref := by
      refine hsame ref ?_
      rcases hv with rfl | rfl
      · exact Or.inl (List.mem_append_right _ List.mem_cons_self)
      · exact Or.inr (List.mem_append_right _ List.mem_cons_self)
    simp only [start_read, hanswer]

theorem follows_classify (v : Value) :
    Follows (SameAnswer lookup lookup') (classify ⟨lookup, families⟩ v) (classify ⟨lookup', families⟩ v) := by
  cases v with
  | reference ref => exact (follows_read (Or.inl rfl)).bind fun _ => .refl (appends_pure _)
  | bearer ref => exact (follows_read (Or.inr rfl)).bind fun _ => .refl (appends_pure _)
  | _ => exact .refl (appends_pure _)

theorem follows_resolve (v : Value) :
    Follows (SameAnswer lookup lookup') (resolve ⟨lookup, families⟩ v) (resolve ⟨lookup', families⟩ v) :=
  (follows_classify v).bind fun _ => .refl (appends_pure _)

theorem follows_union (operands : List Value) :
    Follows (SameAnswer lookup lookup') (union ⟨lookup, families⟩ operands) (union ⟨lookup', families⟩ operands) :=
  (Follows.mapM follows_resolve operands).bind fun _ => .refl (appends_pure _)

theorem follows_call (c : Call) :
    Follows (SameAnswer lookup lookup') (call ⟨lookup, families⟩ c) (call ⟨lookup', families⟩ c) where
  appends := appends_call _ c
  start_eq record _ := by
    rw [start_call, start_call]
    rfl

theorem follows_applySigns (tokens : List String) (v : Value) :
    Follows (SameAnswer lookup lookup') (applySigns ⟨lookup, families⟩ tokens v)
      (applySigns ⟨lookup', families⟩ tokens v) := by
  unfold applySigns
  split
  · exact .refl (appends_throw _)
  · exact (follows_classify v).bind fun _ => follows_call _

theorem follows_applyPercent (v : Value) (token : String) :
    Follows (SameAnswer lookup lookup') (applyPercent ⟨lookup, families⟩ v token)
      (applyPercent ⟨lookup', families⟩ v token) := by
  rw [applyPercent_eq, applyPercent_eq]
  split
  · exact (follows_classify v).bind fun _ => follows_call _
  · exact .refl (appends_throw _)

theorem follows_applyInfix (left : Value) (token : String) (right : Value) :
    Follows (SameAnswer lookup lookup') (applyInfix ⟨lookup, families⟩ left token right)
      (applyInfix ⟨lookup', families⟩ left token right) :=
  (follows_classify left).bind fun _ => (follows_classify right).bind fun _ =>
    (Follows.refl (appends_lift _)).bind fun _ => follows_call _

/-! ### Nodes -/

mutual

theorem follows_operand : ∀ formula : Formula,
    Follows (SameAnswer lookup lookup') (operand ⟨lookup, families⟩ formula) (operand ⟨lookup', families⟩ formula)
  | .literal .. => .refl (appends_lift _)
  | .address .. => .refl ((appends_lift _).bind fun _ => appends_pure _)
  | .array rows => (follows_arrayRows rows).bind fun _ => .refl (appends_pure _)
  | .intersection operands =>
    (follows_operandList operands).bind fun _ => .refl ((appends_lift _).bind fun _ => appends_pure _)
  | .union operands => (follows_operandList operands).bind fun _ => follows_union _
  | .span operands =>
    (follows_operandList operands).bind fun _ => .refl ((appends_lift _).bind fun _ => appends_pure _)
  | .signs _ formula => (follows_operand formula).bind fun _ => follows_applySigns _ _
  | .percent formula _ => (follows_operand formula).bind fun _ => follows_applyPercent _ _
  | .binary left _ right =>
    (follows_operand left).bind fun _ => (follows_operand right).bind fun _ => follows_applyInfix _ _ _
  | .value _ => .refl (appends_lift _)

theorem follows_operandList : ∀ formulas : List Formula,
    Follows (SameAnswer lookup lookup') (operandList ⟨lookup, families⟩ formulas)
      (operandList ⟨lookup', families⟩ formulas)
  | [] => .refl (appends_pure _)
  | formula :: rest =>
    (follows_operand formula).bind fun _ => (follows_operandList rest).bind fun _ => .refl (appends_pure _)

theorem follows_arrayRow : ∀ formulas : List Formula,
    Follows (SameAnswer lookup lookup') (arrayRow ⟨lookup, families⟩ formulas) (arrayRow ⟨lookup', families⟩ formulas)
  | [] => .refl (appends_pure _)
  | formula :: rest =>
    (follows_operand formula).bind fun _ => (follows_resolve _).bind fun _ =>
      (follows_arrayRow rest).bind fun _ => .refl (appends_pure _)

theorem follows_arrayRows : ∀ rows : List (List Formula),
    Follows (SameAnswer lookup lookup') (arrayRows ⟨lookup, families⟩ rows) (arrayRows ⟨lookup', families⟩ rows)
  | [] => .refl (appends_pure _)
  | row :: rest =>
    (follows_arrayRow row).bind fun _ => (follows_arrayRows rest).bind fun _ => .refl (appends_pure _)

end

/-- Over lookups that answer alike for each reference that was asked for, a formula is evaluated alike. -/
theorem evaluate_of_sameAnswer (formula : Formula)
    (h : ∀ ref, (evaluate ⟨lookup, families⟩ formula).2.Asks ref → SameAnswer lookup lookup' ref) :
    evaluate ⟨lookup', families⟩ formula = evaluate ⟨lookup, families⟩ formula := by
  have hfollows : Follows (SameAnswer lookup lookup')
      (operand ⟨lookup, families⟩ formula >>= resolve ⟨lookup, families⟩)
      (operand ⟨lookup', families⟩ formula >>= resolve ⟨lookup', families⟩) :=
    (follows_operand formula).bind follows_resolve
  have hstart := hfollows.start_eq .empty h
  exact congrArg (fun ended => (catchFormulaError ended.1, ended.2)) hstart

/-! ## Workbooks -/

/-- Evaluation depends only on the cells of the references that it asks for: over a workbook of the same layout that
stores the same in these cells, a formula has the same value or fault, and asks for the same. -/
theorem evaluate_of_agreement {reader reader' : SheetReader} (families : Families)
    (hlayout : reader.SameLayout reader') (formula : Formula)
    (hagree : ∀ ref, (evaluate ⟨reader.read, families⟩ formula).2.Asks ref → reader.AgreeAt reader' ref) :
    evaluate ⟨reader'.read, families⟩ formula = evaluate ⟨reader.read, families⟩ formula :=
  evaluate_of_sameAnswer formula fun ref hasks => SheetReader.read_congr hlayout (hagree ref hasks)

/-- A sheet with a text in `B1`, between two other contents. -/
def rowOfThree (left right : Content) : SheetReader where
  workbook := { sheets := [.worksheet ⟨"Data", [((1, 1), left), ((1, 2), .text "mid"), ((1, 3), right)]⟩], active := 0 }

/-- The text of the cell that `A1:B1` and `B1:C1` have in common, with a mark behind it. -/
def markedMiddle : Formula :=
  .binary (.intersection
    [.value (.reference (.range ⟨⟨some 1, some 1, none⟩, ⟨some 2, some 1, none⟩, none, none⟩)),
      .value (.reference (.range ⟨⟨some 2, some 1, none⟩, ⟨some 3, some 1, none⟩, none, none⟩))])
    "&" (.literal "string" "\"!\"")

/-- The ranges are combined without being read, so what stands beside the common cell does not matter. -/
theorem evaluate_of_agreement_unread :
    (rowOfThree (.text "left") .empty).SameLayout (rowOfThree (.bool true) (.text "#N/A")) ∧
    (rowOfThree (.text "left") .empty).read (.cell ⟨1, 1, none, none⟩) = .ok (.text "left") ∧
    (rowOfThree (.bool true) (.text "#N/A")).read (.cell ⟨1, 1, none, none⟩) = .ok (.bool true) ∧
    (evaluate ⟨(rowOfThree (.text "left") .empty).read, .standard⟩ markedMiddle).1 = .ok (.text "mid!") ∧
    (∀ ref, (evaluate ⟨(rowOfThree (.text "left") .empty).read, .standard⟩ markedMiddle).2.Asks ref →
      ref = .cell ⟨2, 1, none, none⟩) ∧
    evaluate ⟨(rowOfThree (.bool true) (.text "#N/A")).read, .standard⟩ markedMiddle =
      evaluate ⟨(rowOfThree (.text "left") .empty).read, .standard⟩ markedMiddle := by
  have hlayout : (rowOfThree (.text "left") .empty).SameLayout (rowOfThree (.bool true) (.text "#N/A")) :=
    ⟨.cons (.worksheet rfl rfl rfl) .nil, rfl, rfl, rfl, rfl⟩
  have hasked : ∀ ref, (evaluate ⟨(rowOfThree (.text "left") .empty).read, .standard⟩ markedMiddle).2.Asks ref →
      ref = .cell ⟨2, 1, none, none⟩ := by
    have hrequests : (evaluate ⟨(rowOfThree (.text "left") .empty).read, .standard⟩ markedMiddle).2.requests =
        [.reference (.cell ⟨2, 1, none, none⟩)] := by rfl
    intro ref hasks
    rw [Record.Asks, hrequests] at hasks
    simpa using hasks
  refine ⟨hlayout, rfl, rfl, by rfl, hasked, evaluate_of_agreement .standard hlayout markedMiddle fun ref hasks => ?_⟩
  obtain rfl := hasked ref hasks
  rintro sheet sheet' hsheet hsheet' row col ⟨⟨hrow, hrow'⟩, hcol, hcol'⟩
  cases hsheet
  cases hsheet'
  obtain rfl : row = 1 := le_antisymm hrow' hrow
  obtain rfl : col = 2 := le_antisymm hcol' hcol
  rfl

end Engine

end GridCalc
