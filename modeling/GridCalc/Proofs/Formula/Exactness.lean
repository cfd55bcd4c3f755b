import GridCalc.Proofs.Formula.SignChains
import GridCalc.Proofs.Numeral.Literal
import GridCalc.Proofs.Workbook.Agreement

/-!
# Formulas over integers

A formula of integer literals, cells, signs and the operators `+`, `-` and `*` stands for an integer
(`Formula.StandsFor`); a cell holds an integer, a truth value, which counts as 1 or 0, or nothing, which counts as 0.
Only a minus makes a number of what is behind it, so what is read of a part of the formula may still be a truth value or
nothing. The invariant is that it has the integer of the part for its number (`Engine.exists_settled_of_standsFor`).

Main statement: `Engine.evaluate_exact`. An operator between such formulas has this integer for its value, however large
it is.
-/

namespace GridCalc

open Text Numeral

/-! ## Integers of formulas -/

/-- The integer that a content counts as. -/
def Content.integer? : Content → Option Int
  | empty | arrayFormula none => some 0
  | bool b => some (if b then 1 else 0)
  | number (.int n) => some n
  | _ => none

/-- The operators that stay among the integers. -/
def exactOperation? : String → Option (Int → Int → Int)
  | "+" => some (· + ·)
  | "-" => some (· - ·)
  | "*" => some (· * ·)
  | _ => none

/-- The integer after signs in front of it, of which each minus negates what is behind it. -/
def signedBy (tokens : List String) (n : Int) : Int :=
  tokens.foldr (fun token behind => if token = "-" then -behind else behind) n

namespace Formula

variable {reader : SheetReader}

/-- The formula is built from integer literals and cells that count as integers, and this is its integer. -/
inductive StandsFor (reader : SheetReader) : Formula → Int → Prop
  | literal {text : String} {n : Int} (htext : text.toList ∈ padded isNumeralBlank (integerTexts n)) :
      StandsFor reader (.literal "number" text) n
  | cell {text : String} {sheet : Option String} {r : CellReference} {on : Worksheet} {n : Int}
      (hparse : Reference.parse text sheet = .ok (.cell r)) (hsheet : reader.sheetOf r.sheet = .ok (.worksheet on))
      (hin : reader.inBounds r.row r.col = true) (hn : (on.stored (r.row, r.col)).integer? = some n) :
      StandsFor reader (.address text sheet) n
  | signs {tokens : List String} {formula : Formula} {n : Int} (htokens : ∀ token ∈ tokens, isSign token = true)
      (h : StandsFor reader formula n) : StandsFor reader (.signs tokens formula) (signedBy tokens n)
  | binary {left right : Formula} {token : String} {operation : Int → Int → Int} {m n : Int}
      (htoken : exactOperation? token = some operation) (hl : StandsFor reader left m)
      (hr : StandsFor reader right n) : StandsFor reader (.binary left token right) (operation m n)

end Formula

/-! ## Leaves -/

theorem Literal.number_of_mem_padded {text : String} {n : Int}
    (h : text.toList ∈ padded isNumeralBlank (integerTexts n)) : number text = .ok (.int n) := by
  have hbare : ∀ s ∈ integerTexts n, Bare isNumeralBlank s := fun s hs =>
    (bare_of_mem_integerTexts s hs).mono fun _ => isBlank_of_isNumeralBlank
  exact number_eq_ok_iff.mpr ⟨.int n, rfl, Number.ofText_eq_int_iff.mpr ((mem_padded_iff hbare).mp h)⟩

theorem Content.exists_read_of_integer? {content : Content} {n : Int} (h : content.integer? = some n) :
    ∃ v, content.read = .ok v ∧ v.toNumber = .ok (.int n) := by
  unfold integer? at h
  split at h <;> cases h <;> exact ⟨_, rfl, rfl⟩

/-! ## Operators -/

/-- What has a number is a scalar. -/
theorem Value.isScalar_of_toNumber {v : Value} {x : Number} (h : v.toNumber = .ok x) : v.IsScalar := by
  cases v <;> first | exact trivial | cases h

/-- Each minus negates, so their number decides. -/
theorem int_signedBy (tokens : List String) (n : Int) :
    Number.int (signedBy tokens n) = (Number.int n).negated (tokens.count "-") := by
  induction tokens with
  | nil => rfl
  | cons token rest ih =>
    by_cases htoken : token = "-"
    · have hstep : signedBy (token :: rest) n = -signedBy rest n := if_pos htoken
      rw [hstep, htoken, List.count_cons_self, Nat.add_comm, Number.negated_add, ← ih]
      rfl
    · have hstep : signedBy (token :: rest) n = signedBy rest n := if_neg htoken
      rw [hstep, List.count_cons_of_ne htoken, ih]

/-- Signs leave a value with its number, or make the signed number of it. -/
theorem exists_signScalar_of_toNumber (tokens : List String) {v : Value} {n : Int} (h : v.toNumber = .ok (.int n)) :
    ∃ w, signScalar tokens v = .ok w ∧ w.toNumber = .ok (.int (signedBy tokens n)) := by
  rw [int_signedBy]
  by_cases hminus : tokens.count "-" = 0
  · exact ⟨v, if_pos hminus, by rw [hminus, h]; rfl⟩
  · exact ⟨_, signScalar_of_toNumber hminus h, rfl⟩

section

variable {token : String} {operation : Int → Int → Int} (htoken : exactOperation? token = some operation)
include htoken

/-- The operators that stay among the integers are arithmetic operators, and exact. -/
theorem exists_operator_of_exactOperation? : infixFamily token = .ok .arithmetic ∧ ∃ operator,
    MathOperator.ofToken? token = some operator ∧ ∀ m n, operator.apply (.int m) (.int n) = .ok (.int (operation m n)) := by
  unfold exactOperation? at htoken
  split at htoken <;> cases htoken <;> exact ⟨rfl, _, rfl, fun _ _ => rfl⟩

/-- On values that have integers for their numbers they make the exact integer, however large it is. -/
theorem entries_of_exactOperation? {l r : Value} {m n : Int} (hl : l.toNumber = .ok (.int m))
    (hr : r.toNumber = .ok (.int n)) :
    InfixFamily.arithmetic.entries token l r = .ok (.int (operation m n)) := by
  obtain ⟨-, operator, hoperator, hexact⟩ := exists_operator_of_exactOperation? htoken
  rw [InfixFamily.entries, mathScalar_of_toNumber hoperator hl hr, hexact]
  rfl

end

namespace Engine

variable {reader : SheetReader}

/-- An operator that stays among the integers is exact on what has integers for its numbers. -/
theorem settled_binary_of_exactOperation? {left right : Formula} {token : String} {operation : Int → Int → Int}
    (htoken : exactOperation? token = some operation) {l r : Value} {m n : Int}
    (hleft : (standard reader.read).settled left = .ok l) (hright : (standard reader.read).settled right = .ok r)
    (hl : l.toNumber = .ok (.int m)) (hr : r.toNumber = .ok (.int n)) :
    (standard reader.read).settled (.binary left token right) = .ok (.int (operation m n)) := by
  have hfamily := (exists_operator_of_exactOperation? htoken).1
  rw [settled_binary_of_isScalar hfamily hleft hright (Value.isScalar_of_toNumber hl) (Value.isScalar_of_toNumber hr)]
  exact entries_of_exactOperation? htoken hl hr

/-- What is read of a formula that stands for an integer has this integer for its number. -/
theorem exists_settled_of_standsFor {formula : Formula} {n : Int} (h : formula.StandsFor reader n) :
    ∃ v, (standard reader.read).settled formula = .ok v ∧ v.toNumber = .ok (.int n) := by
  induction h with
  | @literal text n htext =>
    have hvalue : Literal.value "number" text = .ok (.int n) := Literal.number_of_mem_padded htext
    refine ⟨.int n, ?_, rfl⟩
    rw [settled, result_literal, hvalue]
    rfl
  | cell hparse hsheet hin hn =>
    obtain ⟨v, hread, hnumber⟩ := Content.exists_read_of_integer? hn
    refine ⟨v, ?_, hnumber⟩
    rw [settled_address _ hparse]
    exact reader.read_cell_eq_ok_iff.mpr ⟨_, hsheet, hin, (Worksheet.readCell_eq_read_stored _ _ _).trans hread⟩
  | @signs tokens formula n htokens _ ih =>
    obtain ⟨v, hv, hnumber⟩ := ih
    obtain ⟨w, hw, hsigned⟩ := exists_signScalar_of_toNumber tokens hnumber
    refine ⟨w, ?_, hsigned⟩
    rw [settled_signs (fun _ _ => reader.plain_of_read) htokens, hv, ok_bind, GridCalc.signs,
      if_pos (List.all_eq_true.mpr htokens), mapEntries_of_isScalar (Value.isScalar_of_toNumber hnumber), hw]
  | binary htoken _ _ ihl ihr =>
    obtain ⟨l, hleft, hl⟩ := ihl
    obtain ⟨r, hright, hr⟩ := ihr
    exact ⟨_, settled_binary_of_exactOperation? htoken hleft hright hl hr, rfl⟩

/-- An operator between formulas over integers has the exact integer for its value. -/
theorem evaluate_exact {left right : Formula} {token : String} {n : Int}
    (h : (Formula.binary left token right).StandsFor reader n) :
    ((standard reader.read).evaluate (.binary left token right)).1 = .ok (.int n) := by
  cases h with
  | binary htoken hl hr =>
    obtain ⟨l, hleft, hl⟩ := exists_settled_of_standsFor hl
    obtain ⟨r, hright, hr⟩ := exists_settled_of_standsFor hr
    exact evaluate_of_settled (settled_binary_of_exactOperation? htoken hleft hright hl hr)

/-- A sheet with an integer beyond the doubles and a truth value. -/
def largeReader : SheetReader where
  workbook :=
    { sheets := [.worksheet ⟨"Data", [((1, 1), .number (.int (10 ^ 400))), ((1, 2), .bool true)]⟩], active := 0 }

/-- The formula `-(+B1) * A1 - 007 + Z9`, of which the last cell is empty. -/
def largeDifference : Formula :=
  .binary (.binary (.binary (.signs ["-"] (.signs ["+"] (.address "B1" none))) "*" (.address "A1" none)) "-"
    (.literal "number" "007")) "+" (.address "Z9" none)

theorem evaluate_exact_large : largeDifference.StandsFor largeReader (-1 * 10 ^ 400 - 7 + 0) ∧
    ((standard largeReader.read).evaluate largeDifference).1 = .ok (.int (-1 * 10 ^ 400 - 7 + 0)) := by
  have hA1 : Reference.parse "A1" none = .ok (.cell ⟨1, 1, none, some "A1"⟩) := by rfl
  have hB1 : Reference.parse "B1" none = .ok (.cell ⟨2, 1, none, some "B1"⟩) := by rfl
  have hZ9 : Reference.parse "Z9" none = .ok (.cell ⟨26, 9, none, some "Z9"⟩) := by rfl
  have hseven : "007".toList ∈ padded isNumeralBlank (integerTexts 7) :=
    mem_padded.mpr ⟨[], "007".toList, [], by simp, ⟨[], Or.inl rfl, "007".toList,
      ⟨by decide, List.all_eq_true.mp rfl⟩, by decide, rfl, by decide⟩, by simp, rfl⟩
  have h : largeDifference.StandsFor largeReader (-1 * 10 ^ 400 - 7 + 0) :=
    .binary rfl (.binary rfl (.binary rfl
      (.signs (by decide) (.signs (by decide) (.cell hB1 rfl (by decide) rfl))) (.cell hA1 rfl (by decide) rfl))
      (.literal hseven)) (.cell hZ9 rfl (by decide) rfl)
  exact ⟨h, evaluate_exact h⟩

end Engine

end GridCalc
