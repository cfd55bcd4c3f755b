import Mathlib.Tactic.SplitIfs
import GridCalc.Proofs.Column
import GridCalc.Proofs.Decimal
import GridCalc.Proofs.Outcome
import GridCalc.Proofs.Reference.Language

/-!
# What addresses parse to

The digits of a row and the letters of a column spell positive numbers of few digits (`Text.digitsValue_lt`,
`Column.index_le_lastOf`), so every reference that is read from a text has positive coordinates that can be written
(`Reference.isCoordinate_of_parse`). The sheet is only handed on (`Reference.parse_onSheet`).
-/

namespace GridCalc

/-! ## Addresses -/

namespace Address

open Number

/-- A positive coordinate that can be written. -/
def IsCoordinate (n : Int) : Prop := 1 ≤ n ∧ intWritable n = true

theorem isCoordinate_columnNumber {letters : List Char} {most : Nat} (h : letters ∈ columnTexts most)
    (hm : most ≤ 4) : IsCoordinate (columnNumber letters) := by
  obtain ⟨hne, hlen, halpha⟩ := h
  have hpos := Column.one_le_index halpha (List.length_pos_iff.mp hne)
  have hlt : Column.index (String.ofList letters) < 10 ^ 6 :=
    calc Column.index (String.ofList letters) ≤ Column.lastOf letters.length := Column.index_le_lastOf halpha
      _ ≤ Column.lastOf 4 := Column.lastOf_mono (le_trans hlen hm)
      _ < 10 ^ 6 := by decide
  exact ⟨by unfold columnNumber; omega, intWritable_of_lt hlt (by decide)⟩

theorem head?_ne_of_mem_rowTexts {digits : List Char} (h : digits ∈ rowTexts) :
    digits ≠ [] ∧ digits.head? ≠ some '0' := by
  obtain ⟨⟨c, rest, rfl, hzero⟩, -⟩ := h
  exact ⟨List.cons_ne_nil c rest, by simpa using hzero⟩

theorem digitsValue_pos_of_mem_rowTexts {digits : List Char} (h : digits ∈ rowTexts) : 0 < Text.digitsValue digits :=
  Text.digitsValue_pos h.2 (head?_ne_of_mem_rowTexts h).1 (head?_ne_of_mem_rowTexts h).2

theorem isCoordinate_rowNumber {digits : List Char} {n : Int} (h : digits ∈ rowTexts)
    (hn : rowNumber digits = .ok n) : IsCoordinate n := by
  unfold rowNumber at hn
  split at hn
  · cases hn
  · rename_i hlen
    cases hn
    have hpos := digitsValue_pos_of_mem_rowTexts h
    exact ⟨by omega, intWritable_of_lt (Text.digitsValue_lt digits) (by omega)⟩

end Address

namespace Reference

open Address

variable {text : String} {sheet : Option String} {ref : Reference}

theorem isCoordinate_of_parseCell (h : parseCell text sheet = .ok ref) : ∀ n ∈ ref.coordinates, IsCoordinate n := by
  unfold parseCell at h
  split at h
  · rename_i column row hparts
    obtain ⟨hcolumn, hrow, -⟩ := cellParts?_eq_some_iff.mp hparts
    cases hn : rowNumber row with
    | error fault => rw [hn] at h; cases h
    | ok n =>
      rw [hn] at h
      cases h
      simpa [coordinates] using ⟨isCoordinate_columnNumber hcolumn (by decide), isCoordinate_rowNumber hrow hn⟩
  · cases h

theorem isCoordinate_of_parseColumnRange (h : parseColumnRange text sheet = .ok ref) :
    ∀ n ∈ ref.coordinates, IsCoordinate n := by
  unfold parseColumnRange at h
  split at h
  · rename_i first last hparts
    obtain ⟨hfirst, hlast, -⟩ := columnRangeParts?_eq_some_iff.mp hparts
    cases h
    simpa [coordinates] using
      ⟨isCoordinate_columnNumber hfirst (by decide), isCoordinate_columnNumber hlast (le_refl 4)⟩
  · cases h

theorem isCoordinate_of_parseRowRange (h : parseRowRange text sheet = .ok ref) :
    ∀ n ∈ ref.coordinates, IsCoordinate n := by
  unfold parseRowRange at h
  split at h
  · rename_i first last hparts
    obtain ⟨hfirst, hlast, -⟩ := rowRangeParts?_eq_some_iff.mp hparts
    dsimp only at h
    cases hm : rowNumber first with
    | error fault => rw [hm] at h; cases h
    | ok m =>
      cases hn : rowNumber last with
      | error fault => rw [hm, hn] at h; cases h
      | ok n =>
        rw [hm, hn] at h
        cases h
        simpa [coordinates] using ⟨isCoordinate_rowNumber hfirst hm, isCoordinate_rowNumber hlast hn⟩
  · cases h

/-- All coordinates of a reference that was read from a text are positive and can be written. -/
theorem isCoordinate_of_parse (h : parse text sheet = .ok ref) : ∀ n ∈ ref.coordinates, IsCoordinate n := by
  unfold parse at h
  split at h
  · exact isCoordinate_of_parseCell h
  · split at h
    · exact isCoordinate_of_parseColumnRange h
    · split at h
      · exact isCoordinate_of_parseRowRange h
      · cases h

/-- The coordinates of a cell that was read from a text are positive. -/
theorem one_le_of_parse {r : CellReference} (h : parse text sheet = .ok (.cell r)) : 1 ≤ r.row ∧ 1 ≤ r.col := by
  have hall := isCoordinate_of_parse h
  exact ⟨(hall r.row (by simp [coordinates])).1, (hall r.col (by simp [coordinates])).1⟩

theorem writable_of_parse (h : parse text sheet = .ok ref) : ref.writable = true :=
  List.all_eq_true.mpr fun n hn => (isCoordinate_of_parse h n hn).2

theorem not_aborts_rowNumber (digits : List Char) : ¬Aborts (rowNumber digits) := by
  unfold rowNumber
  split
  · exact not_aborts_raise (by simp)
  · exact not_aborts_ok _

/-- A text that is no address is no formula error. -/
theorem not_aborts_parse (text : String) (sheet : Option String) : ¬Aborts (parse text sheet) := by
  have hmalformed : ∀ form, ¬Aborts (malformed form text : Except Fault Reference) :=
    fun form => not_aborts_raise (by simp)
  unfold parse parseCell parseColumnRange parseRowRange
  split_ifs
  · split
    · exact not_aborts_bind (not_aborts_rowNumber _) fun _ _ => not_aborts_ok _
    · exact hmalformed _
  · split
    · exact not_aborts_ok _
    · exact hmalformed _
  · split
    · exact not_aborts_bind (not_aborts_bind (not_aborts_rowNumber _) fun _ _ => not_aborts_ok _) fun _ _ =>
        not_aborts_bind (not_aborts_bind (not_aborts_rowNumber _) fun _ _ => not_aborts_ok _) fun _ _ => not_aborts_ok _
    · exact hmalformed _
  · exact hmalformed _

/-! ## The sheet of an address -/

/-- The reference on another sheet. -/
def onSheet (sheet : Option String) : Reference → Reference
  | cell r => cell { r with sheet }
  | range r => range { r with sheet }

/-- Reading a text hands the sheet on and does nothing else with it. -/
theorem parse_onSheet (text : String) (sheet : Option String) :
    parse text sheet = onSheet sheet <$> parse text none := by
  have hcell : parseCell text sheet = onSheet sheet <$> parseCell text none := by
    unfold parseCell
    split
    · rename_i column row _
      cases rowNumber row <;> rfl
    · rfl
  have hcolumns : parseColumnRange text sheet = onSheet sheet <$> parseColumnRange text none := by
    unfold parseColumnRange
    split <;> rfl
  have hrows : parseRowRange text sheet = onSheet sheet <$> parseRowRange text none := by
    unfold parseRowRange
    split
    · rename_i first last _
      dsimp only
      cases rowNumber first <;> cases rowNumber last <;> rfl
    · rfl
  unfold parse
  rw [hcell, hcolumns, hrows]
  split_ifs <;> rfl

theorem sheet_onSheet (sheet : Option String) (ref : Reference) : (ref.onSheet sheet).sheet = sheet := by
  cases ref <;> rfl

theorem sheet_of_parse (h : parse text sheet = .ok ref) : ref.sheet = sheet := by
  rw [parse_onSheet] at h
  obtain ⟨ref', -, rfl⟩ := map_eq_ok_iff.mp h
  exact sheet_onSheet sheet ref'

end Reference

end GridCalc
