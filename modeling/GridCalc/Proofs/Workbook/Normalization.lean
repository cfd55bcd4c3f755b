import GridCalc.Proofs.Workbook.Agreement
import GridCalc.Proofs.Workbook.Inside

/-!
# Stored contents as values

Whatever a cell stores, it is read as a scalar. What has a text (`Content.text?`) is read as this text, or as the error
that has it for its code, and all else is read as something that is neither an error nor the code of one
(`Content.eq_readText_of_read`, `Content.uncoded_of_read`). So a value that was read, unless it is an error, is read
again where it is stored (`Value.exists_stored`).

Main statement: `SheetReader.read_normalizes`.
-/

namespace GridCalc

/-- Neither a formula error nor the code of one. -/
def Value.Uncoded (v : Value) : Prop := v.isError = false ∧ ∀ kind ∈ ErrorKind.codes, v ≠ .text kind

theorem Value.uncoded_text {s : String} (hs : s ∉ ErrorKind.codes) : (text s).Uncoded := by
  refine ⟨rfl, fun kind hkind heq => ?_⟩
  cases heq
  exact hs hkind

/-! ## Texts of contents -/

/-- The text of a part of a rich text, however long. -/
def RichPart.shown : RichPart → String
  | text s => s
  | int n => Number.intText n

theorem RichPart.shown_of_read {part : RichPart} {s : String} (h : part.read = .ok s) : part.shown = s := by
  cases part with
  | text t =>
    cases h
    rfl
  | int n =>
    cases hn : Number.intWritable n with
    | true =>
      simp only [RichPart.read, hn, if_true] at h
      exact Except.ok.inj h
    | false =>
      rw [read_of_not_writable hn] at h
      cases h

namespace Content

variable {content : Content} {s : String} {v : Value}

/-- The text of a content: a stored text, the text of an array formula, or the texts of the parts of a rich text. -/
def text? : Content → Option String
  | text s => some s
  | arrayFormula s => s
  | rich parts => some (String.join (parts.map RichPart.shown))
  | empty | bool _ | number _ | decimal _ | date _ | dateTime .. | time _ | duration _ => none

theorem readText_eq_error_iff {kind : ErrorKind} : readText s = .error kind ↔ kind ∈ ErrorKind.codes ∧ s = kind := by
  unfold readText
  split
  · rename_i hcode
    rw [Value.error.injEq]
    exact ⟨fun h => ⟨h ▸ hcode, h⟩, And.right⟩
  · rename_i hcode
    simp only [reduceCtorEq, false_iff]
    rintro ⟨hkind, rfl⟩
    exact hcode hkind

theorem readText_ne_code {kind : ErrorKind} (hkind : kind ∈ ErrorKind.codes) : readText s ≠ .text kind := by
  unfold readText
  split
  · nofun
  · rename_i hcode
    rintro h
    cases h
    exact hcode hkind

/-- What has a text is read as the text. -/
theorem eq_readText_of_read (hs : content.text? = some s) (h : content.read = .ok v) : v = readText s := by
  cases content with
  | text t =>
    cases hs
    cases h
    rfl
  | arrayFormula t =>
    cases hs
    cases h
    rfl
  | rich parts =>
    cases hs
    obtain ⟨texts, htexts, h⟩ := bind_eq_ok_iff.mp h
    cases h
    have hshown : List.Forall₂ (fun part t => part.shown = t) parts texts :=
      (mapM_eq_ok_iff.mp htexts).imp fun _ _ => RichPart.shown_of_read
    rw [← List.forall₂_map_left_iff (R := Eq), List.forall₂_eq_eq_eq] at hshown
    rw [hshown]
  | empty | bool b | number n | decimal d | date d | dateTime d t | time t | duration d => cases hs

/-! ### Dates and times -/

/-- No code has a mark that stands in every date or in every time. -/
theorem not_mem_codes_of_mem {c : Char} (hc : c = '-' ∨ c = ':') (h : c ∈ s.toList) : s ∉ ErrorKind.codes := by
  have hmarks : ∀ kind ∈ ErrorKind.codes, '-' ∉ kind.toList ∧ ':' ∉ kind.toList := by decide
  intro hs
  rcases hc with rfl | rfl
  · exact (hmarks s hs).1 h
  · exact (hmarks s hs).2 h

theorem mem_dateText (d : Date) : '-' ∈ d.text.toList := by
  simp [Date.text]

theorem mem_timeText (t : ClockTime) : ':' ∈ t.text.toList := by
  simp [ClockTime.text]

theorem mem_durationText (d : Duration) : ':' ∈ d.text.toList := by
  simp [Duration.text]

/-- What has no text is read as neither an error nor the code of one. -/
theorem uncoded_of_read (hs : content.text? = none) (h : content.read = .ok v) : v.Uncoded := by
  cases content with
  | empty | bool b | number n =>
    cases h
    exact ⟨rfl, fun _ _ => nofun⟩
  | decimal d =>
    obtain ⟨x, -, h⟩ := bind_eq_ok_iff.mp h
    cases h
    exact ⟨rfl, fun _ _ => nofun⟩
  | date d =>
    cases h
    exact Value.uncoded_text (not_mem_codes_of_mem (Or.inl rfl) (mem_dateText d))
  | dateTime d t =>
    cases h
    exact Value.uncoded_text (not_mem_codes_of_mem (Or.inl rfl) (by simp [mem_dateText d]))
  | time t =>
    cases h
    exact Value.uncoded_text (not_mem_codes_of_mem (Or.inr rfl) (mem_timeText t))
  | duration d =>
    cases h
    exact Value.uncoded_text (not_mem_codes_of_mem (Or.inr rfl) (mem_durationText d))
  | arrayFormula t =>
    cases hs
    cases h
    exact ⟨rfl, fun _ _ => nofun⟩
  | text t | rich parts => cases hs

/-! ## Contents that can be read -/

/-- What cannot be read is a signaling NaN, or a rich text with an integer that is too long. -/
theorem exists_read_iff : (∃ v, content.read = .ok v) ↔ content.Readable := by
  refine ⟨fun ⟨v, h⟩ => ?_, Readable.exists_read⟩
  cases content with
  | decimal d =>
    rintro rfl
    cases h
  | rich parts =>
    intro n hn
    obtain ⟨texts, htexts, -⟩ := bind_eq_ok_iff.mp h
    obtain ⟨s, -, hs⟩ := exists_of_mapM_eq_ok htexts hn
    by_contra hlong
    rw [RichPart.read_of_not_writable (Bool.eq_false_of_not_eq_true hlong)] at hs
    cases hs
  | empty | bool b | number n | text s | date d | dateTime d t | time t | duration d | arrayFormula s => exact trivial

end Content

/-! ## Values that are stored again -/

/-- A scalar that is neither an error nor the code of one can be stored, and is read where it is stored. -/
theorem Value.exists_stored {v : Value} (hv : v.IsScalar) (h : v.Uncoded) :
    ∃ content, Content.ofValue v = .ok content ∧ content.read = .ok v := by
  obtain ⟨herror, huncoded⟩ := h
  cases v with
  | empty | bool b | number n => exact ⟨_, rfl, rfl⟩
  | text s => exact ⟨.text s, rfl, congrArg Except.ok (if_neg fun hs => huncoded s hs rfl)⟩
  | error kind => cases herror
  | list items | collection items | reference ref | bearer ref | classified v isArray | bare items
  | bareReference ref => exact hv.elim

/-- A content is normalized as a value if this is a scalar, the error that has the text of the content for its code and
no other error, never such a code as a text, and, unless it is an error, what is read of every cell that stores it. -/
structure Content.NormalizedAs (content : Content) (v : Value) : Prop where
  scalar : v.IsScalar
  error_iff : ∀ kind, v = .error kind ↔ kind ∈ ErrorKind.codes ∧ content.text? = some kind
  uncoded : ∀ kind ∈ ErrorKind.codes, v ≠ .text kind
  stable : v.isError = false → ∃ again, Content.ofValue v = .ok again ∧
    ∀ (reader : SheetReader) (r : CellReference) (sheet : Worksheet), reader.sheetOf r.sheet = .ok (.worksheet sheet) →
      reader.inBounds r.row r.col = true → sheet.stored (r.row, r.col) = again → reader.read (.cell r) = .ok v

theorem Content.normalizedAs_of_read {content : Content} {v : Value} (h : content.read = .ok v) :
    content.NormalizedAs v := by
  have hscalar : v.IsScalar := content.endsIn_read.of_eq_ok h
  have hcodes : (∀ kind, v = .error kind ↔ kind ∈ ErrorKind.codes ∧ content.text? = some kind) ∧
      ∀ kind ∈ ErrorKind.codes, v ≠ .text kind := by
    cases hs : content.text? with
    | some s =>
      rw [eq_readText_of_read hs h]
      exact ⟨fun kind => by rw [readText_eq_error_iff, Option.some.injEq], fun kind => readText_ne_code⟩
    | none =>
      obtain ⟨herror, huncoded⟩ := uncoded_of_read hs h
      refine ⟨fun kind => ⟨?_, nofun⟩, huncoded⟩
      rintro rfl
      cases herror
  refine ⟨hscalar, hcodes.1, hcodes.2, fun herror => ?_⟩
  obtain ⟨again, hagain, hread⟩ := Value.exists_stored hscalar ⟨herror, hcodes.2⟩
  refine ⟨again, hagain, fun reader r sheet hsheet hin hstored => ?_⟩
  refine reader.read_cell_eq_ok_iff.mpr ⟨sheet, hsheet, hin, ?_⟩
  rw [Worksheet.readCell_eq_read_stored, hstored, hread]

namespace SheetReader

variable {reader : SheetReader}

theorem exists_read_cell_iff {r : CellReference} {sheet : Worksheet}
    (hsheet : reader.sheetOf r.sheet = .ok (.worksheet sheet)) (hin : reader.inBounds r.row r.col = true) :
    (∃ v, reader.read (.cell r) = .ok v) ↔ (sheet.stored (r.row, r.col)).Readable := by
  rw [← Content.exists_read_iff]
  refine exists_congr fun v => ?_
  rw [reader.read_cell_eq_ok_iff, ← Worksheet.readCell_eq_read_stored]
  constructor
  · rintro ⟨sheet', hsheet', -, hread⟩
    cases hsheet.symm.trans hsheet'
    exact hread
  · exact fun hread => ⟨sheet, hsheet, hin, hread⟩

theorem normalizedAs_of_read_cell {r : CellReference} {v : Value} (h : reader.read (.cell r) = .ok v) :
    ∃ sheet, reader.sheetOf r.sheet = .ok (.worksheet sheet) ∧ (sheet.stored (r.row, r.col)).NormalizedAs v := by
  obtain ⟨sheet, hsheet, -, hread⟩ := reader.read_cell_eq_ok_iff.mp h
  rw [Worksheet.readCell_eq_read_stored] at hread
  exact ⟨sheet, hsheet, Content.normalizedAs_of_read hread⟩

theorem normalizedAs_of_read_range {r : RangeReference} {v : Value} (h : reader.read (.range r) = .ok v) :
    ∃ (sheet : Worksheet) (grid : Rows), reader.sheetOf r.sheet = .ok (.worksheet sheet) ∧ v = grid.toValue ∧
      ∀ (i j : Nat) (x : Value), grid.get? i j = some x →
        (sheet.stored ((r.rowsOn sheet).1 + i, (r.colsOn sheet).1 + j)).NormalizedAs x := by
  obtain ⟨sheet, grid, hsheet, -, hrows, rfl⟩ := reader.exists_grid_of_read h
  obtain ⟨hgrid, hentries⟩ := Worksheet.isGrid_of_readRows hrows
  refine ⟨sheet, grid, hsheet, rfl, fun i j x hx => ?_⟩
  have hplace : i < ((r.rowsOn sheet).2 - (r.rowsOn sheet).1 + 1).toNat ∧
      j < ((r.colsOn sheet).2 - (r.colsOn sheet).1 + 1).toNat := by
    by_contra hout
    rw [hgrid.get?_eq_none (by omega)] at hx
    cases hx
  obtain ⟨y, hy, hread⟩ := hentries i j hplace.1 hplace.2
  cases hx.symm.trans hy
  rw [Worksheet.readCell_eq_read_stored] at hread
  exact Content.normalizedAs_of_read hread

/-- A cell inside the limits of a worksheet is read iff its content can be. What is read of a reference, of a cell or at
any place of a range, is its content, normalized. -/
theorem read_normalizes (reader : SheetReader) :
    (∀ (r : CellReference) (sheet : Worksheet), reader.sheetOf r.sheet = .ok (.worksheet sheet) →
      reader.inBounds r.row r.col = true →
        ((∃ v, reader.read (.cell r) = .ok v) ↔ (sheet.stored (r.row, r.col)).Readable)) ∧
    (∀ (r : CellReference) (v : Value), reader.read (.cell r) = .ok v →
      ∃ sheet, reader.sheetOf r.sheet = .ok (.worksheet sheet) ∧ (sheet.stored (r.row, r.col)).NormalizedAs v) ∧
    ∀ (r : RangeReference) (v : Value), reader.read (.range r) = .ok v →
      ∃ (sheet : Worksheet) (grid : Rows), reader.sheetOf r.sheet = .ok (.worksheet sheet) ∧ v = grid.toValue ∧
        ∀ (i j : Nat) (x : Value), grid.get? i j = some x →
          (sheet.stored ((r.rowsOn sheet).1 + i, (r.colsOn sheet).1 + j)).NormalizedAs x :=
  ⟨fun _ _ => exists_read_cell_iff, fun _ _ => normalizedAs_of_read_cell, fun _ _ => normalizedAs_of_read_range⟩

/-- A sheet with a code that is spread over the parts of a rich text, and with a day. -/
def noteSheet : Worksheet := ⟨"Data", [((1, 1), .rich [.text "#N", .text "/A"]), ((1, 2), .date ⟨2024, 1, 2⟩)]⟩

def noteReader : SheetReader where
  workbook := { sheets := [.worksheet noteSheet], active := 0 }

theorem read_normalizes_note : noteReader.read (.cell ⟨1, 1, none, none⟩) = .ok (.error .notAvailable) ∧
    (Content.rich [.text "#N", .text "/A"]).NormalizedAs (.error .notAvailable) ∧
    noteReader.read (.range ⟨⟨some 2, some 1, none⟩, ⟨some 1, some 1, none⟩, none, none⟩) =
      .ok (Rows.toValue [[.error .notAvailable, .text "2024-01-02"]]) ∧
    (Content.date ⟨2024, 1, 2⟩).NormalizedAs (.text "2024-01-02") := by
  have hcell : noteReader.read (.cell ⟨1, 1, none, none⟩) = .ok (.error .notAvailable) := by rfl
  have hrange : noteReader.read (.range ⟨⟨some 2, some 1, none⟩, ⟨some 1, some 1, none⟩, none, none⟩) =
      .ok (Rows.toValue [[.error .notAvailable, .text "2024-01-02"]]) := by rfl
  have hsheet : noteReader.sheetOf none = .ok (.worksheet noteSheet) := rfl
  obtain ⟨-, hcells, hranges⟩ := noteReader.read_normalizes
  obtain ⟨sheet, hfound, hcode⟩ := hcells _ _ hcell
  cases hsheet.symm.trans hfound
  obtain ⟨sheet, grid, hfound, hgrid, hday⟩ := hranges _ _ hrange
  cases hsheet.symm.trans hfound
  cases Rows.toValue_injective hgrid
  exact ⟨hcell, hcode, hrange, hday 0 1 _ rfl⟩

end SheetReader

end GridCalc
