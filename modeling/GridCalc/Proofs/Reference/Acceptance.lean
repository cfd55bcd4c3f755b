import GridCalc.Proofs.Reference.Parsing

/-!
# Which texts are addresses

A text is read as an address of a form iff it lies in the language of the form and none of its runs of digits is too
long. What is not in the language is malformed (`Reference.parseAs_of_not_mem`); a text of the language is read as a
reference or has a row of too many digits (`Reference.reading_parseAs`).

Main statements:

* `Reference.parseAs_outcome`: the three outcomes of reading a text, each with the texts that have it.
* `Reference.parse_accepts`: over texts without long runs of digits, the texts that are read as an address of a form
  are its language, these languages are disjoint, and an address of any form is what the one form that the text has
  makes of it.
-/

namespace GridCalc

namespace Reference

open Address

variable {text : String} {sheet : Option String} {form : AddressForm} {ref : Reference}

/-- Reads a text as an address of a form. -/
def parseAs : AddressForm → String → Option String → Except Fault Reference
  | .cell => parseCell
  | .columnRange => parseColumnRange
  | .rowRange => parseRowRange
  | .any => parse

/-! ## Texts of a language -/

/-- What reading a text of the right form comes to: a reference on the given sheet, unless a run of digits is too
long. -/
inductive Reading (text : String) (sheet : Option String) : Except Fault Reference → Prop
  | short {ref : Reference} (hshort : ShortRuns text.toList) (hsheet : ref.sheet = sheet)
      (hpos : ∀ n ∈ ref.coordinates, 1 ≤ n) : Reading text sheet (.ok ref)
  | long {run : List Char} (hsub : run <:+: text.toList) (hrun : ∀ c ∈ run, c.isDigit = true)
      (hlong : Number.digitLimit < run.length) :
      Reading text sheet (.error (.invalid (.numeral (.tooManyDigits run.length))))

theorem rowNumber_of_le {digits : List Char} (h : digits.length ≤ Number.digitLimit) :
    rowNumber digits = .ok (Text.digitsValue digits) := if_neg (not_lt.mpr h)

theorem rowNumber_of_lt {digits : List Char} (h : Number.digitLimit < digits.length) :
    rowNumber digits = .error (.invalid (.numeral (.tooManyDigits digits.length))) := if_pos h

/-- Only the row of a cell can fail to be read. -/
theorem parseCell_eq {column row : List Char} (h : cellParts? text.toList = some (column, row)) :
    parseCell text sheet = rowNumber row >>= fun n =>
      .ok (cell { col := columnNumber column, row := n, sheet, address := some text }) := by
  rw [parseCell, h]
  rfl

/-- A range of columns is always read. -/
theorem parseColumnRange_eq {first last : List Char} (h : columnRangeParts? text.toList = some (first, last)) :
    parseColumnRange text sheet = .ok (range {
      first := { col := some (columnNumber first), row := none, address := some (String.ofList first) }
      last := { col := some (columnNumber last), row := none, address := some (String.ofList last) }
      sheet
      address := some text }) := by
  simp only [parseColumnRange, h]

/-- Either row of a range can fail to be read. -/
theorem parseRowRange_eq {first last : List Char} (h : rowRangeParts? text.toList = some (first, last)) :
    parseRowRange text sheet = rowNumber first >>= fun m => rowNumber last >>= fun n => .ok (range {
      first := { col := none, row := some m, address := some (String.ofList first) }
      last := { col := none, row := some n, address := some (String.ofList last) }
      sheet
      address := some text }) := by
  simp only [parseRowRange, h]
  cases rowNumber first <;> cases rowNumber last <;> rfl

theorem reading_parseCell (h : text.toList ∈ language .cell) : Reading text sheet (parseCell text sheet) := by
  obtain ⟨a, ha, column, hcolumn, b, hb, row, hrow, htext⟩ := mem_cellTexts.mp h
  have hparts : cellParts? text.toList = some (column, row) :=
    cellParts?_eq_some_iff.mpr ⟨hcolumn, hrow, a, ha, b, hb, htext⟩
  have hparse := @parseCell_eq text sheet column row hparts
  have hshort := shortRuns_cell_iff ha hcolumn hb hrow
  rw [← htext] at hshort
  rcases le_or_gt row.length Number.digitLimit with hle | hlt
  · rw [rowNumber_of_le hle, ok_bind] at hparse
    rw [hparse]
    exact .short (hshort.mpr hle) rfl fun n hn => (isCoordinate_of_parseCell hparse n hn).1
  · rw [hparse, rowNumber_of_lt hlt, error_bind]
    exact .long ⟨a ++ (column ++ b), [], by rw [htext]; simp⟩ hrow.2 hlt

theorem reading_parseColumnRange (h : text.toList ∈ language .columnRange) :
    Reading text sheet (parseColumnRange text sheet) := by
  obtain ⟨a, ha, first, hfirst, b, hb, last, hlast, htext⟩ := mem_rangeTexts.mp h
  have hparts : columnRangeParts? text.toList = some (first, last) :=
    columnRangeParts?_eq_some_iff.mpr ⟨hfirst, hlast, a, ha, b, hb, htext⟩
  have hparse := @parseColumnRange_eq text sheet first last hparts
  rw [hparse]
  exact .short (shortRuns_of_mem_columnRange h) rfl fun n hn => (isCoordinate_of_parseColumnRange hparse n hn).1

theorem reading_parseRowRange (h : text.toList ∈ language .rowRange) :
    Reading text sheet (parseRowRange text sheet) := by
  obtain ⟨a, ha, first, hfirst, b, hb, last, hlast, htext⟩ := mem_rangeTexts.mp h
  have hparts : rowRangeParts? text.toList = some (first, last) :=
    rowRangeParts?_eq_some_iff.mpr ⟨hfirst, hlast, a, ha, b, hb, htext⟩
  have hparse := @parseRowRange_eq text sheet first last hparts
  have hshort := shortRuns_rowRange_iff ha hfirst hb hlast
  rw [← htext] at hshort
  rcases le_or_gt first.length Number.digitLimit with hle | hlt
  · rw [rowNumber_of_le hle, ok_bind] at hparse
    rcases le_or_gt last.length Number.digitLimit with hle' | hlt
    · rw [rowNumber_of_le hle', ok_bind] at hparse
      rw [hparse]
      exact .short (hshort.mpr ⟨hle, hle'⟩) rfl fun n hn => (isCoordinate_of_parseRowRange hparse n hn).1
    · rw [hparse, rowNumber_of_lt hlt, error_bind]
      exact .long ⟨a ++ first ++ ':' :: b, [], by rw [htext]; simp⟩ hlast.2 hlt
  · rw [hparse, rowNumber_of_lt hlt, error_bind]
    exact .long ⟨a, ':' :: (b ++ last), htext.symm⟩ hfirst.2 hlt

/-! ## Other texts -/

/-- A text of one form is read by the parser of this form. -/
theorem parse_of_mem (hform : form ≠ .any) (h : text.toList ∈ language form) :
    parse text sheet = parseAs form text sheet := by
  have hother : ∀ other, other ≠ .any → other ≠ form → text.toList ∉ language other := fun other hany hne hmem =>
    hne ((form_unique hany hmem).symm.trans (form_unique hform h))
  unfold parse
  cases form with
  | cell => rw [if_pos (isSome_cellParts?_iff.mpr h), parseAs]
  | columnRange =>
    rw [if_neg fun hcell => hother .cell nofun nofun (isSome_cellParts?_iff.mp hcell),
      if_pos (isSome_columnRangeParts?_iff.mpr h), parseAs]
  | rowRange =>
    rw [if_neg fun hcell => hother .cell nofun nofun (isSome_cellParts?_iff.mp hcell),
      if_neg fun hcolumns => hother .columnRange nofun nofun (isSome_columnRangeParts?_iff.mp hcolumns),
      if_pos (isSome_rowRangeParts?_iff.mpr h), parseAs]
  | any => exact absurd rfl hform

/-- An address of any form has one of the three forms. -/
theorem exists_form_of_mem_any {s : List Char} (h : s ∈ language .any) :
    ∃ form ∈ [AddressForm.cell, .columnRange, .rowRange], form ≠ .any ∧ s ∈ language form := by
  rcases mem_language_any.mp h with hcell | hcolumns | hrows
  · exact ⟨.cell, by simp, nofun, hcell⟩
  · exact ⟨.columnRange, by simp, nofun, hcolumns⟩
  · exact ⟨.rowRange, by simp, nofun, hrows⟩

theorem mem_any_of_mem {s : List Char} (h : s ∈ language form) : s ∈ language .any := by
  cases form with
  | cell => exact mem_language_any.mpr (Or.inl h)
  | columnRange => exact mem_language_any.mpr (Or.inr (Or.inl h))
  | rowRange => exact mem_language_any.mpr (Or.inr (Or.inr h))
  | any => exact h

theorem reading_parseAs (h : text.toList ∈ language form) : Reading text sheet (parseAs form text sheet) := by
  have hsingle : ∀ form, form ≠ .any → text.toList ∈ language form → Reading text sheet (parseAs form text sheet) := by
    intro form hform h
    cases form with
    | cell => exact reading_parseCell h
    | columnRange => exact reading_parseColumnRange h
    | rowRange => exact reading_parseRowRange h
    | any => exact absurd rfl hform
  by_cases hform : form = .any
  · subst hform
    obtain ⟨form, -, hform, hmem⟩ := exists_form_of_mem_any h
    rw [parseAs, parse_of_mem hform hmem]
    exact hsingle form hform hmem
  · exact hsingle form hform h

/-- What is not in the language of a form is malformed. -/
theorem parseAs_of_not_mem (h : text.toList ∉ language form) :
    parseAs form text sheet = .error (.malformedReference (.address form text)) := by
  cases form with
  | cell =>
    rw [parseAs, parseCell, Option.not_isSome_iff_eq_none.mp (mt isSome_cellParts?_iff.mp h)]
    rfl
  | columnRange =>
    rw [parseAs, parseColumnRange, Option.not_isSome_iff_eq_none.mp (mt isSome_columnRangeParts?_iff.mp h)]
    rfl
  | rowRange =>
    rw [parseAs, parseRowRange, Option.not_isSome_iff_eq_none.mp (mt isSome_rowRangeParts?_iff.mp h)]
    rfl
  | any =>
    have hnone : ∀ form, text.toList ∉ language form := fun form hmem => h (mem_any_of_mem hmem)
    rw [parseAs, parse, if_neg fun hcell => hnone .cell (isSome_cellParts?_iff.mp hcell),
      if_neg fun hcolumns => hnone .columnRange (isSome_columnRangeParts?_iff.mp hcolumns),
      if_neg fun hrows => hnone .rowRange (isSome_rowRangeParts?_iff.mp hrows)]
    rfl

/-! ## Outcomes -/

/-- Reading a text as an address of a form has three outcomes. A text out of the language of the form is malformed. A
text of the language whose runs of digits are short is read as a reference on the given sheet, with positive
coordinates. Only a text of the language with a longer run of digits ends in another fault, which counts the digits. -/
theorem parseAs_outcome (form : AddressForm) (text : String) (sheet : Option String) :
    (text.toList ∉ language form ∧ parseAs form text sheet = .error (.malformedReference (.address form text))) ∨
      (text.toList ∈ language form ∧ ShortRuns text.toList ∧
        ∃ ref, parseAs form text sheet = .ok ref ∧ ref.sheet = sheet ∧ ∀ n ∈ ref.coordinates, 1 ≤ n) ∨
      (text.toList ∈ language form ∧ ∃ run, run <:+: text.toList ∧ (∀ c ∈ run, c.isDigit = true) ∧
        Number.digitLimit < run.length ∧
        parseAs form text sheet = .error (.invalid (.numeral (.tooManyDigits run.length)))) := by
  by_cases hmem : text.toList ∈ language form
  · have hreading : Reading text sheet (parseAs form text sheet) := reading_parseAs hmem
    cases houtcome : parseAs form text sheet with
    | ok ref =>
      rw [houtcome] at hreading
      cases hreading with
      | short hshort hsheet hpos => exact Or.inr (Or.inl ⟨hmem, hshort, ref, rfl, hsheet, hpos⟩)
    | error fault =>
      rw [houtcome] at hreading
      cases hreading with
      | @long run hsub hrun hlong => exact Or.inr (Or.inr ⟨hmem, run, hsub, hrun, hlong, rfl⟩)
  · exact Or.inl ⟨hmem, parseAs_of_not_mem hmem⟩

/-- The address of the cell in column A whose row is a run of ones, one more than `n`. -/
def onesAddress (n : Nat) : String := String.ofList ('A' :: List.replicate (n + 1) '1')

theorem cellParts?_onesAddress (n : Nat) :
    cellParts? (onesAddress n).toList = some (['A'], List.replicate (n + 1) '1') := by
  have hcolumn : ['A'] ∈ columnTexts 3 := isColumn_iff.mp rfl
  have hrow : List.replicate (n + 1) '1' ∈ rowTexts := by
    refine ⟨⟨'1', List.replicate n '1', List.replicate_succ, by decide⟩, fun c hc => ?_⟩
    rw [List.eq_of_mem_replicate hc]
    rfl
  exact cellParts?_eq_some_iff.mpr ⟨hcolumn, hrow, [], Or.inl rfl, [], Or.inl rfl, String.toList_ofList⟩

theorem onesAddress_mem (n : Nat) : (onesAddress n).toList ∈ language .cell := by
  rw [← isSome_cellParts?_iff, cellParts?_onesAddress]
  rfl

theorem parseAs_onesAddress {n : Nat} (h : Number.digitLimit < n + 1) :
    parseAs .cell (onesAddress n) sheet = .error (.invalid (.numeral (.tooManyDigits (n + 1)))) := by
  have hlong : Number.digitLimit < (List.replicate (n + 1) '1').length := by rwa [List.length_replicate]
  rw [parseAs, parseCell_eq (cellParts?_onesAddress n), rowNumber_of_lt hlong, List.length_replicate, error_bind]

/-- The address of a cell in a row of 4301 ones is well formed, but its row is not read. -/
theorem parseAs_long_row :
    (onesAddress Number.digitLimit).toList ∈ language .cell ∧
      parseAs .cell (onesAddress Number.digitLimit) none =
        .error (.invalid (.numeral (.tooManyDigits (Number.digitLimit + 1)))) ∧
      parseAs .any (onesAddress Number.digitLimit) none =
        .error (.invalid (.numeral (.tooManyDigits (Number.digitLimit + 1)))) := by
  have hmem := onesAddress_mem Number.digitLimit
  have hcell := @parseAs_onesAddress none Number.digitLimit (Nat.lt_succ_self _)
  have hany : parseAs .any (onesAddress Number.digitLimit) none = parseAs .cell (onesAddress Number.digitLimit) none :=
    parse_of_mem nofun hmem
  exact ⟨hmem, hcell, hany.trans hcell⟩

/-! ## Acceptance -/

theorem mem_language_of_parseAs (h : parseAs form text sheet = .ok ref) : text.toList ∈ language form := by
  by_contra hmem
  rw [parseAs_of_not_mem hmem] at h
  cases h

theorem exists_parseAs (hshort : ShortRuns text.toList) (h : text.toList ∈ language form) :
    ∃ ref, parseAs form text sheet = .ok ref := by
  have hreading : Reading text sheet (parseAs form text sheet) := reading_parseAs h
  cases houtcome : parseAs form text sheet with
  | ok ref => exact ⟨ref, rfl⟩
  | error fault =>
    rw [houtcome] at hreading
    cases hreading with
    | @long run hsub hrun hlong => exact absurd (hshort run hsub hrun) (not_le.mpr hlong)

theorem parse_of_parseAs (hform : form ≠ .any) (h : parseAs form text sheet = .ok ref) :
    parse text sheet = .ok ref := by
  rw [parse_of_mem hform (mem_language_of_parseAs h), h]

theorem toOption_eq_some_iff {α : Type} {x : Except Fault α} {a : α} : x.toOption = some a ↔ x = .ok a := by
  cases x <;> simp [Except.toOption]

/-- The forms may be tried in any order. -/
theorem findSome?_parseAs_eq_some_iff {forms : List AddressForm} (hforms : forms.Perm [.cell, .columnRange, .rowRange]) :
    forms.findSome? (fun form => (parseAs form text sheet).toOption) = some ref ↔ parse text sheet = .ok ref := by
  have hfound : ∀ ref, forms.findSome? (fun form => (parseAs form text sheet).toOption) = some ref →
      parse text sheet = .ok ref := by
    intro ref h
    obtain ⟨form, hform, hok⟩ := List.exists_of_findSome?_eq_some h
    have hsingle : form ≠ .any := by
      rintro rfl
      simpa using hforms.mem_iff.mp hform
    exact parse_of_parseAs hsingle (toOption_eq_some_iff.mp hok)
  refine ⟨hfound ref, fun h => ?_⟩
  have hread : parseAs .any text sheet = .ok ref := h
  have hany : text.toList ∈ language .any := mem_language_of_parseAs hread
  obtain ⟨form, hform, hsingle, hmem⟩ := exists_form_of_mem_any hany
  have hok : (parseAs form text sheet).toOption = some ref := by
    rw [toOption_eq_some_iff, ← parse_of_mem hsingle hmem]
    exact h
  cases hfirst : forms.findSome? fun form => (parseAs form text sheet).toOption with
  | none =>
    rw [List.findSome?_eq_none_iff.mp hfirst form (hforms.mem_iff.mpr hform)] at hok
    cases hok
  | some ref' =>
    -- whichever form is found first, it is an address of any form
    have hparse := hfound ref' hfirst
    rw [h, Except.ok.injEq] at hparse
    rw [hparse]

/-- Over a text whose runs of digits are short, each form is read from all texts of its language and from no others.
No text is read in two of the three forms; what one form makes of a text is the address of any form, and a text that
is read in none of the forms is malformed. So the forms may be tried in any order. -/
theorem parse_accepts (sheet : Option String) (hshort : ShortRuns text.toList) :
    (∀ form, (∃ ref, parseAs form text sheet = .ok ref) ↔ text.toList ∈ language form) ∧
      (∀ form form', form ≠ .any → form' ≠ .any → (∃ ref, parseAs form text sheet = .ok ref) →
        (∃ ref, parseAs form' text sheet = .ok ref) → form = form') ∧
      (∀ form ref, form ≠ .any → parseAs form text sheet = .ok ref → parse text sheet = .ok ref) ∧
      ((∀ form, form ≠ .any → ¬∃ ref, parseAs form text sheet = .ok ref) →
        parse text sheet = .error (.malformedReference (.address .any text))) ∧
      ∀ forms : List AddressForm, forms.Perm [.cell, .columnRange, .rowRange] → ∀ ref,
        forms.findSome? (fun form => (parseAs form text sheet).toOption) = some ref ↔ parse text sheet = .ok ref := by
  refine ⟨fun form => ⟨fun ⟨ref, h⟩ => mem_language_of_parseAs h, exists_parseAs hshort⟩, ?_,
    fun form ref hform h => parse_of_parseAs hform h, fun hnone => ?_, fun forms hforms ref =>
    findSome?_parseAs_eq_some_iff hforms⟩
  · rintro form form' hform hform' ⟨ref, h⟩ ⟨ref', h'⟩
    rw [← form_unique hform (mem_language_of_parseAs h), form_unique hform' (mem_language_of_parseAs h')]
  · have hany : text.toList ∉ language .any := fun hany => by
      obtain ⟨form, -, hform, hmem⟩ := exists_form_of_mem_any hany
      exact hnone form hform (exists_parseAs hshort hmem)
    exact parseAs_of_not_mem hany

/-- Anchors, both cases and a last column of four letters. -/
theorem parse_accepts_columns :
    ShortRuns "$b:$abCD".toList ∧ "$b:$abCD".toList ∈ language .columnRange ∧ "$b:$abCD".toList ∉ language .cell ∧
      parse "$b:$abCD" (some "Data") = .ok (.range {
        first := { col := some 2, row := none, address := some "b" }
        last := { col := some 19010, row := none, address := some "abCD" }
        sheet := some "Data"
        address := some "$b:$abCD" }) := by
  have hshort : ShortRuns "$b:$abCD".toList := shortRuns_of_length_le (by decide +kernel)
  have hread : parseAs .columnRange "$b:$abCD" (some "Data") = .ok (.range {
        first := { col := some 2, row := none, address := some "b" }
        last := { col := some 19010, row := none, address := some "abCD" }
        sheet := some "Data"
        address := some "$b:$abCD" }) := by rfl
  obtain ⟨hlanguage, hunique, hparse, -⟩ := parse_accepts (some "Data") hshort
  refine ⟨hshort, (hlanguage .columnRange).mp ⟨_, hread⟩, fun hcell => ?_, hparse .columnRange _ nofun hread⟩
  have := hunique .cell .columnRange nofun nofun ((hlanguage .cell).mpr hcell) ⟨_, hread⟩
  cases this

end Reference

end GridCalc
