import GridCalc.Proofs.Reference.Acceptance

/-!
# Names of cells

A cell is named by the letters of its column and the digits of its row (`Address.cellName`). The texts that are read as
the cell are those that name it in letters of either case and with anchors or without
(`Reference.parseCell_of_mem_decorated`, `Reference.exists_of_parseCell`).

Main statement: `Reference.parsing_inverts_naming`. A text that is read as a cell is the name of the cell but for its
anchors and the case of its letters, every such text of a name is read as the cell, and the two ends of a range of
columns or rows are the two sides of its colon.
-/

namespace GridCalc

namespace Address

variable {s column column' row row' : List Char} {most : Nat}

/-! ## Texts without anchors -/

/-- What is left of a text without its anchors. -/
def unanchored (text : String) : String := String.ofList (text.toList.filter (· ≠ '$'))

theorem filter_of_unmarked (h : Unmarked s) : s.filter (· ≠ '$') = s :=
  List.filter_eq_self.mpr fun c hc => by simpa using (h c hc).1

theorem filter_of_mem_anchorTexts (h : s ∈ anchorTexts) : s.filter (· ≠ '$') = [] := by
  rcases mem_anchorTexts.mp h with rfl | rfl <;> rfl

/-- Without its anchors, a cell consists of its letters and its digits. -/
theorem filter_cell {a b : List Char} (ha : a ∈ anchorTexts) (hcolumn : column ∈ columnTexts most)
    (hb : b ∈ anchorTexts) (hrow : row ∈ rowTexts) :
    (a ++ (column ++ (b ++ row))).filter (· ≠ '$') = column ++ row := by
  rw [List.filter_append, List.filter_append, List.filter_append, filter_of_mem_anchorTexts ha,
    filter_of_unmarked (unmarked_of_mem_columnTexts hcolumn), filter_of_mem_anchorTexts hb,
    filter_of_unmarked (unmarked_of_mem_rowTexts hrow), List.nil_append, List.nil_append]

/-- Without its anchors, a range consists of its ends and of the colon. -/
theorem unanchored_range {text : String} {a b first last : List Char} (ha : a ∈ anchorTexts) (hfirst : Unmarked first)
    (hb : b ∈ anchorTexts) (hlast : Unmarked last) (htext : text.toList = (a ++ first) ++ ':' :: (b ++ last)) :
    unanchored text = String.ofList first ++ ":" ++ String.ofList last := by
  have hcolon : ":" = String.ofList [':'] := rfl
  rw [unanchored, htext, hcolon, ← String.ofList_append, ← String.ofList_append]
  simp only [List.filter_append, List.filter_cons, filter_of_mem_anchorTexts ha, filter_of_mem_anchorTexts hb,
    filter_of_unmarked hfirst, filter_of_unmarked hlast]
  simp

/-! ## Names -/

/-- The name of a cell: the letters of its column and the digits of its row. -/
def cellName (col row : Int) : Except Fault String := do
  return (← Column.letters col) ++ Number.intText row

/-- The texts of given letters, in either case, and given digits, with anchors or without. -/
def decorated (letters digits : List Char) : Language Char :=
  {s | ∃ a ∈ anchorTexts, ∃ column : List Char, column.map Char.toUpper = letters ∧
    ∃ b ∈ anchorTexts, s = a ++ (column ++ (b ++ digits))}

/-- The name that a text spells: without anchors, and in capitals. -/
def plainName (text : String) : String := String.ofList ((unanchored text).toList.map Char.toUpper)

theorem map_toUpper_row (h : row ∈ rowTexts) : row.map Char.toUpper = row := by
  have hsame : ∀ c ∈ row, c.toUpper = c := fun c hc => by
    have hdigit := Text.toNat_of_isDigit (h.2 c hc)
    refine dif_neg fun hlower => ?_
    have hlow := UInt32.le_iff_toNat_le.mp hlower.1
    have ha : 'a'.val.toNat = 97 := rfl
    have hc : c.toNat = c.val.toNat := rfl
    omega
  rw [List.map_congr_left hsame, List.map_id']

theorem plainName_cell {text : String} {a b : List Char} (ha : a ∈ anchorTexts) (hcolumn : column ∈ columnTexts most)
    (hb : b ∈ anchorTexts) (hrow : row ∈ rowTexts) (htext : text.toList = a ++ (column ++ (b ++ row))) :
    plainName text = String.ofList (column.map Char.toUpper ++ row) := by
  rw [plainName, unanchored, htext, filter_cell ha hcolumn hb hrow, String.toList_ofList, List.map_append,
    map_toUpper_row hrow]

/-- The letters of the number that the letters of a column spell are these letters in capitals. -/
theorem letters_columnNumber (h : column ∈ columnTexts 3) :
    Column.letters (columnNumber column) = .ok (String.ofList (column.map Char.toUpper)) := by
  obtain ⟨hne, hlen, halpha⟩ := h
  have hpos := Column.one_le_index halpha (List.length_pos_iff.mp hne)
  have hle : Column.index (String.ofList column) ≤ Column.lastOf 3 :=
    (Column.index_le_lastOf halpha).trans (Column.lastOf_mono hlen)
  have hlast := Column.lastOf_three
  rw [Column.letters, columnNumber, if_pos (by omega), Int.toNat_natCast, Column.spell_index halpha]

theorem intText_digitsValue (h : row ∈ rowTexts) : Number.intText (Text.digitsValue row) = String.ofList row := by
  obtain ⟨hne, hzero⟩ := head?_ne_of_mem_rowTexts h
  rw [Number.intText, if_neg (by omega), Int.natAbs_natCast, Text.toDigits_digitsValue h.2 hne hzero]

theorem cellName_of_parts (hcolumn : column ∈ columnTexts 3) (hrow : row ∈ rowTexts) :
    cellName (columnNumber column) (Text.digitsValue row) = .ok (String.ofList (column.map Char.toUpper ++ row)) := by
  rw [cellName, letters_columnNumber hcolumn, ok_bind, intText_digitsValue hrow, String.ofList_append]
  rfl

/-- The capitals of a column are followed by no letter. -/
theorem name_inj (hcolumn : column ∈ columnTexts 3) (hrow : row ∈ rowTexts) (hcolumn' : column' ∈ columnTexts 3)
    (hrow' : row' ∈ rowTexts) (h : column.map Char.toUpper ++ row = column'.map Char.toUpper ++ row') :
    column.map Char.toUpper = column'.map Char.toUpper ∧ row = row' := by
  have hspan : ∀ {column row : List Char}, column ∈ columnTexts 3 → row ∈ rowTexts →
      (column.map Char.toUpper ++ row).takeWhile isLetter = column.map Char.toUpper ∧
        (column.map Char.toUpper ++ row).dropWhile isLetter = row := by
    intro column row hcolumn hrow
    have hnone : [] ∈ anchorTexts := Or.inl rfl
    refine Text.span_append (fun c hc => ?_) fun c hc => isLetter_head?_row hnone hrow hc
    rw [← Column.spell_index hcolumn.2.2] at hc
    rw [isLetter_eq]
    exact Bool.or_eq_true_iff.mpr (Or.inl (Column.isUpper_of_mem_spell hc))
  obtain ⟨htake, hdrop⟩ := hspan hcolumn hrow
  obtain ⟨htake', hdrop'⟩ := hspan hcolumn' hrow'
  rw [h] at htake hdrop
  exact ⟨htake.symm.trans htake', hdrop.symm.trans hdrop'⟩

/-- Letters of either case that are those of a named column are letters of a column. -/
theorem mem_columnTexts_of_map_toUpper {n : Nat} (hpos : 1 ≤ n) (hlast : n ≤ Column.lastOf 3)
    (h : column.map Char.toUpper = Column.spell n) : column ∈ columnTexts 3 := by
  have hlength := congrArg List.length h
  rw [List.length_map] at hlength
  have hle := Column.length_spell_le hlast
  have hne : Column.spell n ≠ [] := by
    rw [Column.spell_of_ne_zero (by omega)]
    simp
  have hpos' := List.length_pos_iff.mpr hne
  refine ⟨by omega, by omega, fun c hc => Column.isAlpha_of_isUpper_toUpper ?_⟩
  exact Column.isUpper_of_mem_spell (h ▸ List.mem_map_of_mem hc)

theorem toDigits_mem_rowTexts {n : Nat} (hpos : 1 ≤ n) : Nat.toDigits 10 n ∈ rowTexts := by
  refine ⟨?_, fun c hc => Nat.isDigit_of_mem_toDigits (by decide) (by decide) hc⟩
  obtain ⟨c, rest, hdigits⟩ := List.exists_cons_of_ne_nil (Nat.toDigits_ne_nil (b := 10) (n := n))
  have hzero := Text.head?_toDigits hpos
  rw [hdigits] at hzero
  exact ⟨c, rest, hdigits, fun hc => hzero (congrArg some hc)⟩

end Address

namespace Reference

open Address

variable {text : String} {sheet : Option String} {ref : Reference}

/-! ## Reading and naming -/

theorem eq_digitsValue_of_rowNumber {digits : List Char} {n : Int} (h : rowNumber digits = .ok n) :
    n = Text.digitsValue digits := by
  unfold rowNumber at h
  split at h <;> cases h
  rfl

theorem exists_of_parseCell (h : parseCell text sheet = .ok ref) : ∃ column ∈ columnTexts 3, ∃ row ∈ rowTexts,
    plainName text = String.ofList (column.map Char.toUpper ++ row) ∧
      ref = cell { col := columnNumber column, row := Text.digitsValue row, sheet, address := some text } := by
  have hparse : parseAs .cell text sheet = .ok ref := h
  have hmem := mem_language_of_parseAs hparse
  obtain ⟨a, ha, column, hcolumn, b, hb, row, hrow, htext⟩ := mem_cellTexts.mp hmem
  rw [parseCell_eq (cellParts?_eq_some_iff.mpr ⟨hcolumn, hrow, a, ha, b, hb, htext⟩)] at h
  obtain ⟨n, hn, h⟩ := bind_eq_ok_iff.mp h
  rw [eq_digitsValue_of_rowNumber hn] at h
  exact ⟨column, hcolumn, row, hrow, plainName_cell ha hcolumn hb hrow htext, (Except.ok.inj h).symm⟩

/-- Every text that names a cell, decorated in whatever way, is read as the cell. -/
theorem parseCell_of_mem_decorated {m n : Nat} (hm : 1 ≤ m) (hlast : m ≤ Column.lastOf 3) (hn : 1 ≤ n)
    (hshort : (Nat.toDigits 10 n).length ≤ Number.digitLimit)
    (h : text.toList ∈ decorated (Column.spell m) (Nat.toDigits 10 n)) :
    parseCell text sheet = .ok (cell { col := m, row := n, sheet, address := some text }) := by
  obtain ⟨a, ha, column, hletters, b, hb, htext⟩ := h
  have hcolumn := mem_columnTexts_of_map_toUpper hm hlast hletters
  rw [parseCell_eq (cellParts?_eq_some_iff.mpr ⟨hcolumn, toDigits_mem_rowTexts hn, a, ha, b, hb, htext⟩),
    rowNumber_of_le hshort, ok_bind, Text.digitsValue_toDigits, columnNumber, Column.index_of_map_toUpper hletters]

/-- The end of a range is the column that its address spells, and no row. -/
structure IsColumnEnd (e : RangeEnd) (letters : String) : Prop where
  address : e.address = some letters
  row : e.row = none
  col : e.col = some (Column.index letters)
  spelled : Column.spell (Column.index letters) = letters.toList.map Char.toUpper

/-- The end of a range is the row that its address writes, and no column. -/
structure IsRowEnd (e : RangeEnd) (digits : String) : Prop where
  address : e.address = some digits
  col : e.col = none
  row : ∃ n : Int, e.row = some n ∧ Number.intText n = digits

theorem ends_of_parseColumnRange (h : parseColumnRange text sheet = .ok ref) : ∃ r first last, ref = range r ∧
    r.sheet = sheet ∧ r.address = some text ∧ unanchored text = first ++ ":" ++ last ∧ IsColumnEnd r.first first ∧
      IsColumnEnd r.last last := by
  have hparse : parseAs .columnRange text sheet = .ok ref := h
  have hmem := mem_language_of_parseAs hparse
  obtain ⟨a, ha, first, hfirst, b, hb, last, hlast, htext⟩ := mem_rangeTexts.mp hmem
  rw [parseColumnRange_eq (columnRangeParts?_eq_some_iff.mpr ⟨hfirst, hlast, a, ha, b, hb, htext⟩)] at h
  have hend : ∀ {most : Nat}, ∀ letters ∈ columnTexts most,
      IsColumnEnd { col := some (columnNumber letters), row := none, address := some (String.ofList letters) }
        (String.ofList letters) := fun letters hletters =>
    ⟨rfl, rfl, rfl, by rw [Column.spell_index hletters.2.2, String.toList_ofList]⟩
  exact ⟨_, String.ofList first, String.ofList last, (Except.ok.inj h).symm, rfl, rfl,
    unanchored_range ha (unmarked_of_mem_columnTexts hfirst) hb (unmarked_of_mem_columnTexts hlast) htext,
    hend first hfirst, hend last hlast⟩

theorem ends_of_parseRowRange (h : parseRowRange text sheet = .ok ref) : ∃ r first last, ref = range r ∧
    r.sheet = sheet ∧ r.address = some text ∧ unanchored text = first ++ ":" ++ last ∧ IsRowEnd r.first first ∧
      IsRowEnd r.last last := by
  have hparse : parseAs .rowRange text sheet = .ok ref := h
  have hmem := mem_language_of_parseAs hparse
  obtain ⟨a, ha, first, hfirst, b, hb, last, hlast, htext⟩ := mem_rangeTexts.mp hmem
  rw [parseRowRange_eq (rowRangeParts?_eq_some_iff.mpr ⟨hfirst, hlast, a, ha, b, hb, htext⟩)] at h
  obtain ⟨m, hm, h⟩ := bind_eq_ok_iff.mp h
  obtain ⟨n, hn, h⟩ := bind_eq_ok_iff.mp h
  have hend : ∀ {digits : List Char} {n : Int}, digits ∈ rowTexts → rowNumber digits = .ok n →
      IsRowEnd { col := none, row := some n, address := some (String.ofList digits) } (String.ofList digits) := by
    intro digits n hdigits hn
    refine ⟨rfl, rfl, n, rfl, ?_⟩
    rw [eq_digitsValue_of_rowNumber hn, intText_digitsValue hdigits]
  exact ⟨_, String.ofList first, String.ofList last, (Except.ok.inj h).symm, rfl, rfl,
    unanchored_range ha (unmarked_of_mem_rowTexts hfirst) hb (unmarked_of_mem_rowTexts hlast) htext,
    hend hfirst hm, hend hlast hn⟩

/-- The same cell is named by the texts that differ in anchors and in the case of letters only. -/
theorem sameCell_iff {text' : String} {sheet' : Option String} {r r' : CellReference}
    (h : parseCell text sheet = .ok (cell r)) (h' : parseCell text' sheet' = .ok (cell r')) :
    r.col = r'.col ∧ r.row = r'.row ↔ plainName text = plainName text' := by
  obtain ⟨column, hcolumn, row, hrow, hname, href⟩ := exists_of_parseCell h
  obtain ⟨column', hcolumn', row', hrow', hname', href'⟩ := exists_of_parseCell h'
  cases href
  cases href'
  rw [hname, hname']
  constructor
  · rintro ⟨hcol, hrows⟩
    dsimp only at hcol hrows
    have hnames := cellName_of_parts hcolumn hrow
    rw [hcol, hrows, cellName_of_parts hcolumn' hrow'] at hnames
    exact (Except.ok.inj hnames).symm
  · intro h
    obtain ⟨hletters, rfl⟩ := name_inj hcolumn hrow hcolumn' hrow' (String.ofList_injective h)
    rw [← Column.spell_index hcolumn'.2.2] at hletters
    exact ⟨congrArg Int.ofNat (Column.index_of_map_toUpper hletters), rfl⟩

/-- Reading a cell and naming it are inverse to each other: a text that is read as a cell spells its name, and every
text that spells the name of a cell is read as it. So two texts are read as the same cell iff they differ in anchors
and in the case of letters only. A range without its anchors is its ends with a colon amid, each of which is the column
or the row that its address names. -/
theorem parsing_inverts_naming :
    (∀ text sheet ref, parseCell text sheet = .ok ref → ∃ col row : Int,
        ref = cell { col, row, sheet, address := some text } ∧ cellName col row = .ok (plainName text)) ∧
      (∀ col row : Int, 1 ≤ col → col ≤ Column.lastNamed → 1 ≤ row →
        (Number.intText row).length ≤ Number.digitLimit → ∃ letters, Column.letters col = .ok letters ∧
          ∀ text sheet, text.toList ∈ decorated letters.toList (Number.intText row).toList →
            parseCell text sheet = .ok (cell { col, row, sheet, address := some text })) ∧
      (∀ text text' sheet sheet' r r', parseCell text sheet = .ok (cell r) → parseCell text' sheet' = .ok (cell r') →
        (r.col = r'.col ∧ r.row = r'.row ↔ plainName text = plainName text')) ∧
      (∀ text sheet ref, parseColumnRange text sheet = .ok ref → ∃ r first last, ref = range r ∧ r.sheet = sheet ∧
        r.address = some text ∧ unanchored text = first ++ ":" ++ last ∧ IsColumnEnd r.first first ∧
          IsColumnEnd r.last last) ∧
      ∀ text sheet ref, parseRowRange text sheet = .ok ref → ∃ r first last, ref = range r ∧ r.sheet = sheet ∧
        r.address = some text ∧ unanchored text = first ++ ":" ++ last ∧ IsRowEnd r.first first ∧
          IsRowEnd r.last last := by
  refine ⟨fun text sheet ref h => ?_, fun col row hcol hlast hrow hshort => ?_,
    fun _ _ _ _ _ _ => sameCell_iff, fun _ _ _ => ends_of_parseColumnRange, fun _ _ _ => ends_of_parseRowRange⟩
  · obtain ⟨column, hcolumn, row, hrow, hname, rfl⟩ := exists_of_parseCell h
    exact ⟨_, _, rfl, by rw [cellName_of_parts hcolumn hrow, hname]⟩
  · obtain ⟨m, rfl⟩ := Int.eq_ofNat_of_zero_le (by omega : 0 ≤ col)
    obtain ⟨n, rfl⟩ := Int.eq_ofNat_of_zero_le (by omega : 0 ≤ row)
    have hlastOf := Column.lastOf_three
    refine ⟨String.ofList (Column.spell m), if_pos ⟨hcol, hlast⟩, fun text sheet h => ?_⟩
    rw [String.toList_ofList] at h
    have hdigits : Number.intText n = String.ofList (Nat.toDigits 10 n) := by
      rw [Number.intText, if_neg (by omega), Int.natAbs_natCast]
    rw [hdigits, String.toList_ofList] at h
    rw [hdigits, String.length_ofList] at hshort
    exact parseCell_of_mem_decorated (by omega) (by omega) (by omega) hshort h

/-- The last column of two letters with anchors, in either case, and a range to a column of four letters. -/
theorem parsing_inverts_naming_anchored :
    cellName 702 100 = .ok (plainName "$zZ$100") ∧
      parseCell "Zz$100" none = .ok (cell { col := 702, row := 100, sheet := none, address := some "Zz$100" }) ∧
      ∃ first last, unanchored "$b:$AbCd" = first ++ ":" ++ last := by
  obtain ⟨hname, hread, -, hcolumns, -⟩ := parsing_inverts_naming
  have hcell : parseCell "$zZ$100" none =
      .ok (cell { col := 702, row := 100, sheet := none, address := some "$zZ$100" }) := by rfl
  have hrange : (parseColumnRange "$b:$AbCd" none).toOption.isSome = true := by rfl
  refine ⟨?_, ?_, ?_⟩
  · obtain ⟨col, row, href, hname⟩ := hname _ _ _ hcell
    cases href
    exact hname
  · obtain ⟨letters, hletters, hread⟩ := hread 702 100 (by decide) (by decide) (by decide) (by decide +kernel)
    have hzz : ['z', 'Z'] ∈ columnTexts 3 :=
      ⟨by decide, by decide, List.forall_mem_cons.mpr ⟨rfl, List.forall_mem_singleton.mpr rfl⟩⟩
    have hnumber : columnNumber ['z', 'Z'] = 702 := by decide +kernel
    have hspelled := letters_columnNumber hzz
    rw [hnumber] at hspelled
    cases hletters.symm.trans hspelled
    exact hread _ _ ⟨[], Or.inl rfl, ['Z', 'z'], String.toList_ofList.symm, ['$'], Or.inr rfl, rfl⟩
  · obtain ⟨ref, href⟩ := Option.isSome_iff_exists.mp hrange
    obtain ⟨r, first, last, -, -, -, hends, -⟩ := hcolumns _ _ _ (toOption_eq_some_iff.mp href)
    exact ⟨first, last, hends⟩

end Reference

end GridCalc
