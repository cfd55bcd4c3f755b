import GridCalc.Proofs.Text
import GridCalc.Reference.Address

/-!
# The languages of addresses

Each form of an address is a language: a product of the languages of anchors, of column letters, of row digits and of
the colon (`Address.language`). Taking a text apart is its factorization in this product, and there is at most one
(`Address.cellParts?_eq_some_iff`, `Address.rangeParts?_eq_some_iff`). No text has two of the forms
(`Address.form_unique`).

The digits of the rows are all the digits that a text of a form has, so a text has no long run of digits iff none of
its rows is long (`Address.shortRuns_cell_iff`, `Address.shortRuns_rowRange_iff`).
-/

namespace GridCalc

namespace Address

/-! ## Languages -/

/-- An anchor, which may be missing. -/
def anchorTexts : Language Char := {[], ['$']}

/-- One to `most` letters. -/
def columnTexts (most : Nat) : Language Char := {s | 1 ≤ s.length ∧ s.length ≤ most ∧ ∀ c ∈ s, c.isAlpha = true}

/-- One or more digits, the first of them not zero. -/
def rowTexts : Language Char := {s | (∃ c rest, s = c :: rest ∧ c ≠ '0') ∧ ∀ c ∈ s, c.isDigit = true}

def colonTexts : Language Char := {[':']}

def cellTexts : Language Char := anchorTexts * columnTexts 3 * anchorTexts * rowTexts

/-- The texts of ranges between ends of two languages. -/
def rangeTexts (first last : Language Char) : Language Char := anchorTexts * first * colonTexts * anchorTexts * last

/-- The texts of a form. -/
def language : AddressForm → Language Char
  | .cell => cellTexts
  | .columnRange => rangeTexts (columnTexts 3) (columnTexts 4)
  | .rowRange => rangeTexts rowTexts rowTexts
  | .any => cellTexts + rangeTexts (columnTexts 3) (columnTexts 4) + rangeTexts rowTexts rowTexts

variable {s column row : List Char} {most : Nat} {firsts lasts : Language Char}

theorem mem_anchorTexts : s ∈ anchorTexts ↔ s = [] ∨ s = ['$'] := Iff.rfl

theorem mem_columnTexts : s ∈ columnTexts most ↔ 1 ≤ s.length ∧ s.length ≤ most ∧ ∀ c ∈ s, c.isAlpha = true := Iff.rfl

theorem mem_rowTexts :
    s ∈ rowTexts ↔ (∃ c rest, s = c :: rest ∧ c ≠ '0') ∧ ∀ c ∈ s, c.isDigit = true := Iff.rfl

theorem mem_cellTexts : s ∈ cellTexts ↔ ∃ a ∈ anchorTexts, ∃ column ∈ columnTexts 3, ∃ b ∈ anchorTexts,
    ∃ row ∈ rowTexts, s = a ++ (column ++ (b ++ row)) := by
  simp only [cellTexts, Language.mem_mul]
  constructor
  · rintro ⟨_, ⟨_, ⟨a, ha, column, hcolumn, rfl⟩, b, hb, rfl⟩, row, hrow, rfl⟩
    exact ⟨a, ha, column, hcolumn, b, hb, row, hrow, by simp⟩
  · rintro ⟨a, ha, column, hcolumn, b, hb, row, hrow, rfl⟩
    exact ⟨_, ⟨_, ⟨a, ha, column, hcolumn, rfl⟩, b, hb, rfl⟩, row, hrow, by simp⟩

theorem mem_rangeTexts : s ∈ rangeTexts firsts lasts ↔ ∃ a ∈ anchorTexts, ∃ first ∈ firsts, ∃ b ∈ anchorTexts,
    ∃ last ∈ lasts, s = (a ++ first) ++ ':' :: (b ++ last) := by
  simp only [rangeTexts, Language.mem_mul]
  constructor
  · rintro ⟨_, ⟨_, ⟨_, ⟨a, ha, first, hfirst, rfl⟩, _, rfl, rfl⟩, b, hb, rfl⟩, last, hlast, rfl⟩
    exact ⟨a, ha, first, hfirst, b, hb, last, hlast, by simp⟩
  · rintro ⟨a, ha, first, hfirst, b, hb, last, hlast, rfl⟩
    exact ⟨_, ⟨_, ⟨_, ⟨a, ha, first, hfirst, rfl⟩, _, rfl, rfl⟩, b, hb, rfl⟩, last, hlast, by simp⟩

theorem mem_language_any : s ∈ language .any ↔ s ∈ cellTexts ∨ s ∈ rangeTexts (columnTexts 3) (columnTexts 4) ∨
    s ∈ rangeTexts rowTexts rowTexts := by
  rw [language, Language.mem_add, Language.mem_add, or_assoc]

/-! ## Characters -/

theorem isLetter_eq (c : Char) : isLetter c = c.isAlpha := by
  have hupper : c.isUpper = decide ('A' ≤ c ∧ c ≤ 'Z') := rfl
  show isLetter c = (c.isUpper || c.isLower)
  rw [hupper, Bool.decide_and]
  rfl

theorem isAsciiDigit_eq (c : Char) : isAsciiDigit c = c.isDigit := rfl

theorem isColumn_iff : isColumn most s = true ↔ s ∈ columnTexts most := by
  simp only [isColumn, mem_columnTexts, isLetter_eq, Bool.and_eq_true, List.all_eq_true, Bool.not_eq_true',
    List.isEmpty_eq_false_iff, decide_eq_true_eq, ← List.length_pos_iff]
  tauto

theorem isRow_iff : isRow s = true ↔ s ∈ rowTexts := by
  cases s with
  | nil => simp [isRow, mem_rowTexts]
  | cons c rest => simp [isRow, mem_rowTexts, isAsciiDigit_eq, and_comm]

/-- A letter is no digit. -/
theorem isDigit_eq_false_of_isAlpha {c : Char} (h : c.isAlpha = true) : c.isDigit = false := by
  rw [← isLetter_eq] at h
  rw [← isAsciiDigit_eq]
  by_contra hdigit
  simp only [Bool.not_eq_false, isLetter, isAsciiDigit, Bool.or_eq_true, Bool.and_eq_true, decide_eq_true_eq,
    Char.le_def, UInt32.le_iff_toNat_le] at h hdigit
  have h9 : '9'.val.toNat = 57 := rfl
  have hA : 'A'.val.toNat = 65 := rfl
  have ha : 'a'.val.toNat = 97 := rfl
  omega

/-- Neither letters nor digits contain an anchor or a colon. -/
def Unmarked (s : List Char) : Prop := ∀ c ∈ s, c ≠ '$' ∧ c ≠ ':'

theorem unmarked_of_mem_columnTexts (h : s ∈ columnTexts most) : Unmarked s := by
  intro c hc
  have halpha := h.2.2 c hc
  constructor <;> rintro rfl <;> cases halpha

theorem unmarked_of_mem_rowTexts (h : s ∈ rowTexts) : Unmarked s := by
  intro c hc
  have hdigit := h.2 c hc
  constructor <;> rintro rfl <;> cases hdigit

/-- The class of texts is the language, and no text of it is marked. -/
structure Recognizes (class? : List Char → Bool) (texts : Language Char) : Prop where
  accepts_iff : ∀ s, class? s = true ↔ s ∈ texts
  unmarked : ∀ s ∈ texts, Unmarked s

theorem recognizes_isColumn (most : Nat) : Recognizes (isColumn most) (columnTexts most) :=
  ⟨fun _ => isColumn_iff, fun _ => unmarked_of_mem_columnTexts⟩

theorem recognizes_isRow : Recognizes isRow rowTexts := ⟨fun _ => isRow_iff, fun _ => unmarked_of_mem_rowTexts⟩

/-! ## Taking texts apart -/

theorem exists_anchor (s : List Char) : ∃ a ∈ anchorTexts, s = a ++ dropAnchor s := by
  unfold dropAnchor
  split
  · exact ⟨['$'], Or.inr rfl, rfl⟩
  · exact ⟨[], Or.inl rfl, rfl⟩

/-- An anchor is dropped in front of anything else. -/
theorem dropAnchor_append {a : List Char} (ha : a ∈ anchorTexts) (hs : s.head? ≠ some '$') :
    dropAnchor (a ++ s) = s := by
  rcases mem_anchorTexts.mp ha with rfl | rfl
  · cases s with
    | nil => rfl
    | cons c rest =>
      unfold dropAnchor
      split
      · rename_i heq
        cases heq
        exact absurd rfl hs
      · rfl
  · rfl

theorem Unmarked.head?_ne (h : Unmarked s) : s.head? ≠ some '$' := fun hhead =>
  (h '$' (List.mem_of_head? hhead)).1 rfl

theorem dropAnchor_append_of_unmarked {a : List Char} (ha : a ∈ anchorTexts) (hs : Unmarked s) :
    dropAnchor (a ++ s) = s := dropAnchor_append ha hs.head?_ne

theorem head?_append_of_mem_columnTexts (h : column ∈ columnTexts most) (rest : List Char) :
    ∃ c ∈ column, (column ++ rest).head? = some c := by
  cases column with
  | nil => exact absurd h.1 (by simp)
  | cons c letters => exact ⟨c, List.mem_cons_self, rfl⟩

/-- Behind the letters of a cell, no further letter follows. -/
theorem isLetter_head?_row {b : List Char} {c : Char} (hb : b ∈ anchorTexts) (hrow : row ∈ rowTexts)
    (hc : (b ++ row).head? = some c) : isLetter c = false := by
  rcases mem_anchorTexts.mp hb with rfl | rfl
  · have hdigit := hrow.2 c (List.mem_of_head? hc)
    rw [isLetter_eq]
    by_contra halpha
    rw [isDigit_eq_false_of_isAlpha (Bool.eq_true_of_not_eq_false halpha)] at hdigit
    cases hdigit
  · cases hc
    rfl

/-- A text is taken apart into letters and digits iff it consists of them and of anchors in front of each. -/
theorem cellParts?_eq_some_iff : cellParts? s = some (column, row) ↔ column ∈ columnTexts 3 ∧ row ∈ rowTexts ∧
    ∃ a ∈ anchorTexts, ∃ b ∈ anchorTexts, s = a ++ (column ++ (b ++ row)) := by
  simp only [cellParts?, Option.ite_none_right_eq_some, Option.some.injEq, Prod.mk.injEq, Bool.and_eq_true,
    isColumn_iff, isRow_iff]
  constructor
  · rintro ⟨⟨hcolumn, hrow⟩, rfl, rfl⟩
    obtain ⟨a, ha, hs⟩ := exists_anchor s
    obtain ⟨b, hb, hrest⟩ := exists_anchor ((dropAnchor s).dropWhile isLetter)
    refine ⟨hcolumn, hrow, a, ha, b, hb, ?_⟩
    rw [← hrest, List.takeWhile_append_dropWhile]
    exact hs
  · rintro ⟨hcolumn, hrow, a, ha, b, hb, rfl⟩
    have hunanchored : dropAnchor (a ++ (column ++ (b ++ row))) = column ++ (b ++ row) := by
      refine dropAnchor_append ha fun hhead => ?_
      obtain ⟨c, hc, hhead'⟩ := head?_append_of_mem_columnTexts hcolumn (b ++ row)
      rw [hhead] at hhead'
      cases hhead'
      exact (unmarked_of_mem_columnTexts hcolumn '$' hc).1 rfl
    have hletters : ∀ c ∈ column, isLetter c = true := fun c hc => (isLetter_eq c).trans (hcolumn.2.2 c hc)
    obtain ⟨htake, hdrop⟩ := Text.span_append hletters fun c hc => isLetter_head?_row hb hrow hc
    rw [hunanchored, htake, hdrop, dropAnchor_append_of_unmarked hb (unmarked_of_mem_rowTexts hrow)]
    exact ⟨⟨hcolumn, hrow⟩, rfl, rfl⟩

/-- A text is split at its first colon. -/
theorem splitColon_eq_iff {left right : List Char} :
    splitColon s = (left, some right) ↔ ':' ∉ left ∧ s = left ++ ':' :: right := by
  constructor
  · intro h
    unfold splitColon at h
    split at h
    · rename_i c rest hdrop
      cases h
      have hcolon : c = ':' := by
        have hhead := List.head?_dropWhile_not (· != ':') s
        rw [hdrop] at hhead
        simpa using hhead
      refine ⟨fun hmem => ?_, ?_⟩
      · simpa using List.mem_takeWhile_imp hmem
      · rw [hcolon] at hdrop
        rw [← hdrop, List.takeWhile_append_dropWhile]
    · cases h
  · rintro ⟨hleft, rfl⟩
    have hfront : ∀ c ∈ left, (c != ':') = true := fun c hc => by
      rw [bne_iff_ne]
      rintro rfl
      exact hleft hc
    have hrest : ∀ c, (':' :: right).head? = some c → (c != ':') = false := by simp
    obtain ⟨htake, hdrop⟩ := Text.span_append hfront hrest
    rw [splitColon, htake, hdrop]

theorem isSome_cellParts?_iff : (cellParts? s).isSome = true ↔ s ∈ language .cell := by
  rw [Option.isSome_iff_exists, language, mem_cellTexts]
  constructor
  · rintro ⟨⟨column, row⟩, h⟩
    obtain ⟨hcolumn, hrow, a, ha, b, hb, hs⟩ := cellParts?_eq_some_iff.mp h
    exact ⟨a, ha, column, hcolumn, b, hb, row, hrow, hs⟩
  · rintro ⟨a, ha, column, hcolumn, b, hb, row, hrow, hs⟩
    exact ⟨(column, row), cellParts?_eq_some_iff.mpr ⟨hcolumn, hrow, a, ha, b, hb, hs⟩⟩

section

variable {isFirst isLast : List Char → Bool} (hfirsts : Recognizes isFirst firsts) (hlasts : Recognizes isLast lasts)
include hfirsts hlasts

/-- A text is taken apart into two ends iff it consists of them, of anchors in front of each and of a colon amid. -/
theorem rangeParts?_eq_some_iff {first last : List Char} :
    rangeParts? isFirst isLast s = some (first, last) ↔ first ∈ firsts ∧ last ∈ lasts ∧
      ∃ a ∈ anchorTexts, ∃ b ∈ anchorTexts, s = (a ++ first) ++ ':' :: (b ++ last) := by
  constructor
  · intro h
    unfold rangeParts? at h
    split at h
    · rename_i left right hsplit
      rw [Option.ite_none_right_eq_some, Bool.and_eq_true, hfirsts.accepts_iff, hlasts.accepts_iff] at h
      obtain ⟨⟨hfirst, hlast⟩, h⟩ := h
      cases h
      obtain ⟨a, ha, hleft⟩ := exists_anchor left
      obtain ⟨b, hb, hright⟩ := exists_anchor right
      refine ⟨hfirst, hlast, a, ha, b, hb, ?_⟩
      rw [← hleft, ← hright]
      exact (splitColon_eq_iff.mp hsplit).2
    · cases h
  · rintro ⟨hfirst, hlast, a, ha, b, hb, rfl⟩
    have hcolon : ':' ∉ a ++ first := by
      rw [List.mem_append, not_or]
      refine ⟨?_, fun hmem => (hfirsts.unmarked first hfirst ':' hmem).2 rfl⟩
      rcases mem_anchorTexts.mp ha with rfl | rfl <;> simp
    have hsplit : splitColon ((a ++ first) ++ ':' :: (b ++ last)) = (a ++ first, some (b ++ last)) :=
      splitColon_eq_iff.mpr ⟨hcolon, rfl⟩
    simp only [rangeParts?, hsplit, dropAnchor_append_of_unmarked ha (hfirsts.unmarked first hfirst),
      dropAnchor_append_of_unmarked hb (hlasts.unmarked last hlast), (hfirsts.accepts_iff first).mpr hfirst,
      (hlasts.accepts_iff last).mpr hlast, Bool.and_self, if_true]

theorem isSome_rangeParts?_iff : (rangeParts? isFirst isLast s).isSome = true ↔ s ∈ rangeTexts firsts lasts := by
  rw [Option.isSome_iff_exists, mem_rangeTexts]
  constructor
  · rintro ⟨⟨first, last⟩, h⟩
    obtain ⟨hfirst, hlast, a, ha, b, hb, hs⟩ := (rangeParts?_eq_some_iff hfirsts hlasts).mp h
    exact ⟨a, ha, first, hfirst, b, hb, last, hlast, hs⟩
  · rintro ⟨a, ha, first, hfirst, b, hb, last, hlast, hs⟩
    exact ⟨(first, last), (rangeParts?_eq_some_iff hfirsts hlasts).mpr ⟨hfirst, hlast, a, ha, b, hb, hs⟩⟩

end

theorem columnRangeParts?_eq_some_iff {first last : List Char} : columnRangeParts? s = some (first, last) ↔
    first ∈ columnTexts 3 ∧ last ∈ columnTexts 4 ∧
      ∃ a ∈ anchorTexts, ∃ b ∈ anchorTexts, s = (a ++ first) ++ ':' :: (b ++ last) :=
  rangeParts?_eq_some_iff (recognizes_isColumn 3) (recognizes_isColumn 4)

theorem rowRangeParts?_eq_some_iff {first last : List Char} : rowRangeParts? s = some (first, last) ↔
    first ∈ rowTexts ∧ last ∈ rowTexts ∧
      ∃ a ∈ anchorTexts, ∃ b ∈ anchorTexts, s = (a ++ first) ++ ':' :: (b ++ last) :=
  rangeParts?_eq_some_iff recognizes_isRow recognizes_isRow

theorem isSome_columnRangeParts?_iff : (columnRangeParts? s).isSome = true ↔ s ∈ language .columnRange :=
  isSome_rangeParts?_iff (recognizes_isColumn 3) (recognizes_isColumn 4)

theorem isSome_rowRangeParts?_iff : (rowRangeParts? s).isSome = true ↔ s ∈ language .rowRange :=
  isSome_rangeParts?_iff recognizes_isRow recognizes_isRow

/-! ## At most one form -/

/-- The only form that a text may have. -/
def onlyForm (s : List Char) : AddressForm :=
  if ':' ∉ s then .cell else if s.any Char.isAlpha then .columnRange else .rowRange

theorem not_isAlpha_of_mem_anchorTexts {c : Char} (hs : s ∈ anchorTexts) (hc : c ∈ s) :
    c.isAlpha = false ∧ c.isDigit = false ∧ c ≠ ':' := by
  rcases mem_anchorTexts.mp hs with rfl | rfl
  · cases hc
  · rw [List.mem_singleton.mp hc]
    decide

theorem onlyForm_of_mem_cellTexts (h : s ∈ cellTexts) : onlyForm s = .cell := by
  obtain ⟨a, ha, column, hcolumn, b, hb, row, hrow, rfl⟩ := mem_cellTexts.mp h
  refine if_pos ?_
  simp only [List.mem_append, not_or]
  exact ⟨fun hc => (not_isAlpha_of_mem_anchorTexts ha hc).2.2 rfl,
    fun hc => (unmarked_of_mem_columnTexts hcolumn _ hc).2 rfl,
    fun hc => (not_isAlpha_of_mem_anchorTexts hb hc).2.2 rfl, fun hc => (unmarked_of_mem_rowTexts hrow _ hc).2 rfl⟩

theorem onlyForm_of_mem_columnRange (h : s ∈ language .columnRange) : onlyForm s = .columnRange := by
  obtain ⟨a, ha, first, hfirst, b, hb, last, hlast, rfl⟩ := mem_rangeTexts.mp h
  obtain ⟨c, hc, -⟩ := head?_append_of_mem_columnTexts hfirst []
  have hletter : ((a ++ first) ++ ':' :: (b ++ last)).any Char.isAlpha = true :=
    List.any_eq_true.mpr ⟨c, by simp [hc], hfirst.2.2 c hc⟩
  rw [onlyForm, if_neg (by simp), if_pos hletter]

theorem onlyForm_of_mem_rowRange (h : s ∈ language .rowRange) : onlyForm s = .rowRange := by
  obtain ⟨a, ha, first, hfirst, b, hb, last, hlast, rfl⟩ := mem_rangeTexts.mp h
  have hletter : ¬((a ++ first) ++ ':' :: (b ++ last)).any Char.isAlpha = true := by
    rw [List.any_eq_true]
    rintro ⟨c, hc, halpha⟩
    have hdigit : ∀ row ∈ rowTexts, c ∉ row := fun row hrow hmem => by
      have hdigit := hrow.2 c hmem
      rw [isDigit_eq_false_of_isAlpha halpha] at hdigit
      cases hdigit
    have hanchor : ∀ a ∈ anchorTexts, c ∉ a := fun a ha hmem => by
      rw [(not_isAlpha_of_mem_anchorTexts ha hmem).1] at halpha
      cases halpha
    simp only [List.mem_append, List.mem_cons, hdigit first hfirst, hdigit last hlast, hanchor a ha, hanchor b hb,
      false_or, or_false] at hc
    rw [hc] at halpha
    cases halpha
  rw [onlyForm, if_neg (by simp), if_neg hletter]

/-- A text has at most one form. -/
theorem form_unique {form : AddressForm} (hform : form ≠ .any) (h : s ∈ language form) : onlyForm s = form := by
  cases form with
  | cell => exact onlyForm_of_mem_cellTexts h
  | columnRange => exact onlyForm_of_mem_columnRange h
  | rowRange => exact onlyForm_of_mem_rowRange h
  | any => exact absurd rfl hform

/-! ## Runs of digits -/

/-- No run of digits is longer than what is read. -/
def ShortRuns (s : List Char) : Prop :=
  ∀ run, run <:+: s → (∀ c ∈ run, c.isDigit = true) → run.length ≤ Number.digitLimit

theorem infix_of_infix_append {run front rest : List Char} (hfront : ∀ c ∈ front, c ∉ run)
    (h : run <:+: front ++ rest) : run <:+: rest := by
  induction front with
  | nil => exact h
  | cons c front ih =>
    obtain ⟨hc, hfront⟩ := List.forall_mem_cons.mp hfront
    rw [List.cons_append, List.infix_cons_iff] at h
    rcases h with hprefix | hsub
    · -- a run that begins here is empty
      cases run with
      | nil => exact List.nil_infix
      | cons d run =>
        rw [List.cons_prefix_cons] at hprefix
        exact absurd (List.mem_cons.mpr (Or.inl hprefix.1.symm)) hc
    · exact ih hfront hsub

theorem prefix_of_prefix_append_cons {run rest : List Char} {c : Char} (front : List Char) (hc : c ∉ run)
    (h : run <+: front ++ c :: rest) : run <+: front := by
  rcases List.prefix_or_prefix_of_prefix h (List.prefix_append front (c :: rest)) with hrun | ⟨more, rfl⟩
  · exact hrun
  · rw [List.prefix_append_right_inj] at h
    cases more with
    | nil => rw [List.append_nil]
    | cons d more =>
      rw [List.cons_prefix_cons] at h
      exact absurd (List.mem_append_right _ (List.mem_cons.mpr (Or.inl h.1.symm))) hc

/-- A run without a character stands before or behind it. -/
theorem infix_or_infix_of_infix_append_cons {run front rest : List Char} {c : Char} (hc : c ∉ run)
    (h : run <:+: front ++ c :: rest) : run <:+: front ∨ run <:+: rest := by
  induction front with
  | nil =>
    rw [List.nil_append, List.infix_cons_iff] at h
    exact h.imp_left fun hprefix => (prefix_of_prefix_append_cons [] hc hprefix).isInfix
  | cons d front ih =>
    rw [List.cons_append, List.infix_cons_iff] at h
    rcases h with hprefix | hsub
    · exact Or.inl (prefix_of_prefix_append_cons (d :: front) hc hprefix).isInfix
    · exact (ih hsub).imp_left List.infix_cons

/-- No digit of a run is an anchor, a letter or a colon. -/
theorem not_mem_run {run : List Char} {c : Char} (hrun : ∀ c ∈ run, c.isDigit = true) (hc : c.isDigit = false) :
    c ∉ run := fun hmem => by
  rw [hrun c hmem] at hc
  cases hc

theorem infix_of_infix_anchored {run a rest : List Char} (hrun : ∀ c ∈ run, c.isDigit = true) (ha : a ∈ anchorTexts)
    (h : run <:+: a ++ rest) : run <:+: rest :=
  infix_of_infix_append (fun _ hc => not_mem_run hrun (not_isAlpha_of_mem_anchorTexts ha hc).2.1) h

/-- The digits of a cell are those of its row. -/
theorem infix_row_of_infix_cell {run a b : List Char} (hrun : ∀ c ∈ run, c.isDigit = true) (ha : a ∈ anchorTexts)
    (hcolumn : column ∈ columnTexts most) (hb : b ∈ anchorTexts) (h : run <:+: a ++ (column ++ (b ++ row))) :
    run <:+: row := by
  have hletters : ∀ c ∈ column, c ∉ run := fun c hc =>
    not_mem_run hrun (isDigit_eq_false_of_isAlpha (hcolumn.2.2 c hc))
  exact infix_of_infix_anchored hrun hb (infix_of_infix_append hletters (infix_of_infix_anchored hrun ha h))

theorem shortRuns_cell_iff {a b : List Char} (ha : a ∈ anchorTexts) (hcolumn : column ∈ columnTexts most)
    (hb : b ∈ anchorTexts) (hrow : row ∈ rowTexts) :
    ShortRuns (a ++ (column ++ (b ++ row))) ↔ row.length ≤ Number.digitLimit := by
  constructor
  · intro h
    exact h row ⟨a ++ (column ++ b), [], by simp⟩ hrow.2
  · intro hlength run hsub hrun
    exact (infix_row_of_infix_cell hrun ha hcolumn hb hsub).length_le.trans hlength

/-- The digits of a range are those of its ends. -/
theorem infix_end_of_infix_range {run a b first last : List Char} (hrun : ∀ c ∈ run, c.isDigit = true)
    (ha : a ∈ anchorTexts) (hb : b ∈ anchorTexts) (h : run <:+: (a ++ first) ++ ':' :: (b ++ last)) :
    run <:+: first ∨ run <:+: last :=
  (infix_or_infix_of_infix_append_cons (not_mem_run hrun rfl) h).imp (infix_of_infix_anchored hrun ha)
    (infix_of_infix_anchored hrun hb)

theorem shortRuns_rowRange_iff {a b first last : List Char} (ha : a ∈ anchorTexts) (hfirst : first ∈ rowTexts)
    (hb : b ∈ anchorTexts) (hlast : last ∈ rowTexts) : ShortRuns ((a ++ first) ++ ':' :: (b ++ last)) ↔
      first.length ≤ Number.digitLimit ∧ last.length ≤ Number.digitLimit := by
  constructor
  · intro h
    exact ⟨h first ⟨a, ':' :: (b ++ last), by simp⟩ hfirst.2, h last ⟨a ++ first ++ ':' :: b, [], by simp⟩ hlast.2⟩
  · rintro ⟨hlength, hlength'⟩ run hsub hrun
    rcases infix_end_of_infix_range hrun ha hb hsub with h | h
    · exact h.length_le.trans hlength
    · exact h.length_le.trans hlength'

/-- A column range has no digits. -/
theorem shortRuns_of_mem_columnRange (h : s ∈ language .columnRange) : ShortRuns s := by
  obtain ⟨a, ha, first, hfirst, b, hb, last, hlast, rfl⟩ := mem_rangeTexts.mp h
  intro run hsub hrun
  have hnone : ∀ {most : Nat}, ∀ column ∈ columnTexts most, run <:+: column → run = [] := by
    intro most column hcolumn hsub
    refine List.eq_nil_iff_forall_not_mem.mpr fun c hc => not_mem_run hrun ?_ hc
    exact isDigit_eq_false_of_isAlpha (hcolumn.2.2 c (hsub.subset hc))
  rcases infix_end_of_infix_range hrun ha hb hsub with h | h
  · rw [hnone first hfirst h]
    exact Nat.zero_le _
  · rw [hnone last hlast h]
    exact Nat.zero_le _

theorem shortRuns_of_length_le (h : s.length ≤ Number.digitLimit) : ShortRuns s := fun _ hsub _ =>
  hsub.length_le.trans h

end Address

end GridCalc
