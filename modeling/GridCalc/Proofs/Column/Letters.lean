import GridCalc.Proofs.Column.Order

/-!
# The letters of a text

The number of a text is spelled by the capitals of its upper case. Most of these come from letters of ASCII, but some
characters beyond ASCII have capitals in their upper case too: a long s is one S, and a ligature is two or three
letters. The table `Column.hiddenLetters` lists them all (`Column.filterMap_upperChar_eq_nil`). So the number of a text
is that of its letters, the hidden ones written out (`Column.index_textLetters`), and two texts have the same number iff
they have the same letters up to case (`Column.index_eq_index_iff`).

Main statement: `Column.index_of_letters`. The letters of ASCII alone spell the number of a text iff none of its
characters hides letters. A character is passed over iff it neither is nor hides a letter, and it takes at most one
place unless it is a sharp s or a ligature.
-/

namespace GridCalc.Column

open Text

variable {c : Char} {s : List Char}

/-- The characters beyond ASCII that have capitals in their upper case, with these capitals. -/
def hiddenLetters : List (Char × List Char) :=
  [
    ('ß', ['S', 'S']), ('ı', ['I']), ('ŉ', ['N']), ('ſ', ['S']), ('ǰ', ['J']), ('ẖ', ['H']), ('ẗ', ['T']),
    ('ẘ', ['W']), ('ẙ', ['Y']), ('ẚ', ['A']), ('ﬀ', ['F', 'F']), ('ﬁ', ['F', 'I']), ('ﬂ', ['F', 'L']),
    ('ﬃ', ['F', 'F', 'I']), ('ﬄ', ['F', 'F', 'L']), ('ﬅ', ['S', 'T']), ('ﬆ', ['S', 'T'])
  ]

/-- The sharp s and the ligatures, which hide several letters. -/
def ligatures : List Char := ['ß', 'ﬀ', 'ﬁ', 'ﬂ', 'ﬃ', 'ﬄ', 'ﬅ', 'ﬆ']

/-- A letter itself, or the letters that another character hides. -/
def charLetters (c : Char) : List Char := if c.isAlpha then [c] else (hiddenLetters.lookup c).getD []

/-- The letters of a text, with those that other characters hide written out. -/
def textLetters (s : List Char) : List Char := s.flatMap charLetters

/-! ## The table of hidden letters -/

theorem mem_of_lookup {α β : Type} [BEq α] [LawfulBEq α] {entries : List (α × β)} {key : α} {value : β}
    (h : entries.lookup key = some value) : (key, value) ∈ entries := by
  obtain ⟨front, rest, hentries, -⟩ := List.lookup_eq_some_iff.mp h
  rw [hentries]
  exact List.mem_append_right _ List.mem_cons_self

theorem letterValue?_eq_none (h : c.toNat < 'A'.toNat ∨ 'Z'.toNat < c.toNat) : letterValue? c = none := by
  refine if_neg fun hletter => ?_
  have hge : 'A'.toNat ≤ c.toNat := hletter.1
  have hle : c.toNat ≤ 'Z'.toNat := hletter.2
  omega

theorem letterValue?_ofNat_eq_none {n : Nat} (h : 128 ≤ n) : letterValue? (Char.ofNat n) = none := by
  by_cases hvalid : n.isValidChar
  · have hcode : (Char.ofNat n).toNat = n := by
      rw [Char.ofNat, dif_pos hvalid]
      rfl
    refine letterValue?_eq_none (Or.inr ?_)
    rw [hcode]
    exact Nat.lt_of_lt_of_le (by decide) h
  · rw [Char.ofNat, dif_neg hvalid]
    rfl

theorem filterMap_sequence {image : List Nat} (hhidden : hiddenLetters.lookup c = none)
    (h : upperSequences.lookup c.toNat = some image) : (image.map Char.ofNat).filterMap letterValue? = [] := by
  have hall : ∀ entry ∈ upperSequences, hiddenLetters.lookup (Char.ofNat entry.1) = none →
      (entry.2.map Char.ofNat).filterMap letterValue? = [] := by
    decide +kernel
  refine hall _ (mem_of_lookup h) ?_
  rwa [Char.ofNat_toNat]

theorem letterValue?_run {n : Nat} (hhidden : hiddenLetters.lookup c = none)
    (h : runImage? upperRuns c.toNat = some n) : letterValue? (Char.ofNat n) = none := by
  -- a run into ASCII is a single character
  have hall : ∀ run ∈ upperRuns, 128 ≤ run.2.2.2 ∨
      run.1 = run.2.1 ∧ hiddenLetters.lookup (Char.ofNat run.1) ≠ none := by
    decide +kernel
  obtain ⟨⟨first, last, step, image⟩, hrun, himage⟩ := List.exists_of_findSome?_eq_some h
  simp only [Option.ite_none_right_eq_some, Option.some.injEq] at himage
  obtain ⟨⟨hfirst, hlast, -⟩, rfl⟩ := himage
  rcases hall _ hrun with hbeyond | ⟨hsingle, hsome⟩
  · exact letterValue?_ofNat_eq_none (Nat.le_add_right_of_le hbeyond)
  · have hcode : first = c.toNat := Nat.le_antisymm hfirst (hlast.trans_eq hsingle.symm)
    rw [hcode, Char.ofNat_toNat] at hsome
    exact absurd hhidden hsome

/-- What neither is a letter nor hides one has no capital in its upper case. -/
theorem filterMap_upperChar_eq_nil (halpha : c.isAlpha = false) (hhidden : hiddenLetters.lookup c = none) :
    (upperChar c).filterMap letterValue? = [] := by
  by_cases hascii : c.toNat < 128
  · have hall : ∀ n : Fin 128, (Char.ofNat n).isAlpha = false →
        (upperChar (Char.ofNat n)).filterMap letterValue? = [] := by
      decide
    have hchar := hall ⟨c.toNat, hascii⟩
    simp only [Char.ofNat_toNat] at hchar
    exact hchar halpha
  · rw [upperChar, if_neg hascii, caseImage]
    split
    next image hsequence => exact filterMap_sequence hhidden hsequence
    next =>
      split
      next n hrun => rw [List.filterMap_cons_none (letterValue?_run hhidden hrun), List.filterMap_nil]
      next =>
        have hbeyond : 'Z'.toNat < c.toNat := Nat.lt_of_lt_of_le (by decide) (Nat.le_of_not_lt hascii)
        rw [List.filterMap_cons_none (letterValue?_eq_none (Or.inr hbeyond)), List.filterMap_nil]

/-! ## The letters of a character -/

/-- The character is no letter of ASCII, but it has the digits of some. -/
structure Hides (c : Char) (letters : List Char) : Prop where
  not_isAlpha : c.isAlpha = false
  ne_nil : letters ≠ []
  isAlpha : ∀ d ∈ letters, d.isAlpha = true
  digits : (upper letters).filterMap letterValue? = (upper [c]).filterMap letterValue?

theorem hides_of_mem {entry : Char × List Char} (h : entry ∈ hiddenLetters) : Hides entry.1 entry.2 := by
  have hall : ∀ entry ∈ hiddenLetters, entry.1.isAlpha = false ∧ entry.2 ≠ [] ∧ entry.2.all Char.isAlpha = true ∧
      (upper entry.2).filterMap letterValue? = (upper [entry.1]).filterMap letterValue? := by
    decide
  obtain ⟨hchar, hne, hletters, hdigits⟩ := hall entry h
  exact ⟨hchar, hne, List.all_eq_true.mp hletters, hdigits⟩

theorem lookup_of_isAlpha (h : c.isAlpha = true) : hiddenLetters.lookup c = none := by
  refine List.lookup_eq_none_iff.mpr fun entry hentry => bne_iff_ne.mpr ?_
  rintro rfl
  rw [(hides_of_mem hentry).not_isAlpha] at h
  cases h

theorem charLetters_of_isAlpha (h : c.isAlpha = true) : charLetters c = [c] := if_pos h

/-- A character is a letter, or it has no letters, or it stands in the table with its letters. -/
theorem charLetters_cases (c : Char) :
    (c.isAlpha = true ∧ charLetters c = [c]) ∨
    (c.isAlpha = false ∧ hiddenLetters.lookup c = none ∧ charLetters c = []) ∨
    (c, charLetters c) ∈ hiddenLetters := by
  cases halpha : c.isAlpha with
  | true => exact Or.inl ⟨rfl, charLetters_of_isAlpha halpha⟩
  | false =>
    have hletters : charLetters c = (hiddenLetters.lookup c).getD [] := if_neg (by simp [halpha])
    cases hhidden : hiddenLetters.lookup c with
    | none => exact Or.inr (Or.inl ⟨rfl, rfl, by rw [hletters, hhidden, Option.getD_none]⟩)
    | some letters =>
      rw [hletters, hhidden, Option.getD_some]
      exact Or.inr (Or.inr (mem_of_lookup hhidden))

theorem charLetters_eq_nil_iff : charLetters c = [] ↔ c.isAlpha = false ∧ hiddenLetters.lookup c = none := by
  rcases charLetters_cases c with ⟨halpha, hletters⟩ | ⟨halpha, hhidden, hletters⟩ | hmem
  · simp [halpha, hletters]
  · simp [halpha, hhidden, hletters]
  · refine ⟨fun hnil => absurd hnil (hides_of_mem hmem).ne_nil, fun ⟨halpha, hhidden⟩ => ?_⟩
    rw [charLetters, halpha, hhidden, if_neg Bool.false_ne_true, Option.getD_none]

theorem isAlpha_of_mem_charLetters {d : Char} (h : d ∈ charLetters c) : d.isAlpha = true := by
  rcases charLetters_cases c with ⟨halpha, hletters⟩ | ⟨-, -, hletters⟩ | hmem
  · rw [hletters] at h
    rwa [List.mem_singleton.mp h]
  · rw [hletters] at h
    cases h
  · exact (hides_of_mem hmem).isAlpha d h

/-- The letters of a character have the digits of the character. -/
theorem filterMap_upper_charLetters (c : Char) :
    (upper (charLetters c)).filterMap letterValue? = (upper [c]).filterMap letterValue? := by
  rcases charLetters_cases c with ⟨-, hletters⟩ | ⟨halpha, hhidden, hletters⟩ | hmem
  · rw [hletters]
  · have hupper : upper [c] = upperChar c := List.flatMap_singleton ..
    rw [hletters, hupper, filterMap_upperChar_eq_nil halpha hhidden, upper_nil, List.filterMap_nil]
  · exact (hides_of_mem hmem).digits

theorem length_charLetters_le_one_iff : (charLetters c).length ≤ 1 ↔ c ∉ ligatures := by
  have hall : ∀ entry ∈ hiddenLetters, entry.2.length ≤ 1 ↔ entry.1 ∉ ligatures := by decide
  have hsome : ligatures.all (fun d => (hiddenLetters.lookup d).isSome) = true := by decide
  have hout : hiddenLetters.lookup c = none → c ∉ ligatures := fun hnone hc => by
    have hsomeC := List.all_eq_true.mp hsome c hc
    rw [hnone] at hsomeC
    cases hsomeC
  rcases charLetters_cases c with ⟨halpha, hletters⟩ | ⟨-, hhidden, hletters⟩ | hmem
  · rw [hletters]
    exact iff_of_true (Nat.le_refl 1) (hout (lookup_of_isAlpha halpha))
  · rw [hletters]
    exact iff_of_true (Nat.zero_le 1) (hout hhidden)
  · exact hall _ hmem

/-! ## The letters of a text -/

theorem textLetters_cons (c : Char) (s : List Char) : textLetters (c :: s) = charLetters c ++ textLetters s :=
  List.flatMap_cons

theorem textLetters_append (s t : List Char) : textLetters (s ++ t) = textLetters s ++ textLetters t :=
  List.flatMap_append

theorem textLetters_singleton (c : Char) : textLetters [c] = charLetters c := List.flatMap_singleton ..

theorem isAlpha_of_mem_textLetters : ∀ d ∈ textLetters s, d.isAlpha = true := by
  intro d hd
  obtain ⟨c, -, hc⟩ := List.mem_flatMap.mp hd
  exact isAlpha_of_mem_charLetters hc

theorem textLetters_eq_self (h : ∀ c ∈ s, c.isAlpha = true) : textLetters s = s := by
  induction s with
  | nil => rfl
  | cons c rest ih =>
    obtain ⟨hc, hrest⟩ := List.forall_mem_cons.mp h
    rw [textLetters_cons, charLetters_of_isAlpha hc, ih hrest, List.singleton_append]

/-- The letters of ASCII and the hidden ones make up the letters of a text. -/
theorem length_textLetters (s : List Char) : (textLetters s).length =
    (s.filter Char.isAlpha).length + (textLetters (s.filter fun c => !c.isAlpha)).length := by
  induction s with
  | nil => rfl
  | cons c rest ih =>
    cases halpha : c.isAlpha with
    | true =>
      rw [textLetters_cons, charLetters_of_isAlpha halpha, List.filter_cons_of_pos halpha,
        List.filter_cons_of_neg (by simp [halpha]), List.singleton_append, List.length_cons, List.length_cons, ih]
      omega
    | false =>
      rw [textLetters_cons, List.filter_cons_of_neg (by simp [halpha]), List.filter_cons_of_pos (by simp [halpha]),
        textLetters_cons, List.length_append, List.length_append, ih]
      omega

/-- A text has as many letters of ASCII as letters iff none of its characters hides letters. -/
theorem length_textLetters_eq_iff :
    (textLetters s).length = (s.filter Char.isAlpha).length ↔ ∀ c ∈ s, hiddenLetters.lookup c = none := by
  rw [length_textLetters, Nat.add_eq_left, List.length_eq_zero_iff, textLetters, List.flatMap_eq_nil_iff]
  simp only [List.mem_filter, Bool.not_eq_true', charLetters_eq_nil_iff]
  refine forall_congr' fun c => ⟨fun h hc => ?_, fun h hc => ⟨hc.2, h hc.1⟩⟩
  cases halpha : c.isAlpha with
  | true => exact lookup_of_isAlpha halpha
  | false => exact (h ⟨hc, halpha⟩).2

theorem textLetters_eq_filter (h : ∀ c ∈ s, hiddenLetters.lookup c = none) : textLetters s = s.filter Char.isAlpha := by
  induction s with
  | nil => rfl
  | cons c rest ih =>
    obtain ⟨hc, hrest⟩ := List.forall_mem_cons.mp h
    rw [textLetters_cons, ih hrest, List.filter_cons, charLetters, hc]
    split <;> rfl

/-! ## The number of a text -/

theorem filterMap_upper_textLetters (s : List Char) :
    (upper (textLetters s)).filterMap letterValue? = (upper s).filterMap letterValue? := by
  induction s with
  | nil => rfl
  | cons c rest ih =>
    rw [← List.singleton_append, textLetters_append, textLetters_singleton, upper_append, upper_append,
      List.filterMap_append, List.filterMap_append, ih, filterMap_upper_charLetters]

/-- A text has the number of its letters. -/
theorem index_textLetters (s : String) : index (String.ofList (textLetters s.toList)) = index s := by
  rw [index, String.toList_ofList, filterMap_upper_textLetters, index]

/-- Texts have the same number iff they have the same letters up to case. -/
theorem index_eq_index_iff {s t : String} : index s = index t ↔
    (textLetters s.toList).map Char.toUpper = (textLetters t.toList).map Char.toUpper := by
  have halpha : ∀ u : String, ∀ c ∈ (String.ofList (textLetters u.toList)).toList, c.isAlpha = true := by
    intro u
    rw [String.toList_ofList]
    exact isAlpha_of_mem_textLetters
  rw [← index_textLetters s, ← index_textLetters t, index_eq_iff (halpha s) (halpha t), String.toList_ofList,
    String.toList_ofList]

theorem length_textLetters_of_index_eq {s t : String} (h : index s = index t) :
    (textLetters s.toList).length = (textLetters t.toList).length := by
  have hlength := congrArg List.length (index_eq_index_iff.mp h)
  rwa [List.length_map, List.length_map] at hlength

/-- The upper case of a text has as many capitals as the text has letters. -/
theorem countP_isUpper_upper (s : List Char) : (upper s).countP Char.isUpper = (textLetters s).length := by
  obtain ⟨values, -, hdigits, hcapitals⟩ := exists_digits (isAlpha_of_mem_textLetters (s := s))
  calc (upper s).countP Char.isUpper
      = ((upper s).filterMap letterValue?).length := (length_filterMap_letterValue? _).symm
    _ = ((upper (textLetters s)).filterMap letterValue?).length := by rw [filterMap_upper_textLetters]
    _ = (textLetters s).length := by rw [hdigits, length_eq_of_lettersOf_eq hcapitals]

/-- A text has the number of its letters of ASCII iff none of its characters hides letters. -/
theorem index_eq_index_filter_iff (s : String) :
    index s = index (String.ofList (s.toList.filter Char.isAlpha)) ↔
      ∀ c ∈ s.toList, hiddenLetters.lookup c = none := by
  have hfilter : textLetters (s.toList.filter Char.isAlpha) = s.toList.filter Char.isAlpha :=
    textLetters_eq_self fun c hc => (List.mem_filter.mp hc).2
  constructor
  · intro h
    have hlength := length_textLetters_of_index_eq h
    rw [String.toList_ofList, hfilter] at hlength
    exact length_textLetters_eq_iff.mp hlength
  · intro h
    rw [index_eq_index_iff, String.toList_ofList, hfilter, textLetters_eq_filter h]

/-- A character between two texts is passed over iff it neither is nor hides a letter. -/
theorem index_insert_iff (s t : String) (c : Char) :
    index (s ++ String.singleton c ++ t) = index (s ++ t) ↔
      c.isAlpha = false ∧ hiddenLetters.lookup c = none := by
  rw [← charLetters_eq_nil_iff]
  constructor
  · intro h
    have hlength := length_textLetters_of_index_eq h
    simp only [String.toList_append, String.toList_singleton, textLetters_append, textLetters_singleton,
      List.length_append] at hlength
    exact List.length_eq_zero_iff.mp (by omega)
  · intro h
    simp only [index_eq_index_iff, String.toList_append, String.toList_singleton, textLetters_append,
      textLetters_singleton, h, List.append_nil]

/-- A character takes a place for each of its letters. -/
theorem index_append_singleton (s : String) (c : Char) :
    index (s ++ String.singleton c) = index s * 26 ^ (charLetters c).length + index (String.singleton c) := by
  rw [index_append, String.toList_singleton, countP_isUpper_upper, textLetters_singleton]

/-- A text has the number of its letters of ASCII iff none of its characters hides letters, and in all cases the number
of its letters with the hidden ones written out. A character is passed over wherever it stands iff it neither is nor
hides a letter. It takes a place for each of its letters, so that only the sharp s and the ligatures take several. -/
theorem index_of_letters (s : String) :
    (index s = index (String.ofList (s.toList.filter Char.isAlpha)) ↔
      ∀ c ∈ s.toList, hiddenLetters.lookup c = none) ∧
    index s = index (String.ofList (textLetters s.toList)) ∧
    ∀ c : Char,
      (∀ t, index (s ++ String.singleton c ++ t) = index (s ++ t) ↔
        c.isAlpha = false ∧ hiddenLetters.lookup c = none) ∧
      index (s ++ String.singleton c) = index s * 26 ^ (charLetters c).length + index (String.singleton c) ∧
      ((charLetters c).length ≤ 1 ↔ c ∉ ligatures) :=
  ⟨index_eq_index_filter_iff s, (index_textLetters s).symm, fun c =>
    ⟨fun t => index_insert_iff s t c, index_append_singleton s c, length_charLetters_le_one_iff⟩⟩

/-- The ligature of f and i is no letter of ASCII, but it has the number of two letters. -/
theorem index_ligature_ne : 'ﬁ'.isAlpha = false ∧ index "ﬁ" = 6 * 26 + 9 ∧
    index (String.ofList ("ﬁ".toList.filter Char.isAlpha)) = 0 :=
  ⟨by decide, by rfl, by rfl⟩

end GridCalc.Column
