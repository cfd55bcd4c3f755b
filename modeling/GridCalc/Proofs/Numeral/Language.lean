import Mathlib.Data.Nat.Digits.Defs
import GridCalc.Numeral
import GridCalc.Proofs.Text

/-!
# The languages of numerals

An integer is written as an optional sign and digits of any script, at most `Number.digitLimit` of them
(`Numeral.integerTexts`). A decimal is written as an optional sign, digits with a point among them, behind them, before
them or without one, and an optional exponent (`Numeral.decimalTexts`); it is real if there is a point or an exponent.

The readers accept just these languages with blanks around (`Numeral.readInteger_eq_ok_iff`,
`Numeral.exists_readReal_iff`), and so does the reader of numbers (`Number.ofText_eq_int_iff`,
`Number.exists_ofText_eq_real_iff`), which looks at all characters of a text before it chooses one of the two.
-/

namespace GridCalc

open Text

/-! ## Doubles -/

namespace Double

theorem ofRatio_ne_nan (negative : Bool) (num den : Nat) : ofRatio negative num den ≠ .nan := by
  unfold ofRatio ofUnits
  dsimp only
  split <;> simp

theorem ofDecimal_ne_nan (negative : Bool) (digits : Nat) (exponent : Int) :
    ofDecimal negative digits exponent ≠ .nan := by
  unfold ofDecimal
  dsimp only
  split_ifs
  · simp [zero]
  · simp
  · exact ofRatio_ne_nan _ _ _
  · exact ofRatio_ne_nan _ _ _

end Double

namespace Numeral

/-! ## Languages -/

/-- A sign, which may be missing. -/
def signTexts : Language Char := {[], ['+'], ['-']}

/-- One or more digits of any script. -/
def digitTexts : Language Char := {s | s ≠ [] ∧ ∀ c ∈ s, isDigit c = true}

def pointTexts : Language Char := {['.']}

/-- The marks in front of an exponent. -/
def markTexts : Language Char := {['e'], ['E']}

/-- The number that digits spell in base ten. -/
def spelled (digits : List Char) : Nat := Nat.ofDigits 10 (digits.reverse.map fun c => (digitValue? c).getD 0)

/-- A sign and as many digits as are read, which spell the integer. -/
def integerTexts (n : Int) : Language Char :=
  {s | ∃ sign ∈ signTexts, ∃ digits ∈ digitTexts, digits.length ≤ Number.digitLimit ∧ s = sign ++ digits ∧
    n = signed (sign = ['-']) (spelled digits)}

/-- Digits behind which a point and digits may stand, or a point with digits behind it. -/
def mantissaTexts : Language Char := digitTexts * (1 + pointTexts * (1 + digitTexts)) + pointTexts * digitTexts

/-- An exponent with its mark, which may be missing together. -/
def exponentTexts : Language Char := 1 + markTexts * signTexts * digitTexts

def decimalTexts : Language Char := signTexts * mantissaTexts * exponentTexts

/-- Decimals with a point or an exponent. -/
def realTexts : Language Char := {s | s ∈ decimalTexts ∧ ('.' ∈ s ∨ 'e' ∈ s ∨ 'E' ∈ s)}

variable {s sign digits whole fraction rest exponent : List Char} {text : String} {n : Int}

theorem mem_signTexts : s ∈ signTexts ↔ s = [] ∨ s = ['+'] ∨ s = ['-'] := Iff.rfl

theorem mem_markTexts : s ∈ markTexts ↔ s = ['e'] ∨ s = ['E'] := Iff.rfl

theorem mem_exponentTexts : s ∈ exponentTexts ↔ s = [] ∨ ∃ mark sign digits, (mark = 'e' ∨ mark = 'E') ∧
    sign ∈ signTexts ∧ digits ∈ digitTexts ∧ s = mark :: (sign ++ digits) := by
  rw [exponentTexts, Language.mem_add, Language.mem_one]
  refine or_congr_right ?_
  simp only [Language.mem_mul, mem_markTexts]
  constructor
  · rintro ⟨_, ⟨_, rfl | rfl, sign, hsign, rfl⟩, digits, hdigits, rfl⟩
    · exact ⟨'e', sign, digits, Or.inl rfl, hsign, hdigits, rfl⟩
    · exact ⟨'E', sign, digits, Or.inr rfl, hsign, hdigits, rfl⟩
  · rintro ⟨mark, sign, digits, hmark, hsign, hdigits, rfl⟩
    refine ⟨_, ⟨[mark], ?_, sign, hsign, rfl⟩, digits, hdigits, rfl⟩
    exact hmark.imp (congrArg fun c => [c]) (congrArg fun c => [c])

/-- Digits before and behind a point, which has to be there if digits are behind it. -/
structure IsMantissa (whole point fraction : List Char) : Prop where
  pointed : point = [] ∨ point = ['.']
  before : ∀ c ∈ whole, isDigit c = true
  behind : ∀ c ∈ fraction, isDigit c = true
  digit : ¬(whole = [] ∧ fraction = [])
  unpointed : point = [] → fraction = []

theorem mem_mantissaTexts : s ∈ mantissaTexts ↔ ∃ whole point fraction, IsMantissa whole point fraction ∧
    s = whole ++ (point ++ fraction) := by
  have hnone : ∀ c ∈ ([] : List Char), isDigit c = true := by simp
  simp only [mantissaTexts, Language.mem_add, Language.mem_mul, Language.mem_one]
  constructor
  · rintro (⟨whole, hwhole, _, rfl | ⟨_, rfl, _, rfl | hfraction, rfl⟩, rfl⟩ | ⟨_, rfl, fraction, hfraction, rfl⟩)
    · exact ⟨whole, [], [], ⟨Or.inl rfl, hwhole.2, hnone, fun h => hwhole.1 h.1, fun _ => rfl⟩, rfl⟩
    · exact ⟨whole, ['.'], [], ⟨Or.inr rfl, hwhole.2, hnone, fun h => hwhole.1 h.1, nofun⟩, rfl⟩
    · exact ⟨whole, ['.'], _, ⟨Or.inr rfl, hwhole.2, hfraction.2, fun h => hwhole.1 h.1, nofun⟩, rfl⟩
    · exact ⟨[], ['.'], fraction, ⟨Or.inr rfl, hnone, hfraction.2, fun h => hfraction.1 h.2, nofun⟩, rfl⟩
  · rintro ⟨whole, point, fraction, h, rfl⟩
    by_cases hwhole : whole = []
    · have hfraction : fraction ≠ [] := fun hnil => h.digit ⟨hwhole, hnil⟩
      obtain rfl : point = ['.'] := h.pointed.resolve_left fun hnil => hfraction (h.unpointed hnil)
      exact Or.inr ⟨['.'], rfl, fraction, ⟨hfraction, h.behind⟩, by rw [hwhole]; rfl⟩
    · refine Or.inl ⟨whole, ⟨hwhole, h.before⟩, point ++ fraction, ?_, rfl⟩
      rcases h.pointed with rfl | rfl
      · exact Or.inl (h.unpointed rfl)
      · refine Or.inr ⟨['.'], rfl, fraction, ?_, rfl⟩
        by_cases hfraction : fraction = []
        · exact Or.inl hfraction
        · exact Or.inr ⟨hfraction, h.behind⟩

theorem mem_decimalTexts : s ∈ decimalTexts ↔ ∃ sign ∈ signTexts, ∃ whole point fraction,
    IsMantissa whole point fraction ∧ ∃ exponent ∈ exponentTexts,
      s = sign ++ (whole ++ (point ++ (fraction ++ exponent))) := by
  simp only [decimalTexts, Language.mem_mul, mem_mantissaTexts]
  constructor
  · rintro ⟨_, ⟨sign, hsign, _, ⟨whole, point, fraction, h, rfl⟩, rfl⟩, exponent, hexponent, rfl⟩
    exact ⟨sign, hsign, whole, point, fraction, h, exponent, hexponent, by simp⟩
  · rintro ⟨sign, hsign, whole, point, fraction, h, exponent, hexponent, rfl⟩
    exact ⟨_, ⟨sign, hsign, _, ⟨whole, point, fraction, h, rfl⟩, rfl⟩, exponent, hexponent, by simp⟩

/-! ## Characters -/

/-- The characters of numerals: digits, signs, the point and the marks of exponents. -/
def IsNumeralChar (c : Char) : Prop := isDigit c = true ∨ c ∈ ['+', '-', '.', 'e', 'E']

instance : DecidablePred IsNumeralChar := fun _ => inferInstanceAs (Decidable (_ ∨ _))

theorem isDigit_iff {c : Char} :
    isDigit c = true ↔ ∃ first ∈ zeroDigits, first ≤ c.toNat ∧ c.toNat < first + 10 := by
  rw [isDigit, digitValue?, List.findSome?_isSome_iff]
  simp only [Option.isSome_ite]

/-- No script has its digits among the blanks. -/
theorem isBlank_eq_false_of_isDigit {c : Char} (h : isDigit c = true) : isBlank c = false := by
  have hapart : ∀ first ∈ zeroDigits, ∀ r ∈ blankRanges, first + 10 ≤ r.1 ∨ r.2 < first := by decide
  obtain ⟨first, hfirst, hle, hlt⟩ := isDigit_iff.mp h
  by_contra hblank
  obtain ⟨r, hr, hlow, hhigh⟩ := inRanges_iff.mp (Bool.eq_true_of_not_eq_false hblank)
  have := hapart first hfirst r hr
  omega

theorem IsNumeralChar.isBlank_eq_false {c : Char} (h : IsNumeralChar c) : isBlank c = false := by
  rcases h with hdigit | hmark
  · exact isBlank_eq_false_of_isDigit hdigit
  · simp only [List.mem_cons, List.not_mem_nil, or_false] at hmark
    rcases hmark with rfl | rfl | rfl | rfl | rfl <;> rfl

theorem ne_sign_of_isDigit {c : Char} (h : isDigit c = true) : c ≠ '+' ∧ c ≠ '-' := by
  constructor <;> rintro rfl <;> cases h

theorem eq_of_mem_signTexts (h : s ∈ signTexts) : ∀ c ∈ s, c = '+' ∨ c = '-' := by
  rcases mem_signTexts.mp h with rfl | rfl | rfl <;> simp

/-- An integer has no characters but its sign and its digits. -/
theorem of_mem_integerTexts (h : s ∈ integerTexts n) : ∀ c ∈ s, isDigit c = true ∨ c = '+' ∨ c = '-' := by
  obtain ⟨sign, hsign, digits, hdigits, -, rfl, -⟩ := h
  intro c hc
  rcases List.mem_append.mp hc with hc | hc
  · exact Or.inr (eq_of_mem_signTexts hsign c hc)
  · exact Or.inl (hdigits.2 c hc)

theorem isNumeralChar_of_mem_integerTexts (h : s ∈ integerTexts n) : ∀ c ∈ s, IsNumeralChar c := by
  intro c hc
  rcases of_mem_integerTexts h c hc with hdigit | rfl | rfl
  · exact Or.inl hdigit
  · exact Or.inr (by decide)
  · exact Or.inr (by decide)

theorem isNumeralChar_of_mem_exponentTexts (h : s ∈ exponentTexts) : ∀ c ∈ s, IsNumeralChar c := by
  rcases mem_exponentTexts.mp h with rfl | ⟨mark, sign, digits, hmark, hsign, hdigits, rfl⟩
  · simp
  · intro c hc
    rcases List.mem_cons.mp hc with rfl | hc
    · exact Or.inr (by rcases hmark with rfl | rfl <;> decide)
    · rcases List.mem_append.mp hc with hc | hc
      · exact Or.inr (by rcases eq_of_mem_signTexts hsign c hc with rfl | rfl <;> decide)
      · exact Or.inl (hdigits.2 c hc)

theorem isNumeralChar_of_mem_decimalTexts (h : s ∈ decimalTexts) : ∀ c ∈ s, IsNumeralChar c := by
  obtain ⟨sign, hsign, whole, point, fraction, hmantissa, exponent, hexponent, rfl⟩ := mem_decimalTexts.mp h
  simp only [List.forall_mem_append]
  refine ⟨fun c hc => Or.inr ?_, fun c hc => Or.inl (hmantissa.before c hc), fun c hc => Or.inr ?_,
    fun c hc => Or.inl (hmantissa.behind c hc), isNumeralChar_of_mem_exponentTexts hexponent⟩
  · rcases eq_of_mem_signTexts hsign c hc with rfl | rfl <;> decide
  · rcases hmantissa.pointed with rfl | rfl
    · cases hc
    · rw [List.mem_singleton.mp hc]
      decide

/-! ## Taking texts apart -/

theorem exists_splitSign (s : List Char) : ∃ sign ∈ signTexts, s = sign ++ (splitSign s).2 ∧
    (splitSign s).1 = decide (sign = ['-']) := by
  unfold splitSign
  split
  · exact ⟨['-'], Or.inr (Or.inr rfl), rfl, rfl⟩
  · exact ⟨['+'], Or.inr (Or.inl rfl), rfl, rfl⟩
  · exact ⟨[], Or.inl rfl, rfl, rfl⟩

/-- A sign is split off in front of anything else. -/
theorem splitSign_append (hsign : sign ∈ signTexts) (hrest : ∀ c, rest.head? = some c → c ≠ '+' ∧ c ≠ '-') :
    splitSign (sign ++ rest) = (decide (sign = ['-']), rest) := by
  rcases mem_signTexts.mp hsign with rfl | rfl | rfl
  · have hnone : splitSign rest = (false, rest) := by
      unfold splitSign
      split
      · exact absurd rfl (hrest '-' rfl).2
      · exact absurd rfl (hrest '+' rfl).1
      · rfl
    exact hnone
  · rfl
  · rfl

theorem splitDigits_append (hdigits : ∀ c ∈ digits, isDigit c = true)
    (hrest : ∀ c, rest.head? = some c → isDigit c = false) : splitDigits (digits ++ rest) = (digits, rest) := by
  obtain ⟨htake, hdrop⟩ := span_append hdigits hrest
  rw [splitDigits, htake, hdrop]

theorem of_splitDigits_eq (h : splitDigits s = (digits, rest)) :
    s = digits ++ rest ∧ ∀ c ∈ digits, isDigit c = true := by
  cases h
  exact ⟨List.takeWhile_append_dropWhile.symm, fun c hc => List.mem_takeWhile_imp hc⟩

/-- Nothing is left of a text without its sign and its digits iff it consists of them. -/
theorem splitDigits_splitSign_eq_iff {negative : Bool} :
    (splitSign s).1 = negative ∧ splitDigits (splitSign s).2 = (digits, []) ∧ digits ≠ [] ↔
      digits ∈ digitTexts ∧ ∃ sign ∈ signTexts, s = sign ++ digits ∧ negative = decide (sign = ['-']) := by
  constructor
  · rintro ⟨rfl, hsplit, hne⟩
    obtain ⟨hunsigned, hdigits⟩ := of_splitDigits_eq hsplit
    obtain ⟨sign, hsign, hs, hnegative⟩ := exists_splitSign s
    rw [hunsigned, List.append_nil] at hs
    exact ⟨⟨hne, hdigits⟩, sign, hsign, hs, hnegative⟩
  · rintro ⟨⟨hne, hdigits⟩, sign, hsign, rfl, rfl⟩
    have hhead : ∀ c, digits.head? = some c → c ≠ '+' ∧ c ≠ '-' := fun c hc =>
      ne_sign_of_isDigit (hdigits c (List.mem_of_head? hc))
    have hsplit : splitDigits (digits ++ []) = (digits, []) := splitDigits_append hdigits (by simp)
    rw [List.append_nil] at hsplit
    rw [splitSign_append hsign hhead]
    exact ⟨rfl, hsplit, hne⟩

theorem digitsValue_eq_spelled (digits : List Char) : digitsValue digits = spelled digits := by
  induction digits using List.reverseRecOn with
  | nil => rfl
  | append_singleton digits c ih =>
    have hlast : digitsValue (digits ++ [c]) = 10 * digitsValue digits + (digitValue? c).getD 0 := by
      simp [digitsValue]
    have hlast' : spelled (digits ++ [c]) = 10 * spelled digits + (digitValue? c).getD 0 := by
      simp [spelled, Nat.ofDigits_cons, Nat.add_comm]
    rw [hlast, hlast', ih]

/-! ## Integers -/

theorem readInteger_eq_ok_iff : readInteger text = .ok n ↔ trim isNumeralBlank text.toList ∈ integerTexts n := by
  constructor
  · intro h
    simp only [readInteger] at h
    split at h
    · cases h
    rename_i hlength
    split at h
    · cases h
    rename_i hparts
    cases h
    rw [Bool.or_eq_true, not_or, List.isEmpty_iff, Bool.not_eq_true', List.isEmpty_eq_false_iff, not_not] at hparts
    obtain ⟨hdigits, sign, hsign, hs, hnegative⟩ :=
      splitDigits_splitSign_eq_iff.mp ⟨rfl, Prod.ext rfl hparts.2, hparts.1⟩
    exact ⟨sign, hsign, _, hdigits, Nat.le_of_not_lt hlength, hs, by rw [hnegative, digitsValue_eq_spelled]⟩
  · rintro ⟨sign, hsign, digits, hdigits, hlength, hs, rfl⟩
    obtain ⟨hnegative, hsplit, hne⟩ := splitDigits_splitSign_eq_iff.mpr ⟨hdigits, sign, hsign, hs, rfl⟩
    simp only [readInteger, hnegative, hsplit]
    rw [if_neg (Nat.not_lt.mpr hlength), if_neg (by simpa using hne), digitsValue_eq_spelled]

/-! ## Decimals -/

theorem exists_readExponent_iff : (∃ e, readExponent s = some e) ↔ s ∈ exponentTexts := by
  rw [mem_exponentTexts]
  constructor
  · rintro ⟨e, h⟩
    cases s with
    | nil => exact Or.inl rfl
    | cons mark rest =>
      simp only [readExponent, Option.ite_none_right_eq_some] at h
      obtain ⟨hmark, h⟩ := h
      split at h
      · cases h
      rename_i hparts
      rw [Bool.or_eq_true, not_or, List.isEmpty_iff, Bool.not_eq_true', List.isEmpty_eq_false_iff, not_not] at hparts
      obtain ⟨hdigits, sign, hsign, hs, -⟩ :=
        splitDigits_splitSign_eq_iff.mp ⟨rfl, Prod.ext rfl hparts.2, hparts.1⟩
      exact Or.inr ⟨mark, sign, _, hmark, hsign, hdigits, by rw [← hs]⟩
  · rintro (rfl | ⟨mark, sign, digits, hmark, hsign, hdigits, rfl⟩)
    · exact ⟨0, rfl⟩
    · obtain ⟨hnegative, hsplit, hne⟩ := splitDigits_splitSign_eq_iff.mpr ⟨hdigits, sign, hsign, rfl, rfl⟩
      refine ⟨signed (sign = ['-']) (digitsValue digits), ?_⟩
      simp only [readExponent, if_pos hmark, hnegative, hsplit]
      exact if_neg (by simpa using hne)

/-- An exponent begins with its mark. -/
theorem head?_of_mem_exponentTexts (h : exponent ∈ exponentTexts) {c : Char} (hc : exponent.head? = some c) :
    c = 'e' ∨ c = 'E' := by
  rcases mem_exponentTexts.mp h with rfl | ⟨mark, sign, digits, hmark, -, -, rfl⟩
  · cases hc
  · cases hc
    exact hmark

/-- Splits a point and the digits behind it off. -/
def splitFraction : List Char → List Char × List Char
  | '.' :: tail => splitDigits tail
  | tail => ([], tail)

theorem parts?_eq (s : List Char) : parts? s =
    let (negative, unsigned) := splitSign s
    let (whole, rest) := splitDigits unsigned
    let (fraction, rest') := splitFraction rest
    if whole.isEmpty && fraction.isEmpty then none
    else (readExponent rest').map fun exponent => { negative, whole, fraction, exponent } := rfl

theorem of_splitFraction_eq (h : splitFraction s = (fraction, rest)) : ∃ point, (point = [] ∨ point = ['.']) ∧
    s = point ++ (fraction ++ rest) ∧ (∀ c ∈ fraction, isDigit c = true) ∧ (point = [] → fraction = []) := by
  unfold splitFraction at h
  split at h
  · obtain ⟨rfl, hfraction⟩ := of_splitDigits_eq h
    exact ⟨['.'], Or.inr rfl, rfl, hfraction, nofun⟩
  · cases h
    exact ⟨[], Or.inl rfl, rfl, by simp, fun _ => rfl⟩

/-- Behind the digits in front, a point or an exponent follows. -/
theorem IsMantissa.head?_point {point : List Char} (hmantissa : IsMantissa whole point fraction)
    (hexponent : exponent ∈ exponentTexts) {c : Char} (hc : (point ++ (fraction ++ exponent)).head? = some c) :
    c = '.' ∨ c = 'e' ∨ c = 'E' := by
  rcases hmantissa.pointed with rfl | rfl
  · rw [hmantissa.unpointed rfl] at hc
    exact Or.inr (head?_of_mem_exponentTexts hexponent hc)
  · cases hc
    exact Or.inl rfl

theorem splitFraction_append {point : List Char} (hmantissa : IsMantissa whole point fraction)
    (hexponent : exponent ∈ exponentTexts) :
    splitFraction (point ++ (fraction ++ exponent)) = (fraction, exponent) := by
  have hmark : ∀ c, exponent.head? = some c → isDigit c = false ∧ c ≠ '.' := fun c hc => by
    rcases head?_of_mem_exponentTexts hexponent hc with rfl | rfl <;> decide
  rcases hmantissa.pointed with rfl | rfl
  · rw [hmantissa.unpointed rfl]
    show splitFraction exponent = ([], exponent)
    unfold splitFraction
    split
    · exact absurd rfl (hmark '.' rfl).2
    · rfl
  · exact splitDigits_append hmantissa.behind fun c hc => (hmark c hc).1

theorem exists_parts?_iff : (∃ p, parts? s = some p) ↔ s ∈ decimalTexts := by
  rw [mem_decimalTexts, parts?_eq]
  constructor
  · rintro ⟨p, h⟩
    obtain ⟨sign, hsign, hs, -⟩ := exists_splitSign s
    rcases hwhole : splitDigits (splitSign s).2 with ⟨whole, rest⟩
    rcases hfraction : splitFraction rest with ⟨fraction, exponent⟩
    obtain ⟨hunsigned, hbefore⟩ := of_splitDigits_eq hwhole
    obtain ⟨point, hpointed, hrest, hbehind, hunpointed⟩ := of_splitFraction_eq hfraction
    simp only [hwhole, hfraction] at h
    split at h
    · cases h
    rename_i hdigit
    obtain ⟨e, he, -⟩ := Option.map_eq_some_iff.mp h
    refine ⟨sign, hsign, whole, point, fraction, ⟨hpointed, hbefore, hbehind, by simpa using hdigit, hunpointed⟩,
      exponent, exists_readExponent_iff.mp ⟨e, he⟩, ?_⟩
    rw [← hrest, ← hunsigned]
    exact hs
  · rintro ⟨sign, hsign, whole, point, fraction, hmantissa, exponent, hexponent, rfl⟩
    obtain ⟨e, he⟩ := exists_readExponent_iff.mpr hexponent
    have hmark := fun c => hmantissa.head?_point hexponent (c := c)
    have hsplit : splitSign (sign ++ (whole ++ (point ++ (fraction ++ exponent)))) =
        (decide (sign = ['-']), whole ++ (point ++ (fraction ++ exponent))) := by
      refine splitSign_append hsign fun c hc => ?_
      cases whole with
      | nil => rcases hmark c hc with rfl | rfl | rfl <;> decide
      | cons d whole =>
        cases hc
        exact ne_sign_of_isDigit (hmantissa.before c List.mem_cons_self)
    have hwhole : splitDigits (whole ++ (point ++ (fraction ++ exponent))) =
        (whole, point ++ (fraction ++ exponent)) := by
      refine splitDigits_append hmantissa.before fun c hc => ?_
      rcases hmark c hc with rfl | rfl | rfl <;> decide
    simp only [hsplit, hwhole, splitFraction_append hmantissa hexponent, he]
    exact ⟨_, if_neg (by simpa using hmantissa.digit)⟩

theorem readReal_eq_ok_iff {d : Double} : readReal text = .ok d ↔
    ∃ p, parts? (trim isNumeralBlank text.toList) = some p ∧ p.toDouble = d := by
  unfold readReal
  cases parts? (trim isNumeralBlank text.toList) <;> simp

theorem exists_readReal_iff : (∃ d, readReal text = .ok d) ↔ trim isNumeralBlank text.toList ∈ decimalTexts := by
  rw [← exists_parts?_iff]
  unfold readReal
  cases parts? (trim isNumeralBlank text.toList) with
  | none => simp
  | some p => simp

theorem ne_nan_of_readReal {d : Double} (h : readReal text = .ok d) : d ≠ .nan := by
  unfold readReal at h
  split at h
  · cases h
    exact Double.ofDecimal_ne_nan _ _ _
  · cases h

theorem isReal_iff : isReal s = true ↔ '.' ∈ s ∨ 'e' ∈ s ∨ 'E' ∈ s := by
  simp [isReal, or_assoc, and_or_left, exists_or]

theorem isReal_trim (s : List Char) : isReal (trim isNumeralBlank s) = isReal s := by
  have hout : isNumeralBlank '.' = false ∧ isNumeralBlank 'e' = false ∧ isNumeralBlank 'E' = false := by decide
  rw [Bool.eq_iff_iff, isReal_iff, isReal_iff, mem_trim_iff hout.1, mem_trim_iff hout.2.1, mem_trim_iff hout.2.2]

/-- An integer has neither a point nor an exponent. -/
theorem not_isReal_of_mem_integerTexts (h : s ∈ integerTexts n) : isReal s = false := by
  have hchars := of_mem_integerTexts h
  rw [← Bool.not_eq_true, isReal_iff]
  rintro (hmem | hmem | hmem) <;> exact absurd (hchars _ hmem) (by decide)

theorem nil_not_mem_integerTexts (n : Int) : [] ∉ integerTexts n := by
  rintro ⟨sign, -, digits, hdigits, -, hs, -⟩
  exact hdigits.1 (List.append_eq_nil_iff.mp hs.symm).2

theorem nil_not_mem_realTexts : [] ∉ realTexts := by
  rintro ⟨-, h⟩
  simp at h

theorem not_mem_underscore (h : ∀ c ∈ s, IsNumeralChar c) : '_' ∉ s := fun hmem => by
  rcases h '_' hmem with hdigit | hmark
  · cases hdigit
  · exact absurd hmark (by decide)

end Numeral

/-! ## Numbers -/

namespace Number

open Numeral

variable {text : String} {n : Int}

/-- Reading looks for underscores before anything else. -/
theorem ofText_of_not_mem (h : '_' ∉ trim isNumeralBlank text.toList) : ofText text =
    if isReal text.toList then Number.real <$> readReal text else Number.int <$> readInteger text := by
  rw [mem_trim_iff (by decide)] at h
  rw [ofText, if_neg (by simpa using h)]

theorem ofText_eq_int_iff : ofText text = .ok (.int n) ↔ trim isNumeralBlank text.toList ∈ integerTexts n := by
  constructor
  · intro h
    unfold ofText at h
    split at h
    · cases h
    split at h
    · cases hread : readReal text <;> rw [hread] at h <;> cases h
    · cases hread : readInteger text <;> rw [hread] at h <;> cases h
      exact readInteger_eq_ok_iff.mp hread
  · intro h
    have hreal : isReal text.toList = false := by rw [← isReal_trim, not_isReal_of_mem_integerTexts h]
    rw [ofText_of_not_mem (not_mem_underscore (isNumeralChar_of_mem_integerTexts h)), hreal,
      readInteger_eq_ok_iff.mpr h]
    rfl

theorem ofText_eq_real_iff {d : Double} : ofText text = .ok (.real d) ↔
    trim isNumeralBlank text.toList ∈ realTexts ∧
      ∃ p, parts? (trim isNumeralBlank text.toList) = some p ∧ p.toDouble = d := by
  rw [← readReal_eq_ok_iff]
  constructor
  · intro h
    unfold ofText at h
    split at h
    · cases h
    split at h
    · rename_i hreal
      cases hread : readReal text <;> rw [hread] at h <;> cases h
      rw [← isReal_trim, isReal_iff] at hreal
      exact ⟨⟨exists_readReal_iff.mp ⟨_, hread⟩, hreal⟩, rfl⟩
    · cases hread : readInteger text <;> rw [hread] at h <;> cases h
  · rintro ⟨⟨hdecimal, hreal⟩, hd⟩
    rw [← isReal_iff, isReal_trim] at hreal
    rw [ofText_of_not_mem (not_mem_underscore (isNumeralChar_of_mem_decimalTexts hdecimal)), hreal, hd]
    rfl

theorem exists_ofText_eq_real_iff :
    (∃ d, ofText text = .ok (.real d)) ↔ trim isNumeralBlank text.toList ∈ realTexts := by
  constructor
  · rintro ⟨d, h⟩
    exact (ofText_eq_real_iff.mp h).1
  · intro h
    obtain ⟨p, hp⟩ := exists_parts?_iff.mpr h.1
    exact ⟨p.toDouble, ofText_eq_real_iff.mpr ⟨h, p, hp, rfl⟩⟩

/-- What is read of a text is read of every text that is the same without the blanks around. -/
theorem ofText_congr {text' : String} (h : trim isNumeralBlank text.toList = trim isNumeralBlank text'.toList)
    {x : Number} : ofText text = .ok x ↔ ofText text' = .ok x := by
  cases x with
  | int n => rw [ofText_eq_int_iff, ofText_eq_int_iff, h]
  | real d => rw [ofText_eq_real_iff, ofText_eq_real_iff, h]

/-- A text that is read is not all blank, and between the blanks around it stand characters of numerals only. -/
theorem isNumeralChar_of_ofText {x : Number} (h : ofText text = .ok x) :
    trim isNumeralBlank text.toList ≠ [] ∧ ∀ c ∈ trim isNumeralBlank text.toList, IsNumeralChar c := by
  cases x with
  | int n =>
    have hmem := ofText_eq_int_iff.mp h
    exact ⟨fun hnil => nil_not_mem_integerTexts n (hnil ▸ hmem), isNumeralChar_of_mem_integerTexts hmem⟩
  | real d =>
    have hmem := exists_ofText_eq_real_iff.mp ⟨d, h⟩
    exact ⟨fun hnil => nil_not_mem_realTexts (hnil ▸ hmem), isNumeralChar_of_mem_decimalTexts hmem.1⟩

/-- No text is read as NaN. -/
theorem ofText_ne_nan : ofText text ≠ .ok (.real .nan) := by
  intro h
  unfold ofText at h
  split at h
  · cases h
  split at h
  · cases hread : readReal text <;> rw [hread] at h <;> cases h
    exact ne_nan_of_readReal hread rfl
  · cases hread : readInteger text <;> rw [hread] at h <;> cases h

end Number

end GridCalc
