import GridCalc.Proofs.Numeral.Language
import GridCalc.Value.Coercion

/-!
# Texts as numbers

A text that is blank is zero as a number, and any other text is the number that is read without the blanks around it
(`Value.toNumber_text_eq_ok_iff`).

Main statement: `Value.toNumber_text`. A text is an integer, a double or no number according to the language that it
lies in, and what is no number is the one fault of that text. Texts with underscores, with blanks inside or with the
names of infinity and NaN are in none of the languages (`Value.not_mem_padded_of_unnumeric`).
-/

namespace GridCalc

open Text Numeral

/-! ## Blanks around numerals -/

theorem Numeral.bare_of_mem_integerTexts {n : Int} : ∀ s ∈ integerTexts n, Bare isBlank s := fun _ hs =>
  bare_of_forall fun c hc => (isNumeralChar_of_mem_integerTexts hs c hc).isBlank_eq_false

theorem Numeral.bare_of_mem_realTexts : ∀ s ∈ realTexts, Bare isBlank s := fun _ hs =>
  bare_of_forall fun c hc => (isNumeralChar_of_mem_decimalTexts hs.1 c hc).isBlank_eq_false

theorem eq_of_toLower_eq_n {c : Char} (h : c.toLower = 'n') : c = 'n' ∨ c = 'N' := by
  unfold Char.toLower at h
  split at h
  · have hval : c.val + ('a'.val - 'A'.val) = 'n'.val := congrArg Char.val h
    refine Or.inr (Char.ext ?_)
    calc c.val = c.val + ('a'.val - 'A'.val) - ('a'.val - 'A'.val) := by simp
      _ = 'N'.val := by rw [hval]; rfl
  · exact Or.inl h

namespace Value

variable {t : String}

theorem toNumber_text_of_blank (h : t.toList ∈ textsOf isBlank) : (Value.text t).toNumber = .ok (.int 0) := by
  have hnil : trim isBlank t.toList = [] := trim_eq_nil_iff.mpr h
  rw [toNumber]
  simp [hnil]

/-- A text that is not blank is read without the blanks around, or else is at fault. -/
theorem toNumber_text_of_not_blank (h : t.toList ∉ textsOf isBlank) : (Value.text t).toNumber =
    match Number.ofText (String.ofList (trim isBlank t.toList)) with
    | .ok x => .ok x
    | .error _ => .error (.coercion (.textToNumber t)) := by
  have hne : trim isBlank t.toList ≠ [] := fun hnil => h (trim_eq_nil_iff.mp hnil)
  rw [toNumber]
  simp only [List.isEmpty_iff, if_neg hne]
  cases Number.ofText (String.ofList (trim isBlank t.toList)) <;> rfl

theorem toNumber_text_eq_ok_iff (h : t.toList ∉ textsOf isBlank) {x : Number} :
    (Value.text t).toNumber = .ok x ↔ Number.ofText (String.ofList (trim isBlank t.toList)) = .ok x := by
  rw [toNumber_text_of_not_blank h]
  cases Number.ofText (String.ofList (trim isBlank t.toList)) <;> simp

/-- Without the blanks around it a text has none around a numeral either. -/
theorem trim_trimmed (s : List Char) :
    trim isNumeralBlank (String.ofList (trim isBlank s)).toList = trim isBlank s := by
  rw [String.toList_ofList, trim_trim fun _ => isBlank_of_isNumeralBlank]

/-- A blank text is no numeral with blanks around. -/
theorem not_mem_padded_of_blank {texts : Language Char} (hbare : ∀ s ∈ texts, Bare isBlank s) (hnil : [] ∉ texts)
    (h : t.toList ∈ textsOf isBlank) : t.toList ∉ padded isBlank texts := by
  rwa [mem_padded_iff hbare, trim_eq_nil_iff.mpr h]

theorem toNumber_text_eq_int_iff (n : Int) : (Value.text t).toNumber = .ok (.int n) ↔
    (t.toList ∈ textsOf isBlank ∧ n = 0) ∨ t.toList ∈ padded isBlank (integerTexts n) := by
  by_cases h : t.toList ∈ textsOf isBlank
  · have hnone := not_mem_padded_of_blank bare_of_mem_integerTexts (nil_not_mem_integerTexts n) h
    rw [toNumber_text_of_blank h]
    simp [h, hnone, eq_comm]
  · rw [toNumber_text_eq_ok_iff h, Number.ofText_eq_int_iff, trim_trimmed, ← mem_padded_iff bare_of_mem_integerTexts]
    simp [h]

theorem exists_toNumber_text_eq_real_iff : (∃ d, (Value.text t).toNumber = .ok (.real d)) ↔
    t.toList ∈ padded isBlank realTexts := by
  by_cases h : t.toList ∈ textsOf isBlank
  · have hnone := not_mem_padded_of_blank bare_of_mem_realTexts nil_not_mem_realTexts h
    rw [toNumber_text_of_blank h]
    simp [hnone]
  · simp only [toNumber_text_eq_ok_iff h]
    rw [Number.exists_ofText_eq_real_iff, trim_trimmed, ← mem_padded_iff bare_of_mem_realTexts]

theorem eq_of_toNumber_text_eq_error {fault : Fault} (h : (Value.text t).toNumber = .error fault) :
    fault = .coercion (.textToNumber t) := by
  by_cases hblank : t.toList ∈ textsOf isBlank
  · rw [toNumber_text_of_blank hblank] at h
    cases h
  · rw [toNumber_text_of_not_blank hblank] at h
    split at h
    · cases h
    · cases h
      rfl

/-- What lies in none of the languages is at fault. -/
theorem toNumber_text_eq_error_iff (fault : Fault) : (Value.text t).toNumber = .error fault ↔
    fault = .coercion (.textToNumber t) ∧ t.toList ∉ textsOf isBlank ∧
      (∀ n, t.toList ∉ padded isBlank (integerTexts n)) ∧ t.toList ∉ padded isBlank realTexts := by
  constructor
  · intro h
    refine ⟨eq_of_toNumber_text_eq_error h, fun hblank => ?_, fun n hn => ?_, fun hreal => ?_⟩
    · rw [toNumber_text_of_blank hblank] at h
      cases h
    · rw [(toNumber_text_eq_int_iff n).mpr (Or.inr hn)] at h
      cases h
    · obtain ⟨d, hd⟩ := exists_toNumber_text_eq_real_iff.mpr hreal
      rw [hd] at h
      cases h
  · rintro ⟨rfl, hblank, hint, hreal⟩
    cases h : (Value.text t).toNumber with
    | error fault => rw [eq_of_toNumber_text_eq_error h]
    | ok x =>
      cases x with
      | int n =>
        rcases (toNumber_text_eq_int_iff n).mp h with ⟨hzero, -⟩ | hn
        · exact absurd hzero hblank
        · exact absurd hn (hint n)
      | real d => exact absurd (exists_toNumber_text_eq_real_iff.mp ⟨d, h⟩) hreal

theorem toNumber_text_ne_nan : (Value.text t).toNumber ≠ .ok (.real .nan) := by
  by_cases hblank : t.toList ∈ textsOf isBlank
  · rw [toNumber_text_of_blank hblank]
    nofun
  · rw [Ne, toNumber_text_eq_ok_iff hblank]
    exact Number.ofText_ne_nan

/-- The names of infinity and of NaN. -/
def specialNames : List String := ["inf", "infinity", "nan"]

/-- An underscore, a blank inside or a name of infinity or NaN in letters of either case. -/
def Unnumeric (s : List Char) : Prop :=
  '_' ∈ s ∨ Interrupted isBlank s ∨ ∃ name ∈ specialNames, name.toList <:+: s.map Char.toLower

/-- None of the languages of numerals has such a text. -/
theorem not_mem_padded_of_unnumeric {texts : Language Char} (htexts : ∀ s ∈ texts, ∀ c ∈ s, IsNumeralChar c)
    {s : List Char} (h : Unnumeric s) : s ∉ padded isBlank texts := by
  intro hpadded
  have hchars := forall_mem_padded htexts hpadded
  have hunderscore : '_' ∉ s := fun hmem => absurd (hchars _ hmem) (by decide)
  have hsmall : 'n' ∉ s := fun hmem => absurd (hchars _ hmem) (by decide)
  have hcapital : 'N' ∉ s := fun hmem => absurd (hchars _ hmem) (by decide)
  rcases h with hmem | hinterrupted | ⟨name, hname, hsub⟩
  · exact hunderscore hmem
  · exact not_interrupted_of_mem_padded (fun s hs c hc => (htexts s hs c hc).isBlank_eq_false) hpadded hinterrupted
  · have hletter : ∀ name ∈ specialNames, 'n' ∈ name.toList := by decide
    obtain ⟨c, hc, hlower⟩ := List.mem_map.mp (hsub.subset (hletter name hname))
    rcases eq_of_toLower_eq_n hlower with rfl | rfl
    · exact hsmall hc
    · exact hcapital hc

theorem not_blank_of_unnumeric {s : List Char} (h : Unnumeric s) : s ∉ textsOf isBlank := by
  intro hblank
  have hempty : ∀ s ∈ (1 : Language Char), ∀ c ∈ s, IsNumeralChar c := by
    rintro s rfl c hc
    cases hc
  have hnil : [] ∈ textsOf isBlank := by rintro c ⟨⟩
  refine not_mem_padded_of_unnumeric hempty h (mem_padded.mpr ⟨s, [], [], hblank, rfl, hnil, ?_⟩)
  simp

/-- A text is the integer zero if it is blank, and an integer if it consists of a sign, which may be missing, and of at
most `Number.digitLimit` digits that spell the integer, with blanks around; it is a double if it is a decimal with a
point or an exponent, with blanks around. No text is NaN, and every other text, such as one with an underscore, with a
blank inside or with the name of a number that is not finite, is a fault of one kind. -/
theorem toNumber_text (t : String) :
    (∀ n, (Value.text t).toNumber = .ok (.int n) ↔
      (t.toList ∈ textsOf isBlank ∧ n = 0) ∨ t.toList ∈ padded isBlank (integerTexts n)) ∧
    ((∃ d, (Value.text t).toNumber = .ok (.real d)) ↔ t.toList ∈ padded isBlank realTexts) ∧
    (Value.text t).toNumber ≠ .ok (.real .nan) ∧
    (∀ fault, (Value.text t).toNumber = .error fault ↔ fault = .coercion (.textToNumber t) ∧
      t.toList ∉ textsOf isBlank ∧ (∀ n, t.toList ∉ padded isBlank (integerTexts n)) ∧
      t.toList ∉ padded isBlank realTexts) ∧
    (Unnumeric t.toList → (Value.text t).toNumber = .error (.coercion (.textToNumber t))) := by
  refine ⟨toNumber_text_eq_int_iff, exists_toNumber_text_eq_real_iff, toNumber_text_ne_nan,
    toNumber_text_eq_error_iff, fun h => ?_⟩
  refine (toNumber_text_eq_error_iff _).mpr ⟨rfl, not_blank_of_unnumeric h, fun n => ?_, ?_⟩
  · exact not_mem_padded_of_unnumeric (fun _ => isNumeralChar_of_mem_integerTexts) h
  · exact not_mem_padded_of_unnumeric (fun _ hs => isNumeralChar_of_mem_decimalTexts hs.1) h

/-- A minus and digits of another script between blanks are an integer; grouped digits are none. -/
theorem toNumber_text_other_script :
    (Value.text "\u00a0-\u0664\u0662\t").toNumber = .ok (.int (-42)) ∧
      (Value.text "1_000").toNumber = .error (.coercion (.textToNumber "1_000")) := by
  have hinteger : ['-', '\u0664', '\u0662'] ∈ integerTexts (-42) :=
    ⟨['-'], Or.inr (Or.inr rfl), ['\u0664', '\u0662'], ⟨by decide, List.all_eq_true.mp rfl⟩, by decide, rfl, by decide⟩
  have hpadded : "\u00a0-\u0664\u0662\t".toList ∈ padded isBlank (integerTexts (-42)) :=
    mem_padded.mpr ⟨['\u00a0'], _, ['\t'], List.all_eq_true.mp rfl, hinteger, List.all_eq_true.mp rfl, rfl⟩
  exact ⟨((toNumber_text _).1 (-42)).mpr (Or.inr hpadded), (toNumber_text "1_000").2.2.2.2 (Or.inl (by decide))⟩

end Value

end GridCalc
