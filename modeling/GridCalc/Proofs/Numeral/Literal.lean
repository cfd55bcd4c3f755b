import GridCalc.Proofs.Numeral.Coercion

/-!
# Number literals and texts

A number literal is read as it stands. A text is read without the blanks around it, and these include the separator
controls U+001C to U+001F, which may not stand around a numeral. So no literal with a separator is a number
(`Number.not_isSeparator_of_ofText`), and apart from these a literal is the number that the same text is.

Main statement: `Literal.number_eq_ok_iff_toNumber`.
-/

namespace GridCalc

open Text Numeral

/-! ## Separators -/

/-- The controls U+001C to U+001F that separate files, groups, records and units. -/
def Text.isSeparator (c : Char) : Bool := 0x1C ≤ c.toNat && c.toNat ≤ 0x1F

theorem Text.isNumeralBlank_eq (c : Char) : isNumeralBlank c = (isBlank c && !isSeparator c) := rfl

namespace Number

variable {text : String} {x : Number}

/-- A separator is dropped nowhere, and it is no character of a numeral. -/
theorem not_isSeparator_of_ofText (h : ofText text = .ok x) : ∀ c ∈ text.toList, isSeparator c = false := by
  intro c hc
  by_contra hseparator
  rw [Bool.not_eq_false] at hseparator
  have hkept : isNumeralBlank c = false := by rw [isNumeralBlank_eq, hseparator, Bool.not_true, Bool.and_false]
  have hblank : isBlank c = false :=
    ((isNumeralChar_of_ofText h).2 c ((mem_trim_iff hkept).mpr hc)).isBlank_eq_false
  have hrange : (0x1C, 0x20) ∈ blankRanges := by decide
  simp only [isSeparator, Bool.and_eq_true, decide_eq_true_eq] at hseparator
  rw [isBlank, inRanges_iff.mpr ⟨_, hrange, hseparator.1, Nat.le_succ_of_le hseparator.2⟩] at hblank
  cases hblank

/-- Characters of numerals are not blank, so what consists of blanks has none. -/
theorem ofText_ne_ok_of_blank (h : text.toList ∈ textsOf isBlank) : ofText text ≠ .ok x := by
  intro hx
  obtain ⟨hne, hchars⟩ := isNumeralChar_of_ofText hx
  obtain ⟨c, hc⟩ := List.exists_mem_of_ne_nil _ hne
  have hblank := h c (mem_of_mem_trim hc)
  rw [(hchars c hc).isBlank_eq_false] at hblank
  cases hblank

/-- Without separators, a text is read like what is left of it without blanks around. -/
theorem ofText_trim (h : ∀ c ∈ text.toList, isSeparator c = false) :
    ofText (String.ofList (trim isBlank text.toList)) = .ok x ↔ ofText text = .ok x := by
  refine ofText_congr ?_
  rw [Value.trim_trimmed]
  exact trim_congr fun c hc => by rw [isNumeralBlank_eq, h c hc, Bool.not_false, Bool.and_true]

end Number

/-! ## Literals -/

namespace Literal

variable {t : String}

theorem number_eq_ok_iff {v : Value} : number t = .ok v ↔ ∃ x, v = .number x ∧ Number.ofText t = .ok x := by
  unfold number
  cases Number.ofText t with
  | ok x => simp [eq_comm]
  | error fault => simp [Fault.raise]

theorem number_eq_error {fault : Fault} (h : number t = .error fault) : fault = .coercion (.numberLiteral t) := by
  unfold number at h
  split at h
  · cases h
  · cases h
    rfl

/-- A text that is not blank is a number as a literal iff it is that number as a text and holds no separator. A blank
text is zero, but as a literal it is at fault. Each has one kind of fault. -/
theorem number_eq_ok_iff_toNumber (t : String) :
    (t.toList ∉ textsOf isBlank → ∀ x, number t = .ok (.number x) ↔
      (Value.text t).toNumber = .ok x ∧ ∀ c ∈ t.toList, isSeparator c = false) ∧
    (t.toList ∈ textsOf isBlank → number t = .error (.coercion (.numberLiteral t)) ∧
      (Value.text t).toNumber = .ok (.int 0)) ∧
    (∀ v, number t = .ok v → ∃ x, v = .number x) ∧
    (∀ fault, number t = .error fault → fault = .coercion (.numberLiteral t)) ∧
    ∀ fault, (Value.text t).toNumber = .error fault → fault = .coercion (.textToNumber t) := by
  have hliteral : ∀ x, number t = .ok (.number x) ↔ Number.ofText t = .ok x := fun x => by
    rw [number_eq_ok_iff]
    simp
  refine ⟨fun hblank x => ?_, fun hblank => ⟨?_, Value.toNumber_text_of_blank hblank⟩, fun v hv => ?_,
    fun fault => number_eq_error, fun fault => Value.eq_of_toNumber_text_eq_error⟩
  · rw [hliteral, Value.toNumber_text_eq_ok_iff hblank]
    constructor
    · intro hx
      have hseparator := Number.not_isSeparator_of_ofText hx
      exact ⟨(Number.ofText_trim hseparator).mpr hx, hseparator⟩
    · rintro ⟨hx, hseparator⟩
      exact (Number.ofText_trim hseparator).mp hx
  · cases h : number t with
    | ok v =>
      obtain ⟨x, -, hx⟩ := number_eq_ok_iff.mp h
      exact absurd hx (Number.ofText_ne_ok_of_blank hblank)
    | error fault => rw [number_eq_error h]
  · obtain ⟨x, hx, -⟩ := number_eq_ok_iff.mp hv
    exact ⟨x, hx⟩

/-- Blanks other than separators may stand around a literal, but there has to be one. -/
theorem number_eq_ok_iff_toNumber_blanks :
    "\u00a0-42\n".toList ∉ textsOf isBlank ∧ number "\u00a0-42\n" = .ok (.int (-42)) ∧
      "\u001f\t".toList ∈ textsOf isBlank ∧ number "\u001f\t" = .error (.coercion (.numberLiteral "\u001f\t")) := by
  have hsome : "\u00a0-42\n".toList ∉ textsOf isBlank := fun h => absurd (h '4' (by decide)) (by decide)
  have hnone : "\u001f\t".toList ∈ textsOf isBlank := List.all_eq_true.mp rfl
  have hread : (Value.text "\u00a0-42\n").toNumber = .ok (.int (-42)) := by rfl
  have hclean : ∀ c ∈ "\u00a0-42\n".toList, (!isSeparator c) = true := List.all_eq_true.mp rfl
  simp only [Bool.not_eq_true'] at hclean
  exact ⟨hsome, ((number_eq_ok_iff_toNumber _).1 hsome _).mpr ⟨hread, hclean⟩, hnone,
    ((number_eq_ok_iff_toNumber _).2.1 hnone).1⟩

/-- A digit behind a separator is a number as a text, but not as a literal. -/
theorem number_ne_toNumber : "\u001c1".toList ∉ textsOf isBlank ∧ (Value.text "\u001c1").toNumber = .ok (.int 1) ∧
    number "\u001c1" = .error (.coercion (.numberLiteral "\u001c1")) :=
  ⟨fun h => absurd (h '1' (by decide)) (by decide), by rfl, by rfl⟩

end Literal

end GridCalc
