import Mathlib.Data.List.Shortlex
import GridCalc.Proofs.Column

/-!
# The order of columns

Digits from 1 to 26 spell the numbers from `Column.firstOf k` to `Column.lastOf k` if there are `k` of them, and these
ranges follow each other without a gap. So more digits spell a greater number, and among as many the first difference
decides (`Column.spelled_lt_iff`). The digits of capitals are in the order of these letters
(`Column.lettersOf_lt_iff`).

Main statement: `Column.index_shortlex`. The number that letters of either case spell tells texts of letters apart and
orders them by their length and, where they are as long, by the alphabet; no number is left out. The number of two texts
one after the other is that of the first, moved by as many letters as the second spells, and that of the second.
-/

namespace GridCalc.Column

open Text

variable {values values' : List Nat}

/-! ## Numbers with as many digits -/

/-- The first number that `k` digits spell. -/
def firstOf : Nat → Nat
  | 0 => 0
  | k + 1 => lastOf k + 1

theorem lastOf_eq (k : Nat) : lastOf k = 26 * firstOf k := by
  cases k <;> rfl

/-- There are as many numbers with `k` digits as rows of `k` digits. -/
theorem lastOf_add_one (k : Nat) : lastOf k + 1 = 26 ^ k + firstOf k := by
  induction k with
  | zero => rfl
  | succ k ih =>
    calc lastOf (k + 1) + 1 = 26 * (lastOf k + 1) + 1 := rfl
      _ = 26 ^ (k + 1) + (26 * firstOf k + 1) := by rw [ih, Nat.pow_succ]; omega
      _ = 26 ^ (k + 1) + firstOf (k + 1) := by rw [← lastOf_eq, firstOf]

/-- Digits in front of others count as often as these can be chosen. -/
theorem spelled_append_list (front rest : List Nat) :
    spelled (front ++ rest) = spelled front * 26 ^ rest.length + spelled rest := by
  induction rest using List.reverseRecOn with
  | nil => simp [spelled]
  | append_singleton rest v ih =>
    rw [← List.append_assoc, spelled_append, spelled_append, ih, List.length_append, List.length_singleton,
      Nat.pow_succ, Nat.add_mul, Nat.mul_assoc, Nat.add_assoc]

theorem spelled_cons (v : Nat) (rest : List Nat) : spelled (v :: rest) = v * 26 ^ rest.length + spelled rest := by
  have hsingle : spelled [v] = v := by simp [spelled]
  rw [← List.singleton_append, spelled_append_list, hsingle]

theorem firstOf_le_spelled (h : AreDigits values) : firstOf values.length ≤ spelled values := by
  induction values with
  | nil => exact Nat.le_refl 0
  | cons v rest ih =>
    obtain ⟨⟨hpos, -⟩, hrest⟩ := List.forall_mem_cons.mp h
    rw [spelled_cons, List.length_cons, firstOf, lastOf_add_one]
    exact Nat.add_le_add (Nat.le_mul_of_pos_left _ hpos) (ih hrest)

/-! ## The order of digits -/

/-- The first difference decides, as the digits behind it differ by less than one step there. -/
theorem spelled_lt_of_lex (h : AreDigits values) (h' : AreDigits values') (hlength : values.length = values'.length)
    (hlex : List.Lex (· < ·) values values') : spelled values < spelled values' := by
  induction hlex with
  | nil => cases hlength
  | @cons v rest rest' _ ih =>
    have hrest : rest.length = rest'.length := Nat.succ.inj hlength
    have hlt := ih (List.forall_mem_cons.mp h).2 (List.forall_mem_cons.mp h').2 hrest
    rw [spelled_cons, spelled_cons, hrest]
    exact Nat.add_lt_add_left hlt _
  | @rel v rest v' rest' hv =>
    have hrest : rest.length = rest'.length := Nat.succ.inj hlength
    have hle := spelled_le_lastOf (List.forall_mem_cons.mp h).2
    have hge := firstOf_le_spelled (List.forall_mem_cons.mp h').2
    rw [spelled_cons, spelled_cons]
    calc v * 26 ^ rest.length + spelled rest
        < v * 26 ^ rest.length + (26 ^ rest.length + firstOf rest.length) :=
          Nat.add_lt_add_left (lastOf_add_one _ ▸ Nat.lt_succ_of_le hle) _
      _ = (v + 1) * 26 ^ rest'.length + firstOf rest'.length := by rw [hrest, Nat.succ_mul, Nat.add_assoc]
      _ ≤ v' * 26 ^ rest'.length + spelled rest' := Nat.add_le_add (Nat.mul_le_mul_right _ hv) hge

theorem spelled_lt_of_shortlex (h : AreDigits values) (h' : AreDigits values')
    (hlt : List.Shortlex (· < ·) values values') : spelled values < spelled values' := by
  rcases List.shortlex_def.mp hlt with hshorter | ⟨hlength, hlex⟩
  · obtain ⟨k, hk⟩ := Nat.exists_eq_succ_of_ne_zero (Nat.ne_of_gt (Nat.zero_lt_of_lt hshorter))
    calc spelled values ≤ lastOf values.length := spelled_le_lastOf h
      _ ≤ lastOf k := lastOf_mono (by omega)
      _ < firstOf values'.length := by rw [hk]; exact Nat.lt_succ_self _
      _ ≤ spelled values' := firstOf_le_spelled h'
  · exact spelled_lt_of_lex h h' hlength hlex

theorem spelled_lt_iff (h : AreDigits values) (h' : AreDigits values') :
    spelled values < spelled values' ↔ List.Shortlex (· < ·) values values' := by
  refine ⟨fun hlt => ?_, spelled_lt_of_shortlex h h'⟩
  rcases trichotomous_of (List.Shortlex (· < ·)) values values' with hless | heq | hgreater
  · exact hless
  · exact absurd hlt (heq ▸ Nat.lt_irrefl _)
  · exact absurd hlt (Nat.lt_asymm (spelled_lt_of_shortlex h' h hgreater))

/-! ## The order of letters -/

theorem letterOf_lt_iff {v v' : Nat} (h : 1 ≤ v ∧ v ≤ 26) (h' : 1 ≤ v' ∧ v' ≤ 26) :
    letterOf (v - 1) < letterOf (v' - 1) ↔ v < v' := by
  have hcode : letterOf (v - 1) < letterOf (v' - 1) ↔ (letterOf (v - 1)).toNat < (letterOf (v' - 1)).toNat := Iff.rfl
  rw [hcode, toNat_letterOf (by omega), toNat_letterOf (by omega)]
  omega

theorem letterOf_eq_iff {v v' : Nat} (h : 1 ≤ v ∧ v ≤ 26) (h' : 1 ≤ v' ∧ v' ≤ 26) :
    letterOf (v - 1) = letterOf (v' - 1) ↔ v = v' := by
  refine ⟨fun hletters => ?_, fun heq => by rw [heq]⟩
  have hdigits := letterOf_inj (by omega) (by omega) hletters
  omega

/-- Letters are in alphabetical order iff their digits are in the order of numbers. -/
theorem lettersOf_lt_iff (h : AreDigits values) (h' : AreDigits values') :
    lettersOf values < lettersOf values' ↔ values < values' := by
  induction values generalizing values' with
  | nil => cases values' <;> simp [lettersOf]
  | cons v rest ih =>
    cases values' with
    | nil => simp [lettersOf]
    | cons v' rest' =>
      obtain ⟨hv, hrest⟩ := List.forall_mem_cons.mp h
      obtain ⟨hv', hrest'⟩ := List.forall_mem_cons.mp h'
      have htail := ih hrest hrest'
      simp only [lettersOf] at htail
      simp only [lettersOf, List.map_cons, List.cons_lt_cons_iff, letterOf_lt_iff hv hv', letterOf_eq_iff hv hv', htail]

/-! ## The number of letters -/

variable {s t : String}

theorem index_eq_iff (hs : ∀ c ∈ s.toList, c.isAlpha = true) (ht : ∀ c ∈ t.toList, c.isAlpha = true) :
    index s = index t ↔ s.toList.map Char.toUpper = t.toList.map Char.toUpper := by
  have hspell := spell_index hs
  have hspell' := spell_index ht
  rw [String.ofList_toList] at hspell hspell'
  rw [← hspell, ← hspell']
  exact ⟨congrArg spell, spell_inj⟩

theorem index_lt_iff (hs : ∀ c ∈ s.toList, c.isAlpha = true) (ht : ∀ c ∈ t.toList, c.isAlpha = true) :
    index s < index t ↔ s.length < t.length ∨
      s.length = t.length ∧ s.toList.map Char.toUpper < t.toList.map Char.toUpper := by
  obtain ⟨values, hvalues, hindex, hcapitals⟩ := exists_digits_index hs
  obtain ⟨values', hvalues', hindex', hcapitals'⟩ := exists_digits_index ht
  rw [String.ofList_toList] at hindex hindex'
  rw [hindex, hindex', spelled_lt_iff hvalues hvalues', List.shortlex_def, length_eq_of_lettersOf_eq hcapitals,
    length_eq_of_lettersOf_eq hcapitals', String.length_toList, String.length_toList, ← hcapitals, ← hcapitals',
    lettersOf_lt_iff hvalues hvalues']
  rfl

theorem map_toUpper_spell (n : Nat) : (spell n).map Char.toUpper = spell n := by
  have hall : ∀ d : Fin 26, (letterOf d).toUpper = letterOf d := by decide
  fun_induction spell n with
  | case1 => rfl
  | case2 n _ ih =>
    rw [List.map_append, ih, List.map_singleton, hall ⟨(n - 1) % 26, Nat.mod_lt _ (by decide)⟩]

/-- Every number is spelled by letters. -/
theorem exists_index_eq (n : Nat) : ∃ s : String, (∀ c ∈ s.toList, c.isAlpha = true) ∧ index s = n := by
  refine ⟨String.ofList (spell n), fun c hc => ?_, index_of_map_toUpper (map_toUpper_spell n)⟩
  rw [String.toList_ofList] at hc
  exact Bool.or_eq_true_iff.mpr (Or.inl (isUpper_of_mem_spell hc))

theorem length_filterMap_letterValue? (s : List Char) :
    (s.filterMap letterValue?).length = s.countP Char.isUpper := by
  have hsome : ∀ c : Char, (letterValue? c).isSome = c.isUpper := by
    intro c
    have hupper : c.isUpper = decide ('A' ≤ c ∧ c ≤ 'Z') := rfl
    rw [hupper, letterValue?]
    split <;> simp_all
  rw [List.length_filterMap_eq_countP]
  exact List.countP_congr fun c _ => by rw [hsome]

/-- A text moves the number of the text in front of it by as many letters as it spells. -/
theorem index_append (s t : String) :
    index (s ++ t) = index s * 26 ^ (upper t.toList).countP Char.isUpper + index t := by
  rw [index, String.toList_append, upper_append, List.filterMap_append, spelled_append_list,
    length_filterMap_letterValue?, index, index]

/-- Texts of letters have the same number iff they are the same up to case, and a smaller one iff they are shorter or,
where they are as long, earlier in the alphabet up to case. Every number is that of some letters. Of any two texts, the
second adds its own number to that of the first, which it moves by one place for each letter that its upper case has. -/
theorem index_shortlex :
    (∀ s t : String, (∀ c ∈ s.toList, c.isAlpha = true) → (∀ c ∈ t.toList, c.isAlpha = true) →
      (index s = index t ↔ s.toList.map Char.toUpper = t.toList.map Char.toUpper) ∧
      (index s < index t ↔ s.length < t.length ∨
        s.length = t.length ∧ s.toList.map Char.toUpper < t.toList.map Char.toUpper)) ∧
    (∀ n : Nat, ∃ s : String, (∀ c ∈ s.toList, c.isAlpha = true) ∧ index s = n) ∧
    ∀ s t : String, index (s ++ t) = index s * 26 ^ (upper t.toList).countP Char.isUpper + index t :=
  ⟨fun _ _ hs ht => ⟨index_eq_iff hs ht, index_lt_iff hs ht⟩, exists_index_eq, index_append⟩

/-- The last column of two letters comes before the first one of three, and a ligature moves by the two letters of its
upper case. -/
theorem index_shortlex_ends : index "zZ" < index "aAA" ∧ index ("a" ++ "ﬁ") = index "a" * 26 ^ 2 + index "FI" := by
  obtain ⟨horder, -, happend⟩ := index_shortlex
  obtain ⟨-, hlt⟩ := horder "zZ" "aAA" (List.all_eq_true.mp rfl) (List.all_eq_true.mp rfl)
  exact ⟨hlt.mpr (Or.inl (by decide)), happend "a" "ﬁ"⟩

end GridCalc.Column
