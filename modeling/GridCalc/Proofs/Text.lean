import Mathlib.Computability.Language
import Mathlib.Data.List.TakeWhile
import GridCalc.Text.Blank

/-!
# Text between characters of a class

A text is *bare* of a class if neither its first nor its last character is in the class. Whatever is bare is what
`Text.trim` leaves of it once characters of the class are put around it (`Text.trim_append`), and every text is what is
left of it with such characters around (`Text.bare_trim`, `Text.exists_trim`). So the trimmed text is in a language of
bare texts iff the text is in the language *padded* with the class (`Text.mem_padded_iff`).
-/

namespace GridCalc.Text

variable {p q : Char → Bool} {s front back : List Char} {texts : Language Char}

/-- The front of a text up to the first character that is out of a class. -/
theorem span_append {rest : List Char} (hfront : ∀ c ∈ front, p c = true)
    (hrest : ∀ c, rest.head? = some c → p c = false) :
    (front ++ rest).takeWhile p = front ∧ (front ++ rest).dropWhile p = rest := by
  have hstop : rest.takeWhile p = [] ∧ rest.dropWhile p = rest := by
    cases rest with
    | nil => exact ⟨rfl, rfl⟩
    | cons c rest => simp [hrest c rfl]
  rw [List.takeWhile_append_of_pos hfront, List.dropWhile_append_of_pos hfront, hstop.1, hstop.2, List.append_nil]
  exact ⟨rfl, rfl⟩

/-! ## Trimming -/

/-- Neither end of the text is in the class. -/
def Bare (p : Char → Bool) (s : List Char) : Prop :=
  (∀ c, s.head? = some c → p c = false) ∧ ∀ c, s.getLast? = some c → p c = false

theorem bare_of_forall (h : ∀ c ∈ s, p c = false) : Bare p s :=
  ⟨fun c hc => h c (List.mem_of_head? hc), fun c hc => h c (List.mem_of_getLast? hc)⟩

/-- What is bare of a class is bare of each part of the class. -/
theorem Bare.mono (hqp : ∀ c, q c = true → p c = true) (h : Bare p s) : Bare q s := by
  have hq : ∀ c, p c = false → q c = false := fun c hc => by
    by_contra hqc
    rw [hqp c (Bool.eq_true_of_not_eq_false hqc)] at hc
    cases hc
  exact ⟨fun c hc => hq c (h.1 c hc), fun c hc => hq c (h.2 c hc)⟩

/-- Nothing but characters of the class is dropped. -/
theorem exists_trim (p : Char → Bool) (s : List Char) : ∃ front back, (∀ c ∈ front, p c = true) ∧
    (∀ c ∈ back, p c = true) ∧ s = front ++ (trim p s ++ back) ∧ trim p s ++ back = s.dropWhile p := by
  have hrest : trim p s ++ ((s.dropWhile p).reverse.takeWhile p).reverse = s.dropWhile p := by
    rw [trim, ← List.reverse_append, List.takeWhile_append_dropWhile, List.reverse_reverse]
  refine ⟨s.takeWhile p, _, fun c hc => List.mem_takeWhile_imp hc, fun c hc => ?_, ?_, hrest⟩
  · exact List.mem_takeWhile_imp (List.mem_reverse.mp hc)
  · rw [hrest, List.takeWhile_append_dropWhile]

theorem bare_trim (p : Char → Bool) (s : List Char) : Bare p (trim p s) := by
  have hstop : ∀ t : List Char, ∀ c, (t.dropWhile p).head? = some c → p c = false := by
    intro t c hc
    have hhead := List.head?_dropWhile_not p t
    rw [hc] at hhead
    simpa using hhead
  constructor
  · -- the first character that is left is the first that is not dropped in front
    intro c hc
    obtain ⟨front, back, -, -, -, hrest⟩ := exists_trim p s
    refine hstop s c ?_
    rw [← hrest, List.head?_append, hc]
    rfl
  · intro c hc
    rw [trim, List.getLast?_reverse] at hc
    exact hstop _ c hc

theorem mem_of_mem_trim {c : Char} (h : c ∈ trim p s) : c ∈ s := by
  obtain ⟨front, back, -, -, hs, -⟩ := exists_trim p s
  rw [hs]
  exact List.mem_append_right _ (List.mem_append_left _ h)

/-- Characters out of the class are kept. -/
theorem mem_trim_iff {c : Char} (hc : p c = false) : c ∈ trim p s ↔ c ∈ s := by
  refine ⟨mem_of_mem_trim, fun h => ?_⟩
  obtain ⟨front, back, hfront, hback, hs, -⟩ := exists_trim p s
  have hout : ∀ {part : List Char}, (∀ c ∈ part, p c = true) → c ∉ part := fun hpart hmem => by
    rw [hpart c hmem] at hc
    cases hc
  rw [hs, List.mem_append, List.mem_append] at h
  exact (h.resolve_left (hout hfront)).resolve_right (hout hback)

theorem trim_eq_nil_iff : trim p s = [] ↔ ∀ c ∈ s, p c = true := by
  constructor
  · intro h
    obtain ⟨front, back, hfront, hback, hs, -⟩ := exists_trim p s
    rw [hs, h]
    exact List.forall_mem_append.mpr ⟨hfront, hback⟩
  · intro h
    have hbare := (bare_trim p s).1
    cases htrim : trim p s with
    | nil => rfl
    | cons c rest =>
      have hc := h c (mem_of_mem_trim (htrim ▸ List.mem_cons_self))
      rw [hbare c (by rw [htrim]; rfl)] at hc
      cases hc

/-- A bare text is what is left of it between characters of the class. -/
theorem trim_append (hfront : ∀ c ∈ front, p c = true) (hs : Bare p s) (hback : ∀ c ∈ back, p c = true) :
    trim p (front ++ (s ++ back)) = s := by
  by_cases hne : s = []
  · rw [hne, List.nil_append, trim_eq_nil_iff]
    exact List.forall_mem_append.mpr ⟨hfront, hback⟩
  have hdrop : (front ++ (s ++ back)).dropWhile p = s ++ back := by
    refine (span_append hfront fun c hc => hs.1 c ?_).2
    rwa [List.head?_append_of_ne_nil _ hne] at hc
  have hreverse : (back.reverse ++ s.reverse).dropWhile p = s.reverse := by
    refine (span_append (by simpa using hback) fun c hc => hs.2 c ?_).2
    rwa [List.head?_reverse] at hc
  rw [trim, hdrop, List.reverse_append, hreverse, List.reverse_reverse]

theorem trim_eq_self (h : Bare p s) : trim p s = s := by
  have hnil : ∀ c ∈ ([] : List Char), p c = true := by simp
  simpa using trim_append hnil h hnil

/-- What is trimmed of a class is trimmed of each part of the class. -/
theorem trim_trim (hqp : ∀ c, q c = true → p c = true) (s : List Char) : trim q (trim p s) = trim p s :=
  trim_eq_self ((bare_trim p s).mono hqp)

/-- What is dropped of a text depends on its own characters only. -/
theorem trim_congr (h : ∀ c ∈ s, p c = q c) : trim p s = trim q s := by
  obtain ⟨front, back, hfront, hback, hs, -⟩ := exists_trim q s
  have hin : ∀ c ∈ front ++ (trim q s ++ back), p c = q c := hs ▸ h
  simp only [List.forall_mem_append] at hin
  obtain ⟨hfrontIn, hcoreIn, hbackIn⟩ := hin
  have hbare : Bare p (trim q s) :=
    ⟨fun c hc => (hcoreIn c (List.mem_of_head? hc)).trans ((bare_trim q s).1 c hc),
      fun c hc => (hcoreIn c (List.mem_of_getLast? hc)).trans ((bare_trim q s).2 c hc)⟩
  calc trim p s = trim p (front ++ (trim q s ++ back)) := congrArg (trim p) hs
    _ = trim q s := trim_append (fun c hc => (hfrontIn c hc).trans (hfront c hc)) hbare
        fun c hc => (hbackIn c hc).trans (hback c hc)

/-! ## Padded languages -/

/-- All characters are in the class. -/
def textsOf (p : Char → Bool) : Language Char := {s | ∀ c ∈ s, p c = true}

/-- The texts of a language with characters of the class before and behind them. -/
def padded (p : Char → Bool) (texts : Language Char) : Language Char := textsOf p * texts * textsOf p

theorem mem_padded : s ∈ padded p texts ↔ ∃ front core back, (∀ c ∈ front, p c = true) ∧ core ∈ texts ∧
    (∀ c ∈ back, p c = true) ∧ s = front ++ (core ++ back) := by
  simp only [padded, Language.mem_mul]
  constructor
  · rintro ⟨_, ⟨front, hfront, core, hcore, rfl⟩, back, hback, rfl⟩
    exact ⟨front, core, back, hfront, hcore, hback, List.append_assoc front core back⟩
  · rintro ⟨front, core, back, hfront, hcore, hback, rfl⟩
    exact ⟨_, ⟨front, hfront, core, hcore, rfl⟩, back, hback, List.append_assoc front core back⟩

theorem mem_padded_iff (htexts : ∀ s ∈ texts, Bare p s) : s ∈ padded p texts ↔ trim p s ∈ texts := by
  rw [mem_padded]
  constructor
  · rintro ⟨front, core, back, hfront, hcore, hback, rfl⟩
    rwa [trim_append hfront (htexts core hcore) hback]
  · intro h
    obtain ⟨front, back, hfront, hback, hs, -⟩ := exists_trim p s
    exact ⟨front, trim p s, back, hfront, h, hback, hs⟩

/-- Characters before and behind are in the class, and those between are in the language. -/
theorem forall_mem_padded {P : Char → Prop} (htexts : ∀ s ∈ texts, ∀ c ∈ s, P c) (h : s ∈ padded p texts) :
    ∀ c ∈ s, p c = true ∨ P c := by
  obtain ⟨front, core, back, hfront, hcore, hback, rfl⟩ := mem_padded.mp h
  simp only [List.forall_mem_append]
  exact ⟨fun c hc => Or.inl (hfront c hc), fun c hc => Or.inr (htexts core hcore c hc),
    fun c hc => Or.inl (hback c hc)⟩

/-- A character of the class stands between characters that are not in it. -/
def Interrupted (p : Char → Bool) (s : List Char) : Prop :=
  ∃ front c back, s = front ++ c :: back ∧ p c = true ∧ (∃ x ∈ front, p x = false) ∧ ∃ y ∈ back, p y = false

theorem not_interrupted_of_mem_padded (htexts : ∀ s ∈ texts, ∀ c ∈ s, p c = false) (h : s ∈ padded p texts) :
    ¬Interrupted p s := by
  rintro ⟨front, c, back, hs, hc, ⟨x, hx, hxp⟩, y, hy, hyp⟩
  obtain ⟨before, core, behind, hbefore, hcore, hbehind, rfl⟩ := mem_padded.mp h
  -- the character in front is not before the core and the one at the back is not behind it
  have hx' : x ∉ before := fun hmem => by simp [hbefore x hmem] at hxp
  have hy' : y ∉ behind := fun hmem => by simp [hbehind y hmem] at hyp
  have hc' : c ∉ core := fun hmem => by simp [htexts core hcore c hmem] at hc
  rcases List.append_eq_append_iff.mp hs with ⟨mid, rfl, hrest⟩ | ⟨mid, rfl, -⟩
  · rcases List.append_eq_append_iff.mp hrest with ⟨mid', rfl, rfl⟩ | ⟨mid', rfl, hrest'⟩
    · exact hy' (by simp [hy])
    · cases mid' with
      | nil =>
        rw [List.nil_append] at hrest'
        exact hy' (hrest' ▸ List.mem_cons_of_mem c hy)
      | cons d mid' =>
        rw [List.cons_append, List.cons.injEq] at hrest'
        exact hc' (by simp [hrest'.1])
  · exact hx' (List.mem_append_left _ hx)

end GridCalc.Text
