import Mathlib.Data.Char
import Mathlib.Data.List.Lex
import Mathlib.Data.Rat.Cast.Order
import Mathlib.Data.Sum.Order
import Mathlib.Order.Compare
import Mathlib.Order.WithBot
import GridCalc.Proofs.Operator.Totality

/-!
# The order of values

Numbers other than NaN, texts and truth values are compared by a key in a linear order (`Value.sortKey?`): the exact
value of a number on the extended line, the lower case of a text, and a truth value, in this order of the three types.
No number is rounded for it (`Number.value?`).

Main statement: `compareScalar_totalPreorder`.
-/

namespace GridCalc

open Text

/-! ## Exact values of numbers -/

/-- The rational numbers with an infinity at each end. -/
abbrev ExtendedLine := WithBot (WithTop ℚ)

namespace Number

/-- The exact value of a number; NaN has none. A double counts units of 2^-1074, `Double.oneUnits` of which are 1. -/
def value? : Number → Option ExtendedLine
  | int n => some ((n : ℚ) : WithTop ℚ)
  | real .nan => none
  | real (.infinite negative) => some (if negative then ⊥ else ⊤)
  | real (.finite negative u _) => some ((signed negative u / Double.oneUnits : ℚ) : WithTop ℚ)

/-- The value at a place. -/
def Place.value : Place → ExtendedLine
  | bottom => ⊥
  | units n => ((n / Double.oneUnits : ℚ) : WithTop ℚ)
  | top => ⊤

theorem cast_oneUnits_pos : (0 : ℚ) < Double.oneUnits := Nat.cast_pos.mpr (twoPow_pos 1074)

theorem value?_eq_map_place? (x : Number) : x.value? = x.place?.map Place.value := by
  cases x with
  | int n =>
    rw [value?, place?, Option.map_some, Place.value, Int.cast_mul, Int.cast_natCast,
      mul_div_cancel_right₀ _ cast_oneUnits_pos.ne']
  | real d =>
    cases d with
    | nan => rfl
    | infinite negative => cases negative <;> rfl
    | finite negative u fits => rfl

/-- The places are in the order of their values. -/
theorem Place.lt_iff (p q : Place) : p.lt q = true ↔ p.value < q.value := by
  have hbelow : ∀ n : Int, (units n).value < top.value := fun n => WithBot.coe_lt_coe.mpr (WithTop.coe_lt_top _)
  cases p with
  | bottom =>
    cases q with
    | bottom => exact iff_of_false Bool.false_ne_true (lt_irrefl _)
    | units n => exact iff_of_true rfl (WithBot.bot_lt_coe _)
    | top => exact iff_of_true rfl bot_lt_top
  | units m =>
    cases q with
    | bottom => exact iff_of_false Bool.false_ne_true not_lt_bot
    | units n =>
      rw [Place.lt, value, value, WithBot.coe_lt_coe, WithTop.coe_lt_coe,
        div_lt_div_iff_of_pos_right cast_oneUnits_pos, Int.cast_lt, decide_eq_true_eq]
    | top => exact iff_of_true rfl (hbelow m)
  | top =>
    cases q with
    | bottom => exact iff_of_false Bool.false_ne_true not_lt_bot
    | units n => exact iff_of_false Bool.false_ne_true (hbelow n).asymm
    | top => exact iff_of_false Bool.false_ne_true (lt_irrefl _)

theorem exists_value? {x : Number} (hx : x ≠ .real .nan) : ∃ q, x.value? = some q := by
  cases x with
  | int n => exact ⟨_, rfl⟩
  | real d =>
    cases d with
    | nan => exact absurd rfl hx
    | infinite negative => exact ⟨_, rfl⟩
    | finite negative u fits => exact ⟨_, rfl⟩

theorem lt_iff {x y : Number} {p q : ExtendedLine} (hx : x.value? = some p) (hy : y.value? = some q) :
    x.lt y = true ↔ p < q := by
  rw [value?_eq_map_place?, Option.map_eq_some_iff] at hx hy
  obtain ⟨p, hp, rfl⟩ := hx
  obtain ⟨q, hq, rfl⟩ := hy
  rw [lt, hp, hq]
  exact Place.lt_iff p q

theorem Place.value_injective : Function.Injective Place.value := by
  intro p q h
  have hlt : p.lt q = false ∧ q.lt p = false := by
    rw [← Bool.not_eq_true, ← Bool.not_eq_true, lt_iff, lt_iff, h]
    exact ⟨lt_irrefl _, lt_irrefl _⟩
  cases p <;> cases q <;> simp_all [lt]
  omega

/-- Numbers of one value stand at one place. -/
theorem place?_eq_of_value?_eq {x y : Number} (h : x.value? = y.value?) : x.place? = y.place? := by
  rw [value?_eq_map_place?, value?_eq_map_place?] at h
  exact Option.map_injective Place.value_injective h

theorem eq_of_value?_eq {m n : Int} (h : (int m).value? = (int n).value?) : m = n := by
  rw [value?, value?, Option.some.injEq, WithBot.coe_inj, WithTop.coe_inj] at h
  exact Int.cast_injective h

end Number

/-! ## Comparisons within a type -/

theorem compares_compareNumber {x y : Number} {p q : ExtendedLine} (hx : x.value? = some p) (hy : y.value? = some q) :
    (compareNumber x y).Compares p q := by
  unfold compareNumber
  split
  · rename_i hlt
    exact (Number.lt_iff hx hy).mp hlt
  · rename_i hlt
    split
    · rename_i hgt
      exact (Number.lt_iff hy hx).mp hgt
    · rename_i hgt
      exact le_antisymm (not_lt.mp (mt (Number.lt_iff hy hx).mpr hgt)) (not_lt.mp (mt (Number.lt_iff hx hy).mpr hlt))

theorem compares_compareText (s t : List Char) : (compareText s t).Compares s t := by
  fun_induction compareText s t with
  | case1 => rfl
  | case2 => exact List.Lex.nil
  | case3 => exact List.Lex.nil
  | case4 a s b t hlt => exact List.Lex.rel (UInt32.lt_iff_toNat_lt.mpr hlt)
  | case5 a s b t _ hgt => exact List.Lex.rel (UInt32.lt_iff_toNat_lt.mpr hgt)
  | case6 a s b t hlt hgt ih =>
    have hab : a = b := Char.toNat_inj.mp (by omega)
    rw [hab]
    revert ih
    cases compareText s t with
    | lt => exact List.Lex.cons
    | eq => exact congrArg (b :: ·)
    | gt => exact List.Lex.cons

theorem compares_compareBool (a b : Bool) : (compareBool a b).Compares a b := by
  cases a <;> cases b <;> rfl

/-! ## Exchanged sides -/

theorem Number.lt_asymm {x y : Number} (h : x.lt y = true) : y.lt x = false := by
  unfold lt at h ⊢
  cases hx : x.place? with
  | none => simp [hx] at h
  | some p =>
    cases hy : y.place? with
    | none => simp [hx, hy] at h
    | some q =>
      simp only [hx, hy] at h ⊢
      exact Bool.eq_false_of_not_eq_true (mt (Place.lt_iff q p).mp ((Place.lt_iff p q).mp h).asymm)

theorem compareNumber_swap (x y : Number) : (compareNumber x y).swap = compareNumber y x := by
  unfold compareNumber
  cases hlt : x.lt y with
  | true => simp [Number.lt_asymm hlt]
  | false => cases y.lt x <;> simp

theorem compareText_swap (s t : List Char) : (compareText s t).swap = compareText t s :=
  (compares_compareText s t).swap.inj (compares_compareText t s)

theorem compareBool_swap (a b : Bool) : (compareBool a b).swap = compareBool b a := by cases a <;> cases b <;> rfl

theorem compareAlike_swap (x y : Value) : (compareAlike x y).swap = compareAlike y x := by
  cases x <;> cases y <;> first
    | rfl | exact compareNumber_swap _ _ | exact compareText_swap _ _ | exact compareBool_swap _ _

/-- A comparison from the other side, also of nothing and of NaN. -/
theorem compareScalar_swap {x y : Value} {o : Ordering} (h : compareScalar x y = .ok o) :
    compareScalar y x = .ok o.swap := by
  unfold compareScalar at h ⊢
  obtain ⟨xtype, hxtype, h⟩ := bind_eq_ok_iff.mp h
  obtain ⟨xrank, hxrank, h⟩ := bind_eq_ok_iff.mp h
  obtain ⟨ytype, hytype, h⟩ := bind_eq_ok_iff.mp h
  obtain ⟨yrank, hyrank, h⟩ := bind_eq_ok_iff.mp h
  simp only [hxtype, hxrank, hytype, hyrank, ok_bind]
  rcases Nat.lt_trichotomy xrank yrank with hlt | heq | hgt
  · rw [if_pos hlt] at h
    cases h
    rw [if_neg (by omega), if_pos hlt]
    rfl
  · rw [if_neg (by omega), if_neg (by omega)] at h
    cases h
    rw [if_neg (by omega), if_neg (by omega), compareAlike_swap]
    rfl
  · rw [if_neg (by omega), if_pos hgt] at h
    cases h
    rw [if_pos hgt]
    rfl

/-! ## Keys -/

/-- Numbers come before texts and texts before truth values. -/
def SortKey : Type := ExtendedLine ⊕ₗ (List Char ⊕ₗ Bool)

namespace SortKey

instance : LinearOrder SortKey := inferInstanceAs (LinearOrder (ExtendedLine ⊕ₗ (List Char ⊕ₗ Bool)))

def number (q : ExtendedLine) : SortKey := toLex (.inl q)

def text (s : List Char) : SortKey := toLex (.inr (toLex (.inl s)))

def bool (b : Bool) : SortKey := toLex (.inr (toLex (.inr b)))

theorem strictMono_number : StrictMono number := fun _ _ h => Sum.Lex.inl_lt_inl_iff.mpr h

theorem strictMono_text : StrictMono text := fun _ _ h =>
  Sum.Lex.inr_lt_inr_iff.mpr (Sum.Lex.inl_lt_inl_iff.mpr h)

theorem strictMono_bool : StrictMono bool := fun _ _ h =>
  Sum.Lex.inr_lt_inr_iff.mpr (Sum.Lex.inr_lt_inr_iff.mpr h)

theorem number_lt_text (q : ExtendedLine) (s : List Char) : number q < text s := Sum.Lex.inl_lt_inr _ _

theorem number_lt_bool (q : ExtendedLine) (b : Bool) : number q < bool b := Sum.Lex.inl_lt_inr _ _

theorem text_lt_bool (s : List Char) (b : Bool) : text s < bool b :=
  Sum.Lex.inr_lt_inr_iff.mpr (Sum.Lex.inl_lt_inr _ _)

end SortKey

namespace Value

/-- A number other than NaN, a text or a truth value. -/
def IsSortable : Value → Prop
  | number n => n ≠ .real .nan
  | text _ | bool _ => True
  | _ => False

/-- What a value is compared by. -/
def sortKey? : Value → Option SortKey
  | number n => n.value?.map SortKey.number
  | text s => some (.text (lower s.toList))
  | bool b => some (.bool b)
  | _ => none

variable {v : Value}

theorem exists_sortKey? (hv : v.IsSortable) : ∃ k, v.sortKey? = some k := by
  cases v with
  | number n =>
    obtain ⟨q, hq⟩ := Number.exists_value? hv
    exact ⟨_, congrArg (Option.map _) hq⟩
  | text s | bool b => exact ⟨_, rfl⟩
  | empty | error kind | list items | collection items | reference ref | bearer ref | classified v isArray | bare items
  | bareReference ref => exact hv.elim

/-- The values that have a key. -/
theorem sortKey?_cases {k : SortKey} (h : v.sortKey? = some k) :
    (∃ n q, v = .number n ∧ n.value? = some q ∧ k = .number q) ∨
      (∃ s, v = .text s ∧ k = .text (lower s.toList)) ∨ ∃ b, v = .bool b ∧ k = .bool b := by
  cases v with
  | number n =>
    obtain ⟨q, hq, rfl⟩ := Option.map_eq_some_iff.mp h
    exact Or.inl ⟨n, q, rfl, hq, rfl⟩
  | text s =>
    cases h
    exact Or.inr (Or.inl ⟨s, rfl, rfl⟩)
  | bool b =>
    cases h
    exact Or.inr (Or.inr ⟨b, rfl, rfl⟩)
  | empty | error kind | list items | collection items | reference ref | bearer ref | classified v isArray | bare items
  | bareReference ref => cases h

end Value

theorem compareScalar_number (a b : Number) : compareScalar (.number a) (.number b) = .ok (compareNumber a b) := rfl

/-- Two values are compared by their keys. -/
theorem compares_compareScalar {x y : Value} {k m : SortKey} (hx : x.sortKey? = some k) (hy : y.sortKey? = some m) :
    ∃ o, compareScalar x y = .ok o ∧ o.Compares k m := by
  rcases Value.sortKey?_cases hx with ⟨a, p, rfl, hp, rfl⟩ | ⟨s, rfl, rfl⟩ | ⟨a, rfl, rfl⟩
  · rcases Value.sortKey?_cases hy with ⟨b, q, rfl, hq, rfl⟩ | ⟨t, rfl, rfl⟩ | ⟨b, rfl, rfl⟩
    · exact ⟨_, compareScalar_number a b, SortKey.strictMono_number.compares.mpr (compares_compareNumber hp hq)⟩
    · exact ⟨.lt, rfl, SortKey.number_lt_text p _⟩
    · exact ⟨.lt, rfl, SortKey.number_lt_bool p b⟩
  · rcases Value.sortKey?_cases hy with ⟨b, q, rfl, hq, rfl⟩ | ⟨t, rfl, rfl⟩ | ⟨b, rfl, rfl⟩
    · exact ⟨.gt, rfl, SortKey.number_lt_text q _⟩
    · exact ⟨_, rfl, SortKey.strictMono_text.compares.mpr (compares_compareText _ _)⟩
    · exact ⟨.lt, rfl, SortKey.text_lt_bool _ b⟩
  · rcases Value.sortKey?_cases hy with ⟨b, q, rfl, hq, rfl⟩ | ⟨t, rfl, rfl⟩ | ⟨b, rfl, rfl⟩
    · exact ⟨.gt, rfl, SortKey.number_lt_bool q a⟩
    · exact ⟨.gt, rfl, SortKey.text_lt_bool _ a⟩
    · exact ⟨_, rfl, SortKey.strictMono_bool.compares.mpr (compares_compareBool a b)⟩

/-- Ordered keys order the values. -/
theorem compareScalar_of_sortKey? {x y : Value} {k m : SortKey} (hx : x.sortKey? = some k) (hy : y.sortKey? = some m)
    {o : Ordering} (h : o.Compares k m) : compareScalar x y = .ok o := by
  obtain ⟨o', ho', h'⟩ := compares_compareScalar hx hy
  rw [ho', h'.inj h]

/-- The comparison of sortable values is the sign of a total preorder. It tells apart all numbers that differ, and
texts iff they differ in lower case; numbers are below texts, and texts below truth values. -/
theorem compareScalar_totalPreorder {x y z : Value} (hx : x.IsSortable) (hy : y.IsSortable) (hz : z.IsSortable) :
    compareScalar x x = .ok .eq ∧
      (∃ o, compareScalar x y = .ok o ∧ compareScalar y x = .ok o.swap) ∧
      (∃ xy yz xz, compareScalar x y = .ok xy ∧ compareScalar y z = .ok yz ∧ compareScalar x z = .ok xz ∧
        (xy ≠ .gt → yz ≠ .gt → xz ≠ .gt)) ∧
      (∀ m n, x = .number m → y = .number n → ∃ p q, m.value? = some p ∧ n.value? = some q ∧
        (compareScalar x y = .ok .eq ↔ p = q)) ∧
      (∀ s t, x = .text s → y = .text t → (compareScalar x y = .ok .eq ↔ lower s.toList = lower t.toList)) ∧
      (∀ m s, x = .number m → y = .text s → compareScalar x y = .ok .lt) ∧
      (∀ s b, x = .text s → y = .bool b → compareScalar x y = .ok .lt) := by
  obtain ⟨k, hk⟩ := Value.exists_sortKey? hx
  obtain ⟨l, hl⟩ := Value.exists_sortKey? hy
  obtain ⟨m, hm⟩ := Value.exists_sortKey? hz
  obtain ⟨xy, hxy, hkl⟩ := compares_compareScalar hk hl
  obtain ⟨yz, hyz, hlm⟩ := compares_compareScalar hl hm
  obtain ⟨xz, hxz, hkm⟩ := compares_compareScalar hk hm
  have heq : compareScalar x y = .ok .eq ↔ k = l := by
    rw [hxy, Except.ok.injEq]
    exact hkl.eq_eq
  refine ⟨compareScalar_of_sortKey? hk hk (o := .eq) rfl,
    ⟨xy, hxy, compareScalar_swap hxy⟩, ⟨xy, yz, xz, hxy, hyz, hxz, fun hle hle' => ?_⟩, ?_, ?_, ?_, ?_⟩
  · exact hkm.ne_gt.mpr ((hkl.ne_gt.mp hle).trans (hlm.ne_gt.mp hle'))
  · rintro m n rfl rfl
    obtain ⟨p, hp, rfl⟩ := Option.map_eq_some_iff.mp hk
    obtain ⟨q, hq, rfl⟩ := Option.map_eq_some_iff.mp hl
    exact ⟨p, q, hp, hq, heq.trans SortKey.strictMono_number.injective.eq_iff⟩
  · rintro s t rfl rfl
    cases hk
    cases hl
    exact heq.trans SortKey.strictMono_text.injective.eq_iff
  · rintro m s rfl rfl
    obtain ⟨p, -, rfl⟩ := Option.map_eq_some_iff.mp hk
    cases hl
    exact compareScalar_of_sortKey? hk rfl (SortKey.number_lt_text p _)
  · rintro s b rfl rfl
    cases hk
    cases hl
    exact compareScalar_of_sortKey? rfl rfl (SortKey.text_lt_bool _ b)

/-- The integer after 2^53 is above the double 2^53, to which it would be rounded, and below the empty text. -/
theorem compareScalar_totalPreorder_mixed :
    compareScalar (.real (.ofInt 9007199254740992)) (.int 9007199254740993) = .ok .lt ∧
      compareScalar (.int 9007199254740993) (.real (.ofInt 9007199254740992)) = .ok .gt ∧
      compareScalar (.int 9007199254740993) (.text "") = .ok .lt := by
  have hnumber : Number.real (.ofInt 9007199254740992) ≠ .real .nan := by decide +kernel
  have hbelow : (Number.real (.ofInt 9007199254740992)).lt (.int 9007199254740993) = true := by decide +kernel
  have hlt : compareScalar (.real (.ofInt 9007199254740992)) (.int 9007199254740993) = .ok .lt := by
    rw [compareScalar_number, compareNumber, if_pos hbelow]
  obtain ⟨-, ⟨o, ho, hswap⟩, -⟩ := @compareScalar_totalPreorder (.real (.ofInt 9007199254740992))
    (.int 9007199254740993) (.text "") hnumber nofun trivial
  obtain ⟨-, -, -, -, -, htext, -⟩ := @compareScalar_totalPreorder (.int 9007199254740993) (.text "") (.text "")
    nofun trivial trivial
  cases hlt.symm.trans ho
  exact ⟨hlt, hswap, htext _ _ rfl rfl⟩

end GridCalc
