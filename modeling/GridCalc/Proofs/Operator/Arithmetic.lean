import GridCalc.Proofs.Double.Rounding
import GridCalc.Proofs.Operator.Totality

/-!
# Arithmetic on scalars

An arithmetic operator has a result on any two scalars or lists, which is a formula error or a finite number
(`mathScalar_total`). Its result is a number iff both operands are numbers and the operation on them has a finite
outcome.

The percent sign divides by 100 without a look at the outcome. So it is a division by 100 on all scalars whose number
has a hundredth part among the finite doubles (`Number.HasHundredth`), and on no others (`percent_eq_division`): an
integer that is too large fails, and an infinite double or NaN stays what it is.
-/

namespace GridCalc

/-! ## The hundredth part -/

namespace Number

/-- The hundredth part of the number is a finite double. -/
def HasHundredth : Number → Prop
  | int n => n.natAbs < 100 * Double.overflowBound
  | real d => d.isFinite = true

/-- What a number without a hundredth part has instead where nothing guards against it: a fault if it is an integer,
itself if it is no finite double. -/
def unguarded : Number → Except Fault Value
  | int _ => .error (.arithmetic .quotientTooLarge)
  | real d => .ok (.real d)

theorem representable_hundred : Double.Representable (100 * Double.oneUnits) := by decide +kernel

/-- One hundred is a double. -/
theorem ofInt_hundred : Double.ofInt 100 = .finite false (100 * Double.oneUnits) representable_hundred := by
  have hsign : decide ((100 : Int) < 0) = false := rfl
  have hsize : (100 : Int).natAbs = 100 := rfl
  rw [Double.ofInt, hsign, hsize, Double.ofRatio]
  exact Double.ofUnits_of_representable false representable_hundred

theorem hundred_ne_zero : (100 * Double.oneUnits == 0) = false := by decide +kernel

theorem int_div_hundred (m : Int) : (int m).div (.int 100) =
    let d := Double.ofRatio (decide (m < 0)) m.natAbs 100
    if d.isFinite then .ok (.real d) else .error .quotientTooLarge := by
  have hsign : (decide (m < 0) ^^ decide ((100 : Int) < 0)) = decide (m < 0) := Bool.xor_false _
  have hsize : (100 : Int).natAbs = 100 := rfl
  rw [div, intQuotient, if_neg (by decide), hsign, hsize]
  dsimp only
  split <;> rfl

/-- A double divided by a number that is not zero. -/
theorem real_div (d : Double) {y : Number} {e : Double} (hy : y.toDouble = .ok e) (hzero : e.isZero = false) :
    (real d).div y = .ok (.real (d.div e)) := by
  unfold div
  dsimp only
  rw [hy]
  show (if e.isZero then .error .divisionByZero else .ok (real (d.div e)) : Except ArithmeticFault Number) = _
  rw [hzero]
  rfl

theorem real_div_hundred (d : Double) : (real d).div (.int 100) = .ok (.real (d.div (Double.ofInt 100))) := by
  refine real_div d ?_ ?_
  · rw [toDouble, ofInt_hundred]
    rfl
  · rw [ofInt_hundred, Double.isZero, hundred_ne_zero]

theorem isFinite_div_hundred {d : Double} (h : d.isFinite = true) : (d.div (Double.ofInt 100)).isFinite = true := by
  cases d with
  | nan => cases h
  | infinite negative => cases h
  | finite negative u fits =>
    have hpos : 100 * Double.oneUnits ≠ 0 := by simpa using hundred_ne_zero
    rw [ofInt_hundred, Double.div, if_neg hpos, Double.isFinite_ofRatio_iff (Nat.pos_iff_ne_zero.mpr hpos)]
    calc u < Double.overflowUnits := fits.1
      _ ≤ 100 * Double.oneUnits * Double.overflowBound := by decide +kernel

theorem exists_div_hundred {n : Number} (h : n.HasHundredth) : ∃ q, n.div (.int 100) = .ok q ∧ q.isFinite = true := by
  cases n with
  | int m =>
    have hfinite : (Double.ofRatio (decide (m < 0)) m.natAbs 100).isFinite = true :=
      (Double.isFinite_ofRatio_iff (by decide)).mpr h
    refine ⟨real (Double.ofRatio (decide (m < 0)) m.natAbs 100), ?_, hfinite⟩
    rw [int_div_hundred]
    exact if_pos hfinite
  | real d => exact ⟨_, real_div_hundred d, isFinite_div_hundred h⟩

/-- An integer without a hundredth part is too large, and what is no finite double is its own hundredth part. -/
theorem div_hundred_of_not {n : Number} (h : ¬n.HasHundredth) : n.div (.int 100) = match n with
    | .int _ => .error .quotientTooLarge
    | .real d => .ok (.real d) := by
  cases n with
  | int m =>
    have hfinite : ¬(Double.ofRatio (decide (m < 0)) m.natAbs 100).isFinite = true := fun hfinite =>
      h ((Double.isFinite_ofRatio_iff (by decide)).mp hfinite)
    rw [int_div_hundred]
    exact if_neg hfinite
  | real d =>
    rw [real_div_hundred, ofInt_hundred]
    cases d with
    | nan => rfl
    | infinite negative => cases negative <;> rfl
    | finite negative u fits => exact absurd rfl h

end Number

variable {l r v : Value} {token : String} {operator : MathOperator}

/-! ## Two operands -/

/-- A formula error or a finite number. -/
def Value.IsOutcome : Value → Prop
  | error _ => True
  | number n => n.isFinite = true
  | _ => False

theorem isOutcome_mathResult (x : Except ArithmeticFault Number) : (mathResult x).IsOutcome := by
  cases x with
  | ok n =>
    rw [mathResult]
    split
    · assumption
    · exact trivial
  | error fault => cases fault <;> exact trivial

theorem mathResult_eq_number_iff {x : Except ArithmeticFault Number} {n : Number} :
    mathResult x = .number n ↔ x = .ok n ∧ n.isFinite = true := by
  cases x with
  | ok m =>
    rw [mathResult]
    constructor
    · intro h
      split at h
      · cases h
        exact ⟨rfl, ‹_›⟩
      · cases h
    · rintro ⟨⟨⟩, hfinite⟩
      exact if_pos hfinite
  | error fault => cases fault <;> simp [mathResult]

theorem number?_of_toNumber {n : Number} (h : v.toNumber = .ok n) : number? v = .ok (some n) := by
  rw [number?, h]

theorem toNumber_of_number? {n : Number} (h : number? v = .ok (some n)) : v.toNumber = .ok n := by
  rw [number?] at h
  split at h
  · cases h
    assumption
  · cases h
  · cases h

/-- Errors and arrays are no numbers. -/
theorem isOperand_of_toNumber {n : Number} (h : v.toNumber = .ok n) : v.isError = false ∧ v.isList = false := by
  cases v <;> first | exact ⟨rfl, rfl⟩ | simp [Value.toNumber, Fault.raise] at h

theorem mathScalar_of_toNumber {x y : Number} (hoperator : MathOperator.ofToken? token = some operator)
    (hx : l.toNumber = .ok x) (hy : r.toNumber = .ok y) :
    mathScalar l token r = .ok (mathResult (operator.apply x y)) := by
  rw [mathScalar, unlessError_of_operands (isOperand_of_toNumber hx) (isOperand_of_toNumber hy)]
  simp only [number?_of_toNumber hx, number?_of_toNumber hy, hoperator, ok_bind]
  rfl

/-- Operands on the left that become one number make one result. -/
theorem mathScalar_congr_left {l' : Value} {x : Number} (hl : l.toNumber = .ok x) (hl' : l'.toNumber = .ok x)
    (token : String) (r : Value) : mathScalar l token r = mathScalar l' token r := by
  rw [mathScalar, mathScalar, unlessError, unlessError, firstError_pair_left (isOperand_of_toNumber hl),
    firstError_pair_left (isOperand_of_toNumber hl'), number?_of_toNumber hl, number?_of_toNumber hl']

theorem mathScalar_congr_right {r' : Value} {x : Number} (hr : r.toNumber = .ok x) (hr' : r'.toNumber = .ok x)
    (l : Value) (token : String) : mathScalar l token r = mathScalar l token r' := by
  rw [mathScalar, mathScalar, unlessError, unlessError, firstError_pair_right l (isOperand_of_toNumber hr),
    firstError_pair_right l (isOperand_of_toNumber hr'), number?_of_toNumber hr, number?_of_toNumber hr']

/-- A result is a formula error or the outcome of the operation on two numbers. -/
theorem mathScalar_eq_ok (hoperator : MathOperator.ofToken? token = some operator)
    (h : mathScalar l token r = .ok v) :
    (∃ kind, v = .error kind) ∨
      ∃ x y, l.toNumber = .ok x ∧ r.toNumber = .ok y ∧ v = mathResult (operator.apply x y) := by
  unfold mathScalar unlessError at h
  split at h
  · cases h
    exact Or.inl ⟨_, rfl⟩
  · obtain ⟨x?, hx, h⟩ := bind_eq_ok_iff.mp h
    obtain ⟨y?, hy, h⟩ := bind_eq_ok_iff.mp h
    cases x? with
    | none =>
      cases h
      exact Or.inl ⟨_, rfl⟩
    | some x =>
      cases y? with
      | none =>
        cases h
        exact Or.inl ⟨_, rfl⟩
      | some y =>
        simp only [hoperator] at h
        cases h
        exact Or.inr ⟨x, y, toNumber_of_number? hx, toNumber_of_number? hy, rfl⟩

theorem mathScalar_eq_number_iff {n : Number} (hoperator : MathOperator.ofToken? token = some operator) :
    mathScalar l token r = .ok (.number n) ↔
      ∃ x y, l.toNumber = .ok x ∧ r.toNumber = .ok y ∧ operator.apply x y = .ok n ∧ n.isFinite = true := by
  constructor
  · intro h
    rcases mathScalar_eq_ok hoperator h with ⟨kind, hkind⟩ | ⟨x, y, hx, hy, hn⟩
    · cases hkind
    · exact ⟨x, y, hx, hy, mathResult_eq_number_iff.mp hn.symm⟩
  · rintro ⟨x, y, hx, hy, hn⟩
    rw [mathScalar_of_toNumber hoperator hx hy, mathResult_eq_number_iff.mpr hn]

theorem isOutcome_of_mathScalar (hoperator : MathOperator.ofToken? token = some operator)
    (h : mathScalar l token r = .ok v) : v.IsOutcome := by
  rcases mathScalar_eq_ok hoperator h with ⟨kind, rfl⟩ | ⟨x, y, -, -, rfl⟩
  · exact trivial
  · exact isOutcome_mathResult _

theorem exists_ofToken? (htoken : token ∈ ["+", "-", "*", "/", "^"]) :
    ∃ operator, MathOperator.ofToken? token = some operator := by
  simp only [List.mem_cons, List.not_mem_nil, or_false] at htoken
  rcases htoken with rfl | rfl | rfl | rfl | rfl <;> exact ⟨_, rfl⟩

/-- Every operator has a result on any two scalars or lists, a formula error or a finite number. It is a number iff
both operands are numbers and the operation on them has a finite outcome. -/
theorem mathScalar_total (htoken : token ∈ ["+", "-", "*", "/", "^"]) (hl : l.IsEntry) (hr : r.IsEntry) :
    ∃ operator v, MathOperator.ofToken? token = some operator ∧ mathScalar l token r = .ok v ∧ v.IsOutcome ∧
      ∀ n, v = .number n ↔
        ∃ x y, l.toNumber = .ok x ∧ r.toNumber = .ok y ∧ operator.apply x y = .ok n ∧ n.isFinite = true := by
  obtain ⟨operator, hoperator⟩ := exists_ofToken? htoken
  obtain ⟨v, hv⟩ := exists_mathScalar (Option.isSome_iff_exists.mpr ⟨operator, hoperator⟩) hl hr
  refine ⟨operator, v, hoperator, hv, isOutcome_of_mathScalar hoperator hv, fun n => ?_⟩
  rw [← mathScalar_eq_number_iff hoperator, hv, Except.ok.injEq]

/-- A power of a spelled infinity, and a list as an operand. -/
theorem mathScalar_total_extreme :
    (∃ v, mathScalar (.int (10 ^ 400)) "^" (.text "1e999") = .ok v ∧ v.IsOutcome) ∧
      ∃ v, mathScalar (.real .nan) "/" (.list [.empty]) = .ok v ∧ v.IsOutcome := by
  obtain ⟨-, v, -, hv, hout, -⟩ :=
    @mathScalar_total (.int (10 ^ 400)) (.text "1e999") "^" (by decide) (Or.inl trivial) (Or.inl trivial)
  obtain ⟨-, w, -, hw, hwout, -⟩ :=
    @mathScalar_total (.real .nan) (.list [.empty]) "/" (by decide) (Or.inl trivial) (Or.inr rfl)
  exact ⟨⟨v, hv, hout⟩, w, hw, hwout⟩

/-! ## The percent sign -/

theorem percent_of_scalar (v : Value) : percent ⟨v, false⟩ "%" = onNumber hundredth v := by
  rw [percent, if_pos rfl]
  rfl

theorem onNumber_of_toNumber {op : Number → Except Fault Number} {n : Number} (h : v.toNumber = .ok n) :
    onNumber op v = Value.number <$> op n := by
  have hnumber := number?_of_toNumber h
  have herror := (isOperand_of_toNumber h).1
  unfold onNumber
  split
  · cases herror
  · simp only [hnumber, ok_bind]
    cases op n <;> rfl

/-- What is no number is one error, whatever is to be done to it. -/
theorem onNumber_of_none (h : number? v = .ok none) :
    ∃ kind, ∀ op : Number → Except Fault Number, onNumber op v = .ok (.error kind) := by
  cases v with
  | error kind => exact ⟨kind, fun _ => rfl⟩
  | _ => exact ⟨.value, fun op => by simp only [onNumber, h, ok_bind, pure_eq_ok]⟩

/-- Whatever is done to the number of a value, with or without a second number: a value that is none gives the same. -/
theorem onNumber_of_not_number {op : Number → Except Fault Number} {y : Number} (hy : r.toNumber = .ok y)
    (hv : v.IsScalar) (h : ∀ n, v.toNumber ≠ .ok n) : onNumber op v = mathScalar v token r := by
  have hnone : number? v = .ok none := by
    obtain ⟨n?, hn⟩ := exists_number? (Or.inl hv)
    cases n? with
    | none => exact hn
    | some n => exact absurd (toNumber_of_number? hn) (h n)
  cases v with
  | error kind =>
    simp only [onNumber, mathScalar, unlessError_of_error_left]
  | text s =>
    rw [mathScalar, unlessError_of_operands ⟨rfl, rfl⟩ (isOperand_of_toNumber hy)]
    simp only [onNumber, hnone, number?_of_toNumber hy, ok_bind, pure_eq_ok]
  | empty | bool b | number n => exact absurd rfl (h _)
  | list items | collection items | reference ref | bearer ref | classified v isArray | bare items
  | bareReference ref => exact hv.elim

/-- The percent sign and the division agree on what is no number. -/
theorem percent_of_not_number (hv : v.IsScalar) (h : ∀ n, v.toNumber ≠ .ok n) :
    percent ⟨v, false⟩ "%" = mathScalar v "/" (.int 100) := by
  rw [percent_of_scalar]
  exact onNumber_of_not_number rfl hv h

/-- Where the hundredth part is a finite double, nothing is to be guarded against. -/
theorem percent_of_hasHundredth {n : Number} (hn : v.toNumber = .ok n) (h : n.HasHundredth) :
    percent ⟨v, false⟩ "%" = mathScalar v "/" (.int 100) := by
  obtain ⟨q, hq, hfinite⟩ := Number.exists_div_hundred h
  have hoperator : MathOperator.ofToken? "/" = some .div := rfl
  have hhundredth : hundredth n = .ok q := by rw [hundredth, hq]
  have hdivision : mathScalar v "/" (.int 100) = .ok (.number q) :=
    (mathScalar_eq_number_iff hoperator).mpr ⟨n, .int 100, hn, rfl, hq, hfinite⟩
  rw [percent_of_scalar, onNumber_of_toNumber hn, hhundredth, hdivision]
  rfl

/-- Without a hundredth part the division is `#NUM!`. The percent sign fails on an integer and keeps what is no finite
double. -/
theorem percent_of_not_hasHundredth {n : Number} (hn : v.toNumber = .ok n) (h : ¬n.HasHundredth) :
    mathScalar v "/" (.int 100) = .ok (.error .num) ∧ percent ⟨v, false⟩ "%" = n.unguarded := by
  have hdiv := Number.div_hundred_of_not h
  have hoperator : MathOperator.ofToken? "/" = some .div := rfl
  have hdivision : mathScalar v "/" (.int 100) = .ok (mathResult (n.div (.int 100))) :=
    mathScalar_of_toNumber hoperator hn rfl
  rw [hdivision, percent_of_scalar, onNumber_of_toNumber hn, hundredth, hdiv]
  cases n with
  | int m => exact ⟨rfl, rfl⟩
  | real d => exact ⟨congrArg Except.ok (if_neg h), rfl⟩

/-- The percent sign is a division by 100 iff the number of its operand, if it has one, has a hundredth part. The
division always has a result. -/
theorem percent_eq_division (hv : v.IsScalar) :
    (percent ⟨v, false⟩ "%" = mathScalar v "/" (.int 100) ↔ ∀ n, v.toNumber = .ok n → n.HasHundredth) ∧
      (∃ w, mathScalar v "/" (.int 100) = .ok w ∧ w.IsOutcome) ∧
      ∀ n, v.toNumber = .ok n → ¬n.HasHundredth →
        mathScalar v "/" (.int 100) = .ok (.error .num) ∧ percent ⟨v, false⟩ "%" = n.unguarded := by
  have hoperator : MathOperator.ofToken? "/" = some .div := rfl
  have hhundred : (Value.int 100).IsEntry := Or.inl trivial
  obtain ⟨w, hw⟩ := exists_mathScalar (Option.isSome_iff_exists.mpr ⟨_, hoperator⟩) (Or.inl hv) hhundred
  refine ⟨⟨fun heq n hn => ?_, fun hall => ?_⟩, ⟨w, hw, isOutcome_of_mathScalar hoperator hw⟩,
    fun n hn => percent_of_not_hasHundredth hn⟩
  · by_contra h
    obtain ⟨hdivision, hpercent⟩ := percent_of_not_hasHundredth hn h
    rw [hpercent, hdivision] at heq
    cases n <;> cases heq
  · by_cases hnumber : ∃ n, v.toNumber = .ok n
    · obtain ⟨n, hn⟩ := hnumber
      exact percent_of_hasHundredth hn (hall n hn)
    · exact percent_of_not_number hv (not_exists.mp hnumber)

/-- The least integer without a hundredth part, and the one before it. -/
theorem percent_eq_division_edge :
    percent ⟨.int (100 * Double.overflowBound), false⟩ "%" = .error (.arithmetic .quotientTooLarge) ∧
      percent ⟨.int (100 * Double.overflowBound - 1), false⟩ "%" =
        mathScalar (.int (100 * Double.overflowBound - 1)) "/" (.int 100) := by
  have hlarge : ¬(Number.int (100 * Double.overflowBound)).HasHundredth := by
    rw [Number.HasHundredth]
    omega
  have hbelow : (Number.int (100 * Double.overflowBound - 1)).HasHundredth := by
    have hpos : 0 < Double.overflowBound := Nat.mul_pos (twoPow_pos 970) (by decide +kernel)
    rw [Number.HasHundredth]
    omega
  obtain ⟨-, -, hguard⟩ := @percent_eq_division (.int (100 * Double.overflowBound)) trivial
  obtain ⟨hagree, -, -⟩ := @percent_eq_division (.int (100 * Double.overflowBound - 1)) trivial
  refine ⟨(hguard _ rfl hlarge).2, hagree.mpr fun n hn => ?_⟩
  cases hn
  exact hbelow

/-- A division of 10^400 by 100 is `#NUM!`, but the percent sign fails there. -/
theorem percent_ne_division :
    percent ⟨.int (10000 ^ 100), false⟩ "%" = .error (.arithmetic .quotientTooLarge) ∧
      mathScalar (.int (10000 ^ 100)) "/" (.int 100) = .ok (.error .num) := by
  have hlarge : ¬(Number.int (10000 ^ 100)).HasHundredth := by
    rw [Number.HasHundredth, not_lt]
    decide +kernel
  exact (percent_of_not_hasHundredth rfl hlarge).symm

end GridCalc
