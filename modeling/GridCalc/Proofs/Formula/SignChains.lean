import GridCalc.Proofs.Formula.Standard
import GridCalc.Proofs.Operator.Arithmetic
import GridCalc.Proofs.Operator.Entrywise

/-!
# Chains of signs

Signs in front of a signed formula are the same as all the signs at once (`evaluate_signs_append`). On a scalar only
the number of minus signs counts: none leaves it as it is, and any others negate its number as often
(`signScalar_append`). On an array the outer signs find the rows that the inner ones made (`signs_append`).
-/

namespace GridCalc

/-! ## Scalars -/

/-- The number after so many negations. -/
def Number.negated (count : Nat) (n : Number) : Number := if count % 2 = 1 then n.neg else n

theorem Number.negated_add (a b : Nat) (n : Number) : n.negated (a + b) = (n.negated b).negated a := by
  unfold negated
  rcases Nat.mod_two_eq_zero_or_one a with ha | ha <;> rcases Nat.mod_two_eq_zero_or_one b with hb | hb <;>
    simp [Nat.add_mod, ha, hb]

/-- Signs negate numbers, whether there is a minus among them or not. -/
theorem signScalar_number (tokens : List String) (n : Number) :
    signScalar tokens (.number n) = .ok (.number (n.negated (tokens.count "-"))) := by
  unfold signScalar
  dsimp only
  split
  · rename_i hzero
    rw [hzero]
    rfl
  · rfl

theorem signScalar_error (tokens : List String) (kind : ErrorKind) :
    signScalar tokens (.error kind) = .ok (.error kind) := by
  unfold signScalar
  dsimp only
  split <;> rfl

/-- Where there is a minus among them, signs negate the number of a value. -/
theorem signScalar_of_toNumber {tokens : List String} (hminus : tokens.count "-" ≠ 0) {v : Value} {n : Number}
    (hn : v.toNumber = .ok n) : signScalar tokens v = .ok (.number (n.negated (tokens.count "-"))) := by
  rw [signScalar, if_neg hminus, onNumber_of_toNumber hn]
  rfl

/-- Where there is a minus among them, signs negate the number of a value or make an error of it. -/
theorem signScalar_cases {v : Value} (hv : v.Plain) :
    (∃ n : Number, ∀ tokens : List String, tokens.count "-" ≠ 0 →
      signScalar tokens v = .ok (.number (n.negated (tokens.count "-")))) ∨
    ∃ kind, ∀ tokens : List String, tokens.count "-" ≠ 0 → signScalar tokens v = .ok (.error kind) := by
  obtain ⟨n?, hn⟩ := exists_number? hv.isEntry
  cases n? with
  | some n =>
    exact Or.inl ⟨n, fun tokens hminus => signScalar_of_toNumber hminus (toNumber_of_number? hn)⟩
  | none =>
    obtain ⟨kind, hkind⟩ := onNumber_of_none hn
    exact Or.inr ⟨kind, fun tokens hminus => by rw [signScalar, if_neg hminus, hkind]⟩

/-- Signs in front of a signed scalar. -/
theorem signScalar_append (tokens tokens' : List String) {v : Value} (hv : v.Plain) :
    (signScalar tokens' v >>= signScalar tokens) = signScalar (tokens ++ tokens') v := by
  by_cases hminus : tokens'.count "-" = 0
  · have hsame : signScalar tokens' v = .ok v := by rw [signScalar, if_pos hminus]
    rw [hsame, ok_bind, signScalar, signScalar, List.count_append, hminus, Nat.add_zero]
  · have hminus' : (tokens ++ tokens').count "-" ≠ 0 := by
      rw [List.count_append]
      omega
    rcases signScalar_cases hv with ⟨n, hn⟩ | ⟨kind, hkind⟩
    · rw [hn tokens' hminus, hn _ hminus', ok_bind, signScalar_number, List.count_append, Number.negated_add]
    · rw [hkind tokens' hminus, hkind _ hminus', ok_bind, signScalar_error]

/-! ## Arrays -/

/-- Signs in front of the rows of signed entries. -/
theorem mapM_signScalar_append (tokens tokens' : List String) {rows images : Rows} (hrows : rows.Plain)
    (himages : (rows.mapM fun row => row.mapM (signScalar tokens')) = .ok images) :
    (images.mapM fun row => row.mapM (signScalar tokens)) =
      rows.mapM fun row => row.mapM (signScalar (tokens ++ tokens')) := by
  refine mapM_images himages fun row hrow => ?_
  obtain ⟨image, himage⟩ := exists_mapM_of_forall fun v hv => exists_signScalar tokens' (hrows row hrow v hv)
  rw [himage, ok_bind]
  exact mapM_images himage fun v hv => signScalar_append tokens tokens' (hrows row hrow v hv)

/-- Signs in front of a signed value. -/
theorem signs_append {tokens tokens' : List String} (htokens : ∀ token ∈ tokens, isSign token = true)
    (htokens' : ∀ token ∈ tokens', isSign token = true) {v : Value} (hv : v.Plain) :
    (signs tokens' (.ofValue v) >>= fun w => signs tokens (.ofValue w)) = signs (tokens ++ tokens') (.ofValue v) := by
  have happend : ∀ token ∈ tokens ++ tokens', isSign token = true :=
    List.forall_mem_append.mpr ⟨htokens, htokens'⟩
  simp only [signs, if_pos (List.all_eq_true.mpr htokens), if_pos (List.all_eq_true.mpr htokens'),
    if_pos (List.all_eq_true.mpr happend)]
  cases hlist : v.isList with
  | false =>
    obtain ⟨w, hw⟩ := exists_signScalar tokens' hv
    rw [mapEntries_of_not_isList hlist, mapEntries_of_not_isList hlist, ← signScalar_append tokens tokens' hv, hw,
      ok_bind, ok_bind, mapEntries_of_not_isList (isList_of_signScalar hlist hw)]
  | true =>
    cases v with
    | list items =>
      have hrows : (rowsOf items).Plain := plain_rowsOf hv
      obtain ⟨images, himages⟩ := hrows.exists_mapM fun _ => exists_signScalar tokens'
      -- rows of the inner result: there is at least one, so the outer signs take them for rows again
      have hne : images ≠ [] := by
        rw [← List.length_pos_iff, length_of_mapM_eq_ok himages, List.length_pos_iff]
        exact rowsOf_ne_nil items
      rw [mapEntries_list, mapEntries_list, himages, map_ok, ok_bind, Rows.toValue, mapEntries_list,
        rowsOf_map_list hne, mapM_signScalar_append tokens tokens' hrows himages]
    | _ => cases hlist

namespace Engine

/-! ## Formulas -/

section

variable {lookup : Lookup} (hplain : ∀ ref v, lookup ref = .ok v → v.Plain)
include hplain

/-- What is read of a signed formula is what the signs make of what is read of the formula. -/
theorem settled_signs {tokens : List String} (htokens : ∀ token ∈ tokens, isSign token = true) (formula : Formula) :
    (standard lookup).settled (.signs tokens formula) =
      (standard lookup).settled formula >>= fun v => GridCalc.signs tokens (.ofValue v) := by
  have hfind : tokens.find? (!isSign ·) = none := by simpa using htokens
  have hread : ∀ v, v.Plain → ((standard lookup).applied (.signs tokens (.ofValue v)) >>= (standard lookup).resolved) =
      GridCalc.signs tokens (.ofValue v) := by
    intro v hv
    have happlied : (standard lookup).applied (.signs tokens (.ofValue v)) = GridCalc.signs tokens (.ofValue v) := rfl
    rw [happlied]
    cases hw : GridCalc.signs tokens (.ofValue v) with
    | error fault => rfl
    | ok w => exact resolved_of_plain _ (Call.plain_of_apply (c := .signs tokens (.ofValue v)) hv hw)
  calc (standard lookup).settled (.signs tokens formula)
      = (standard lookup).settled formula >>= fun v =>
          (standard lookup).applied (.signs tokens (.ofValue v)) >>= (standard lookup).resolved := by
        simp only [settled, result_signs, outcome_applySigns, hfind, bind_assoc]
    _ = (standard lookup).settled formula >>= fun v => GridCalc.signs tokens (.ofValue v) := by
        cases hv : (standard lookup).settled formula with
        | error fault => rfl
        | ok v => exact hread v (plain_of_settled hplain hv)

/-- Signs in front of a signed formula have the outcome of all the signs at once. -/
theorem evaluate_signs_append {tokens tokens' : List String} (htokens : ∀ token ∈ tokens, isSign token = true)
    (htokens' : ∀ token ∈ tokens', isSign token = true) (formula : Formula) :
    ((standard lookup).evaluate (.signs tokens (.signs tokens' formula))).1 =
      ((standard lookup).evaluate (.signs (tokens ++ tokens') formula)).1 := by
  have happend : ∀ token ∈ tokens ++ tokens', isSign token = true :=
    List.forall_mem_append.mpr ⟨htokens, htokens'⟩
  rw [evaluate_fst, evaluate_fst, settled_signs hplain htokens, settled_signs hplain htokens',
    settled_signs hplain happend, bind_assoc]
  cases hv : (standard lookup).settled formula with
  | error fault => rfl
  | ok v => exact congrArg catchFormulaError (signs_append htokens htokens' (plain_of_settled hplain hv))

end

/-- Two minus signs around a plus, in front of rows of several widths, restore a number but not the text that spells
it. -/
theorem evaluate_signs_append_jagged :
    ((standard fun _ => .ok (.list [.list [.text "2", .bool true], .list [.list []]])).evaluate
        (.signs ["-"] (.signs ["+", "-"] (.address "A1" none)))).1 =
      ((standard fun _ => .ok (.list [.list [.text "2", .bool true], .list [.list []]])).evaluate
        (.signs ["-", "+", "-"] (.address "A1" none))).1 ∧
    ((standard fun _ => .ok (.list [.list [.text "2", .bool true], .list [.list []]])).evaluate
        (.signs ["-", "+", "-"] (.address "A1" none))).1 =
      .ok (Rows.toValue [[.int 2, .int 1], [.error .value]]) := by
  refine ⟨evaluate_signs_append (fun ref v hv => ?_) (by decide) (by decide) _, ?_⟩
  · cases hv
    exact ⟨⟨trivial, trivial, trivial⟩, ⟨trivial, trivial⟩, trivial⟩
  · rfl

end Engine

end GridCalc
