import GridCalc.Proofs.Operator.Layout

/-!
# Errors of operands

All operators between two operands treat the errors of these alike (`InfixFamily.Propagates`): at each place of the
result stands the error that the left operand shows there, or else that of the right one, or else `#VALUE!` where one of
them shows an array. Anywhere else a comparison makes a truth value and a concatenation a text, so that new errors are
made by arithmetic only, and only of three kinds (`InfixFamily.Creates`).

Main statement: `errors_propagate`.
-/

namespace GridCalc

namespace InfixFamily

/-- What a family makes of two scalars that are no errors. -/
def Creates : InfixFamily → Value → Prop
  | comparison, x => ∃ b, x = .bool b
  | concatenation, x => ∃ s, x = .text s
  | arithmetic, x => (∃ n, n.isFinite = true ∧ x = .number n) ∨
      ∃ kind ∈ [ErrorKind.value, ErrorKind.divisionByZero, ErrorKind.num], x = .error kind

/-- What stands in a result where the operands show two values. -/
structure Propagates (family : InfixFamily) (l r x : Value) : Prop where
  left : ∀ kind, l = .error kind → x = .error kind
  right : l.isError = false → ∀ kind, r = .error kind → x = .error kind
  nested : l.isError = false → r.isError = false → (l.isList || r.isList) = true → x = .error .value
  created : l.isError = false → r.isError = false → (l.isList || r.isList) = false → family.Creates x

/-- The entries are scalars and lists, and a concatenation can write the scalars. -/
def Accepts (family : InfixFamily) (rows : Rows) : Prop :=
  ∀ row ∈ rows, ∀ v ∈ row, v.IsEntry ∧ (family = concatenation → v.IsScalar → v.writable = true)

/-! ## Entries -/

variable {family : InfixFamily} {token : String} {l r x : Value}

theorem creates_mathResult (outcome : Except ArithmeticFault Number) : arithmetic.Creates (mathResult outcome) := by
  unfold mathResult
  split
  · rename_i n
    split
    · rename_i hfinite
      exact Or.inl ⟨n, hfinite, rfl⟩
    · exact Or.inr ⟨.num, by simp, rfl⟩
  · exact Or.inr ⟨.divisionByZero, by simp, rfl⟩
  · exact Or.inr ⟨.num, by simp, rfl⟩

theorem creates_of_entries (hknows : family.Knows token) (hl : l.isError = false ∧ l.isList = false)
    (hr : r.isError = false ∧ r.isList = false) (h : family.entries token l r = .ok x) : family.Creates x := by
  cases family with
  | comparison =>
    obtain ⟨relation, hrelation⟩ := Option.isSome_iff_exists.mp hknows
    simp only [entries, hrelation, compareEntries, unlessError_of_operands hl hr] at h
    obtain ⟨o, -, h⟩ := bind_eq_ok_iff.mp h
    cases h
    exact ⟨_, rfl⟩
  | concatenation =>
    rw [entries, concatEntries, unlessError_of_operands hl hr] at h
    obtain ⟨s, -, h⟩ := bind_eq_ok_iff.mp h
    obtain ⟨t, -, h⟩ := bind_eq_ok_iff.mp h
    cases h
    exact ⟨_, rfl⟩
  | arithmetic =>
    obtain ⟨operator, hoperator⟩ := Option.isSome_iff_exists.mp hknows
    rw [entries, mathScalar, unlessError_of_operands hl hr] at h
    obtain ⟨x?, -, h⟩ := bind_eq_ok_iff.mp h
    obtain ⟨y?, -, h⟩ := bind_eq_ok_iff.mp h
    split at h
    · simp only [hoperator] at h
      cases h
      exact creates_mathResult _
    · cases h
      exact Or.inr ⟨.value, by simp, rfl⟩

/-- One entry of a result. -/
theorem propagates_of_entries (hknows : family.Knows token) (h : family.entries token l r = .ok x) :
    family.Propagates l r x where
  left := by
    rintro kind rfl
    rw [entries_of_error_left hknows] at h
    exact (Except.ok.inj h).symm
  right := by
    rintro hl kind rfl
    rw [entries_of_error_right hknows hl] at h
    exact (Except.ok.inj h).symm
  nested := by
    intro hl hr hlist
    rw [entries_of_isList hknows hl hr hlist] at h
    exact (Except.ok.inj h).symm
  created := by
    intro hl hr hlist
    obtain ⟨hll, hrl⟩ := Bool.or_eq_false_iff.mp hlist
    exact creates_of_entries hknows ⟨hl, hll⟩ ⟨hr, hrl⟩ h

/-! ## Operands -/

/-- The `#N/A` further out is accepted too. -/
theorem Accepts.shownAt {rows : Rows} (h : family.Accepts rows) (height width i j : Nat) :
    (rows.shownAt height width i j).IsEntry ∧ (family = concatenation → (rows.shownAt height width i j).IsScalar →
      (rows.shownAt height width i j).writable = true) := by
  rcases rows.shownAt_mem height width i j with ⟨row, hrow, hv⟩ | hna
  · exact h row hrow _ hv
  · rw [hna]
    exact ⟨Or.inl trivial, fun _ _ => rfl⟩

end InfixFamily

/-- An operator that is known to its family has a result on scalars and on arrays of one width each, in a concatenation
if the scalars can be written. In every result the errors of the operands come first, in the same order for all
families: at each place what the left operand shows there, then what the right one shows there, then `#VALUE!` for an
array within an array. -/
theorem errors_propagate {family : InfixFamily} {token : String} {left right : Operand} {lrows rrows : Rows}
    {lh lw rh rw' : Nat} (htoken : infixFamily token = .ok family) (hl : left.Presents lrows)
    (hr : right.Presents rrows) (hlgrid : lrows.IsGrid lh lw) (hrgrid : rrows.IsGrid rh rw') :
    (family.Accepts lrows → family.Accepts rrows → ∃ v, family.apply left token right = .ok v) ∧
    ∀ v, family.apply left token right = .ok v →
      (Layout.join (left.isArray || right.isArray) lh rh lw rw').Shows
        (fun i j x => family.Propagates (lrows.shownAt lh lw i j) (rrows.shownAt rh rw' i j) x) v := by
  have hknows := InfixFamily.knows_of_infixFamily htoken
  rw [InfixFamily.apply_of_knows hknows]
  constructor
  · intro hla hra
    refine exists_broadcast_of_shownAt hl hr hlgrid hrgrid fun i j => ?_
    obtain ⟨hle, hlw⟩ := hla.shownAt lh lw i j
    obtain ⟨hre, hrw⟩ := hra.shownAt rh rw' i j
    exact InfixFamily.exists_entries hknows hle hre fun hfamily => ⟨hlw hfamily, hrw hfamily⟩
  · intro v hv
    have hshows := (broadcast_eq_ok_iff hl hr hlgrid hrgrid).mp hv
    exact hshows.mono fun i j x => InfixFamily.propagates_of_entries hknows

/-- Two rows of two entries plus a column of three: an error on either side, an array within an array, and a place
beyond the rows. -/
theorem errors_propagate_uneven :
    infixFamily "+" = .ok .arithmetic ∧
    ∃ rows : Rows, InfixFamily.arithmetic.apply
        ⟨.list [.list [.error .num, .text "x"], .list [.list [.int 1], .int 2]], true⟩ "+"
        ⟨.list [.list [.error .divisionByZero], .list [.bool true], .list [.empty]], true⟩ = .ok rows.toValue ∧
      rows.IsGrid 3 2 ∧ rows.get? 0 0 = some (.error .num) ∧ rows.get? 0 1 = some (.error .divisionByZero) ∧
      rows.get? 1 0 = some (.error .value) ∧ rows.get? 2 1 = some (.error .notAvailable) := by
  have htoken : infixFamily "+" = .ok .arithmetic := rfl
  obtain ⟨hexists, hall⟩ := errors_propagate htoken
    (.array [.list [.error .num, .text "x"], .list [.list [.int 1], .int 2]])
    (.array [.list [.error .divisionByZero], .list [.bool true], .list [.empty]])
    (show Rows.IsGrid _ 2 2 from ⟨rfl, by simp [rowsOf, allRows?]⟩)
    (show Rows.IsGrid _ 3 1 from ⟨rfl, by simp [rowsOf, allRows?]⟩)
  have hleft : InfixFamily.arithmetic.Accepts
      (rowsOf [.list [.error .num, .text "x"], .list [.list [.int 1], .int 2]]) := by
    simp [InfixFamily.Accepts, rowsOf, allRows?, Value.IsEntry, Value.IsScalar, Value.isList]
  have hright : InfixFamily.arithmetic.Accepts
      (rowsOf [.list [.error .divisionByZero], .list [.bool true], .list [.empty]]) := by
    simp [InfixFamily.Accepts, rowsOf, allRows?, Value.IsEntry, Value.IsScalar]
  obtain ⟨v, hv⟩ := hexists hleft hright
  obtain ⟨rows, rfl, hgrid, hplaces⟩ := hall v hv
  refine ⟨htoken, rows, hv, hgrid, ?_, ?_, ?_, ?_⟩
  · obtain ⟨x, hx, hshown⟩ := hplaces 0 (by decide) 0 (by decide)
    rw [hx, hshown.left _ rfl]
  · obtain ⟨x, hx, hshown⟩ := hplaces 0 (by decide) 1 (by decide)
    rw [hx, hshown.right rfl _ rfl]
  · obtain ⟨x, hx, hshown⟩ := hplaces 1 (by decide) 0 (by decide)
    rw [hx, hshown.nested rfl rfl rfl]
  · obtain ⟨x, hx, hshown⟩ := hplaces 2 (by decide) 1 (by decide)
    rw [hx, hshown.left _ rfl]

end GridCalc
