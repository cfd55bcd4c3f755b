import GridCalc.Proofs.Formula.Standard
import GridCalc.Proofs.Operator.Entrywise
import GridCalc.Proofs.Operator.Totality

/-!
# Collections as operands

An operator takes a collection for the list of its values. As long as one of the values is no array, that list is one
row: each value makes an entry of its own, and an array makes `#VALUE!`. A collection of arrays only is taken for the
rows of one array instead (`applyInfix_collection`), which is not what a single operand is
(`applyInfix_collection_ne`).
-/

namespace GridCalc

theorem Rows.isGrid_singleton (row : List Value) : Rows.IsGrid [row] 1 row.length := ⟨rfl, by simp⟩

/-! ## Rows against a single value -/

/-- A traversal of all places of a list is the traversal of the list. -/
theorem mapM_range_length {α β : Type} {g : α → Except Fault β} : ∀ {items : List α} {f : Nat → Except Fault β},
    (∀ (i : Nat) (hi : i < items.length), f i = g items[i]) → (List.range items.length).mapM f = items.mapM g
  | [], _, _ => rfl
  | a :: rest, f, h => by
    have hrest : (List.range rest.length).mapM (f ∘ Nat.succ) = rest.mapM g :=
      mapM_range_length fun i hi => h (i + 1) (Nat.succ_lt_succ hi)
    rw [List.length_cons, List.range_succ_eq_map, List.mapM_cons, List.mapM_cons, h 0 (Nat.zero_lt_succ _),
      List.mapM_map]
    show (g a >>= fun b => (List.range rest.length).mapM (f ∘ Nat.succ) >>= fun bs => pure (b :: bs)) = _
    rw [hrest]

variable {op : Value → Value → Except Fault Value} {rows : Rows} {height width : Nat}

/-- A single value is repeated along a grid. -/
theorem zipRows_singleton (hgrid : rows.IsGrid height width) (hh : 0 < height) (hw : 0 < width) (v : Value) :
    zipRows op rows [[v]] = rows.mapM fun row => row.mapM fun x => op x v := by
  have hheight : max height 1 = rows.length := by rw [hgrid.height]; omega
  simp only [zipRows, hgrid.shape hh, (Rows.isGrid_singleton [v]).shape Nat.one_pos, ok_bind, List.length_singleton,
    Rows.entry_singleton, hheight]
  refine mapM_range_length fun i hi => ?_
  have hlength : rows[i].length = width := hgrid.width _ (List.getElem_mem hi)
  have hwidth : max width 1 = rows[i].length := by omega
  rw [hwidth]
  refine mapM_range_length fun j hj => ?_
  have hentry := hgrid.get?_eq_entry (hgrid.height ▸ hi) (hlength ▸ hj)
  have hget : rows.get? i j = some rows[i][j] := by simp [Rows.get?, hi, hj]
  rw [hget, Option.some.injEq] at hentry
  rw [← hentry]

/-- A grid without columns shows `#N/A` beside a single value. -/
theorem zipRows_singleton_of_empty (hgrid : rows.IsGrid height 0) (hh : 0 < height) {v image : Value}
    (hop : op (.error .notAvailable) v = .ok image) :
    zipRows op rows [[v]] = .ok (rows.map fun _ => [image]) := by
  have hheight : max height 1 = rows.length := by rw [hgrid.height]; omega
  have hentry : ∀ i j, rows.entry i j = .error .notAvailable := by
    intro i j
    rcases rows.entry_mem i j with ⟨row, hrow, hmem⟩ | hna
    · rw [List.eq_nil_of_length_eq_zero (hgrid.width row hrow)] at hmem
      cases hmem
    · exact hna
  have hrow : (List.range rows.length).mapM (fun _ => (Except.ok [image] : Except Fault (List Value))) =
      rows.mapM fun _ => .ok [image] :=
    mapM_range_length fun _ _ => rfl
  simp only [zipRows, hgrid.shape hh, (Rows.isGrid_singleton [v]).shape Nat.one_pos, ok_bind, List.length_singleton,
    Rows.entry_singleton, hheight, hentry]
  show (List.range rows.length).mapM (fun _ => [0].mapM fun _ => op (.error .notAvailable) v) = _
  rw [hop]
  exact hrow.trans List.mapM_pure

/-! ## Collections -/

namespace Engine

open Run

/-- What an operator makes of a value of a collection: `#VALUE!` of an array, and of any other value what it makes of
the value by itself. -/
structure IsEntry (engine : Engine) (token : String) (s v x : Value) : Prop where
  array : v.isList = true → x = .error .value
  single : v.isList = false → outcome (engine.applyInfix v token s) = .ok x

variable {lookup : Lookup} {token : String} {family : InfixFamily} {s : Value}

/-- The operator of a known token is one operation, broadcast over what is read of the operands. -/
theorem outcome_applyInfix_of_resolved (htoken : infixFamily token = .ok family) {v w x y : Value}
    (hx : (standard lookup).resolved v = .ok x) (hy : (standard lookup).resolved w = .ok y) :
    outcome ((standard lookup).applyInfix v token w) =
      broadcast (family.entries token) (.ofValue x) (.ofValue y) := by
  rw [outcome_applyInfix, hx, hy, htoken]
  exact InfixFamily.apply_of_knows (InfixFamily.knows_of_infixFamily htoken) _ _

section

variable (htoken : infixFamily token = .ok family) (hs : s.IsProper) (hsw : s.writable = true)
include htoken hs

theorem outcome_applyInfix_collection (vs : List Value) :
    outcome ((standard lookup).applyInfix (.collection vs) token s) =
      Rows.toValue <$> zipRows (family.entries token) (rowsOf vs) [[s]] := by
  have hplain := Value.plain_of_isScalar hs.1
  have hrows : (Operand.ofValue (.list vs)).rows = .ok (rowsOf vs) := rfl
  rw [outcome_applyInfix_of_resolved htoken (x := .list vs) rfl (resolved_of_plain _ hplain),
    broadcast_of_isList rfl hrows (Value.rows_of_isScalar hs.1)]

include hsw

/-- Every value of a collection makes an entry. -/
theorem exists_entry (lookup : Lookup) {v : Value} (hv : v.Plain ∧ v.writable = true) :
    ∃ x, family.entries token v s = .ok x ∧ IsEntry (standard lookup) token s v x := by
  have hknows := InfixFamily.knows_of_infixFamily htoken
  have hplain := Value.plain_of_isScalar hs.1
  obtain ⟨x, hx⟩ := InfixFamily.exists_entries hknows hv.1.isEntry hplain.isEntry fun _ => ⟨fun _ => hv.2, fun _ => hsw⟩
  refine ⟨x, hx, fun hlist => ?_, fun hlist => ?_⟩
  · rw [InfixFamily.entries_of_isList hknows (Value.isError_of_isList hlist) hs.2 (by simp [hlist])] at hx
    exact (Except.ok.inj hx).symm
  · rw [outcome_applyInfix_of_resolved htoken (resolved_of_plain _ hv.1) (resolved_of_plain _ hplain),
      broadcast_of_isScalar (Value.isScalar_of_plain hv.1 hlist) hs.1, hx]

theorem exists_entryRow (lookup : Lookup) {vs : List Value} (hvs : ∀ v ∈ vs, v.Plain ∧ v.writable = true) :
    ∃ xs, (vs.mapM fun v => family.entries token v s) = .ok xs ∧
      List.Forall₂ (IsEntry (standard lookup) token s) vs xs :=
  exists_mapM_eq_ok fun v hv => exists_entry htoken hs hsw lookup (hvs v hv)

/-- A collection with a value that is no array is one row. -/
theorem applyInfix_collection_of_single {vs : List Value} (hvs : ∀ v ∈ vs, v.Plain ∧ v.writable = true)
    {v : Value} (hmem : v ∈ vs) (hv : v.isList = false) :
    ∃ xs, outcome ((standard lookup).applyInfix (.collection vs) token s) = .ok (Rows.toValue [xs]) ∧
      List.Forall₂ (IsEntry (standard lookup) token s) vs xs := by
  obtain ⟨xs, hxs, hentries⟩ := exists_entryRow htoken hs hsw lookup hvs
  refine ⟨xs, ?_, hentries⟩
  rw [outcome_applyInfix_collection htoken hs, rowsOf_of_not_isList hmem hv,
    zipRows_singleton (Rows.isGrid_singleton vs) Nat.one_pos (List.length_pos_of_mem hmem)]
  simp [hxs]

/-- A collection of arrays of one width is one array. -/
theorem applyInfix_collection_of_arrays {rows : Rows} {width : Nat} (hne : rows ≠ [])
    (hrows : ∀ v ∈ rows.map Value.list, v.Plain ∧ v.writable = true) (hw : 0 < width)
    (hwidth : ∀ row ∈ rows, row.length = width) :
    ∃ images : Rows, outcome ((standard lookup).applyInfix (.collection (rows.map .list)) token s) =
      .ok images.toValue ∧ List.Forall₂ (List.Forall₂ (IsEntry (standard lookup) token s)) rows images := by
  have hrow : ∀ row ∈ rows, ∃ xs, (row.mapM fun v => family.entries token v s) = .ok xs ∧
      List.Forall₂ (IsEntry (standard lookup) token s) row xs := by
    intro row hrow
    obtain ⟨hplain, hwritable⟩ := hrows _ (List.mem_map_of_mem hrow)
    rw [Value.Plain, Value.plainAll_iff] at hplain
    rw [Value.writable, Value.writableAll_iff] at hwritable
    exact exists_entryRow htoken hs hsw lookup fun v hv => ⟨hplain v hv, hwritable v hv⟩
  obtain ⟨images, himages, hentries⟩ := exists_mapM_eq_ok hrow
  refine ⟨images, ?_, hentries⟩
  rw [outcome_applyInfix_collection htoken hs, rowsOf_map_list hne,
    zipRows_singleton ⟨rfl, hwidth⟩ (List.length_pos_of_ne_nil hne) hw, himages]
  rfl

end

/-- An operator makes one row of a collection in which some value is no array: each value makes its entry, an array
`#VALUE!`. Arrays only are taken for the rows of one array: if they are of one width, each of their items makes an
entry, and if they are all empty, each of them makes `#N/A`; arrays of several widths are a fault. -/
theorem applyInfix_collection (lookup : Lookup) {vs : List Value} (hne : vs ≠ [])
    (hvs : ∀ v ∈ vs, v.Plain ∧ v.writable = true) (hs : s.IsProper) (hsw : s.writable = true)
    (htoken : infixFamily token = .ok family) :
    ((∃ v ∈ vs, v.isList = false) → ∃ xs,
      outcome ((standard lookup).applyInfix (.collection vs) token s) = .ok (Rows.toValue [xs]) ∧
        List.Forall₂ (IsEntry (standard lookup) token s) vs xs) ∧
    ∀ rows : Rows, vs = rows.map .list →
      (∀ width, 0 < width → (∀ row ∈ rows, row.length = width) → ∃ images : Rows,
        outcome ((standard lookup).applyInfix (.collection vs) token s) = .ok images.toValue ∧
          List.Forall₂ (List.Forall₂ (IsEntry (standard lookup) token s)) rows images) ∧
      ((∀ row ∈ rows, row.length = 0) →
        outcome ((standard lookup).applyInfix (.collection vs) token s) =
          .ok (Rows.toValue (rows.map fun _ => [.error .notAvailable]))) ∧
      ((¬∃ width, ∀ row ∈ rows, row.length = width) →
        outcome ((standard lookup).applyInfix (.collection vs) token s) =
          .error (.invalid (.irregularRows (rows.map List.length)))) := by
  refine ⟨fun ⟨v, hmem, hv⟩ => applyInfix_collection_of_single htoken hs hsw hvs hmem hv, ?_⟩
  rintro rows rfl
  have hrows : rows ≠ [] := fun hnil => hne (by rw [hnil]; rfl)
  refine ⟨fun width hw hwidth => applyInfix_collection_of_arrays htoken hs hsw hrows hvs hw hwidth, fun hempty => ?_,
    fun hirregular => ?_⟩
  · have hna : family.entries token (.error .notAvailable) s = .ok (.error .notAvailable) :=
      InfixFamily.entries_of_error_left (InfixFamily.knows_of_infixFamily htoken) _ _
    rw [outcome_applyInfix_collection htoken hs, rowsOf_map_list hrows,
      zipRows_singleton_of_empty ⟨rfl, hempty⟩ (List.length_pos_of_ne_nil hrows) hna]
    rfl
  · rw [outcome_applyInfix_collection htoken hs, rowsOf_map_list hrows, zipRows, Rows.shape_of_irregular hirregular]
    rfl

/-- The array `{1,2}`, the number 3 and an error, plus 1. -/
theorem applyInfix_collection_mixed :
    (∃ v ∈ [Value.list [.int 1, .int 2], .int 3, .error .num], v.isList = false) ∧
    ∃ xs, outcome ((standard fun _ => .ok .empty).applyInfix
        (.collection [.list [.int 1, .int 2], .int 3, .error .num]) "+" (.int 1)) = .ok (Rows.toValue [xs]) ∧
      xs = [.error .value, .int 4, .error .num] := by
  have hsingle : ∃ v ∈ [Value.list [.int 1, .int 2], .int 3, .error .num], v.isList = false :=
    ⟨.int 3, by simp, rfl⟩
  have hvs : ∀ v ∈ [Value.list [.int 1, .int 2], .int 3, .error .num], v.Plain ∧ v.writable = true := by
    simp only [List.forall_mem_cons]
    exact ⟨⟨⟨trivial, trivial, trivial⟩, by decide +kernel⟩, ⟨trivial, by decide +kernel⟩, ⟨trivial, rfl⟩, by simp⟩
  obtain ⟨xs, hxs, hentries⟩ := (applyInfix_collection (fun _ => .ok .empty) (by simp) hvs
    (s := .int 1) ⟨trivial, rfl⟩ (by decide +kernel) (show infixFamily "+" = .ok .arithmetic from rfl)).1 hsingle
  refine ⟨hsingle, xs, hxs, ?_⟩
  have hvalue : outcome ((standard fun _ => .ok .empty).applyInfix
      (.collection [.list [.int 1, .int 2], .int 3, .error .num]) "+" (.int 1)) =
        .ok (Rows.toValue [[.error .value, .int 4, .error .num]]) := by rfl
  rw [hvalue] at hxs
  cases hxs
  rfl

/-- A collection of the array `{1,2}` alone is taken for that array, not for a row of one entry. -/
theorem applyInfix_collection_ne :
    outcome ((standard fun _ => .ok .empty).applyInfix (.collection [.list [.int 1, .int 2]]) "+" (.int 1)) =
      .ok (Rows.toValue [[.int 2, .int 3]]) ∧
    ¬∃ xs, outcome ((standard fun _ => .ok .empty).applyInfix (.collection [.list [.int 1, .int 2]]) "+" (.int 1)) =
      .ok (Rows.toValue [xs]) ∧ xs.length = 1 := by
  have hvalue :
      outcome ((standard fun _ => .ok .empty).applyInfix (.collection [.list [.int 1, .int 2]]) "+" (.int 1)) =
        .ok (Rows.toValue [[.int 2, .int 3]]) := by rfl
  refine ⟨hvalue, ?_⟩
  rintro ⟨xs, hxs, hlength⟩
  rw [hvalue] at hxs
  cases hxs
  cases hlength

end Engine

end GridCalc
