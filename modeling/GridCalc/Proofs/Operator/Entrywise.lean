import GridCalc.Proofs.Operator.Entries
import GridCalc.Proofs.Shape

/-!
# Operators entry by entry

A value *spreads* over `h × w` places if it is a scalar, which is the same at all of them, or a grid of scalars with
height 1 or `h` and width 1 or `w`, whose only row or column is repeated. What stands at a place is `Value.entryAt`.

An operation that is broadcast over such values gives such a value, and at each place it gives what the operation makes
of what stands there (`spreads_of_broadcast`, `spreads_of_mapEntries`).
-/

namespace GridCalc

/-! ## Rows that spread -/

namespace Rows

variable {rows : Rows} {h w i j : Nat}

/-- A grid of height 1 or `h` and of width 1 or `w`. -/
def Spreads (rows : Rows) (h w : Nat) : Prop :=
  ∃ height width, rows.IsGrid height width ∧ (height = 1 ∨ height = h) ∧ (width = 1 ∨ width = w)

/-- All entries are scalars. -/
def Scalar (rows : Rows) : Prop := ∀ row ∈ rows, ∀ v ∈ row, Value.IsScalar v

theorem entry_singleton (v : Value) (i j : Nat) : Rows.entry [[v]] i j = v := rfl

/-- On an axis of size 1 the place does not matter. -/
theorem IsGrid.entry_placeOn {height width height' width' : Nat} (hgrid : rows.IsGrid height width) (hpos : 0 < height)
    (hh : height' = 1 → height = 1) (hw : width' = 1 → width = 1) :
    rows.entry (placeOn height' i) (placeOn width' j) = rows.entry i j := by
  have hrow : (if rows.length = 1 then 0 else placeOn height' i) = if rows.length = 1 then 0 else i := by
    rw [hgrid.height]
    unfold placeOn
    split_ifs <;> simp_all
  have hcol : (if (rows.headD []).length = 1 then 0 else placeOn width' j) =
      if (rows.headD []).length = 1 then 0 else j := by
    rw [hgrid.length_headD hpos]
    unfold placeOn
    split_ifs <;> simp_all
  unfold entry
  rw [hrow, hcol]

theorem Spreads.ne_nil (hh : 0 < h) (hrows : rows.Spreads h w) : rows ≠ [] := by
  obtain ⟨height, width, hgrid, hheight, -⟩ := hrows
  intro hnil
  have := hgrid.height
  rw [hnil, List.length_nil] at this
  omega

/-- Every place of `h × w` shows one of the entries. -/
theorem Spreads.get?_eq (hh : 0 < h) (hw : 0 < w) (hi : i < h) (hj : j < w) {height width : Nat}
    (hgrid : rows.IsGrid height width) (hheight : height = 1 ∨ height = h) (hwidth : width = 1 ∨ width = w) :
    rows.get? (placeOn height i) (placeOn width j) = some (rows.entry i j) :=
  hgrid.entry_eq (by omega) (by omega) (by omega) (by omega)

theorem Spreads.isScalar_entry (hh : 0 < h) (hw : 0 < w) (hi : i < h) (hj : j < w) (hrows : rows.Spreads h w)
    (hscalar : rows.Scalar) : (rows.entry i j).IsScalar := by
  obtain ⟨height, width, hgrid, hheight, hwidth⟩ := hrows
  obtain ⟨row, hrow, hv⟩ := mem_of_get? (Spreads.get?_eq hh hw hi hj hgrid hheight hwidth)
  exact hscalar row hrow _ hv

end Rows

/-! ## Operations on rows -/

section

variable {h w : Nat} (hh : 0 < h) (hw : 0 < w)
include hh hw

theorem spreads_of_zipRows {op : Value → Value → Except Fault Value} {left right rows : Rows}
    (hl : left.Spreads h w) (hr : right.Spreads h w) (hrows : zipRows op left right = .ok rows) :
    rows.Spreads h w ∧ ∀ i < h, ∀ j < w, op (left.entry i j) (right.entry i j) = .ok (rows.entry i j) := by
  obtain ⟨lh, lw, hlgrid, hlh, hlw⟩ := hl
  obtain ⟨rh, rw', hrgrid, hrh, hrw⟩ := hr
  obtain ⟨hgrid, hentries⟩ := (zipRows_eq_ok_iff hlgrid hrgrid (by omega) (by omega)).mp hrows
  have hheight : max lh rh = 1 ∨ max lh rh = h := by omega
  have hwidth : max lw rw' = 1 ∨ max lw rw' = w := by omega
  refine ⟨⟨_, _, hgrid, hheight, hwidth⟩, fun i hi j hj => ?_⟩
  obtain ⟨v, hv, hop⟩ := hentries (placeOn (max lh rh) i) (placeOn_lt (by omega) (by omega))
    (placeOn (max lw rw') j) (placeOn_lt (by omega) (by omega))
  rw [hlgrid.entry_placeOn (by omega) (by omega) (by omega),
    hrgrid.entry_placeOn (by omega) (by omega) (by omega)] at hop
  rw [Rows.Spreads.get?_eq hh hw hi hj hgrid hheight hwidth, Option.some.injEq] at hv
  rw [hop, hv]

theorem spreads_of_mapM_rows {op : Value → Except Fault Value} {rows images : Rows} (hrows : rows.Spreads h w)
    (himages : (rows.mapM fun row => row.mapM op) = .ok images) :
    images.Spreads h w ∧ ∀ i < h, ∀ j < w, op (rows.entry i j) = .ok (images.entry i j) := by
  obtain ⟨height, width, hgrid, hheight, hwidth⟩ := hrows
  obtain ⟨hgrid', hentries⟩ := hgrid.mapM himages
  refine ⟨⟨height, width, hgrid', hheight, hwidth⟩, fun i hi j hj => ?_⟩
  obtain ⟨v, hv, hop⟩ := hentries _ _ _ (Rows.Spreads.get?_eq hh hw hi hj hgrid hheight hwidth)
  rw [Rows.Spreads.get?_eq hh hw hi hj hgrid' hheight hwidth, Option.some.injEq] at hv
  rw [hop, hv]

end

theorem scalar_of_zipRows {op : Value → Value → Except Fault Value} {left right rows : Rows}
    (hop : ∀ l r v, op l r = .ok v → v.IsScalar) (h : zipRows op left right = .ok rows) : rows.Scalar := by
  obtain ⟨⟨lh, lw⟩, -, h⟩ := bind_eq_ok_iff.mp h
  obtain ⟨⟨rh, rw⟩, -, h⟩ := bind_eq_ok_iff.mp h
  exact forall_mem_of_mapM (P := fun row => ∀ v ∈ row, v.IsScalar) h fun _ _ _ hrow =>
    forall_mem_of_mapM (P := Value.IsScalar) hrow fun _ _ v hv => hop _ _ v hv

theorem scalar_of_mapM_rows {op : Value → Except Fault Value} {rows images : Rows}
    (hop : ∀ v x, v.IsScalar → op v = .ok x → x.IsScalar) (hrows : rows.Scalar)
    (h : (rows.mapM fun row => row.mapM op) = .ok images) : images.Scalar :=
  forall_mem_of_mapM (P := fun row => ∀ v ∈ row, Value.IsScalar v) h fun row hrow _ himage =>
    forall_mem_of_mapM (P := Value.IsScalar) himage fun v hv x hx => hop v x (hrows row hrow v hv) hx

/-! ## Values that spread -/

namespace Value

/-- What stands at a place: the entry of a list, and any other value itself. -/
def entryAt (v : Value) (i j : Nat) : Value :=
  match v with
  | .list items => (rowsOf items).entry i j
  | v => v

/-- A scalar, or a grid of scalars of height 1 or `h` and of width 1 or `w`. -/
inductive Spreads (h w : Nat) : Value → Prop
  | scalar {v : Value} : v.IsScalar → Spreads h w v
  | grid {rows : Rows} : rows.Spreads h w → rows.Scalar → Spreads h w rows.toValue

theorem isList_of_isScalar {v : Value} (hv : v.IsScalar) : v.isList = false := by
  cases v <;> first | rfl | exact hv.elim

theorem entryAt_of_isScalar {v : Value} (hv : v.IsScalar) (i j : Nat) : v.entryAt i j = v := by
  cases v <;> first | rfl | exact hv.elim

theorem entryAt_toValue {rows : Rows} (hne : rows ≠ []) (i j : Nat) : rows.toValue.entryAt i j = rows.entry i j := by
  rw [Rows.toValue, entryAt, rowsOf_map_list hne]

theorem rows_of_isScalar {v : Value} (hv : v.IsScalar) : (Operand.ofValue v).rows = .ok [[v]] := by
  simp [Operand.rows, Operand.ofValue, isList_of_isScalar hv]

theorem rows_toValue {rows : Rows} (hne : rows ≠ []) : (Operand.ofValue rows.toValue).rows = .ok rows :=
  congrArg Except.ok (rowsOf_map_list hne)

variable {h w : Nat} {v : Value}

theorem Spreads.isScalar (hv : v.Spreads h w) (hlist : v.isList = false) : v.IsScalar := by
  cases hv with
  | scalar hscalar => exact hscalar
  | grid => cases hlist

theorem Spreads.plain (hv : v.Spreads h w) : v.Plain := by
  cases hv with
  | scalar hscalar => exact plain_of_isScalar hscalar
  | grid _ hscalar => exact Rows.plain_toValue fun row hrow x hx => plain_of_isScalar (hscalar row hrow x hx)

theorem Spreads.isScalar_entryAt (hh : 0 < h) (hw : 0 < w) {i j : Nat} (hi : i < h) (hj : j < w)
    (hv : v.Spreads h w) : (v.entryAt i j).IsScalar := by
  cases hv with
  | scalar hscalar => rwa [entryAt_of_isScalar hscalar]
  | grid hrows hscalar =>
    rw [entryAt_toValue (hrows.ne_nil hh)]
    exact hrows.isScalar_entry hh hw hi hj hscalar

/-- The rows of a value that spreads show at each place what stands there. -/
theorem Spreads.rows_ofValue (hh : 0 < h) (hv : v.Spreads h w) :
    ∃ rows : Rows, (Operand.ofValue v).rows = .ok rows ∧ rows.Spreads h w ∧
      ∀ i j, rows.entry i j = v.entryAt i j := by
  cases hv with
  | scalar hscalar =>
    refine ⟨[[v]], rows_of_isScalar hscalar, ⟨1, 1, ⟨rfl, by simp⟩, Or.inl rfl, Or.inl rfl⟩, fun i j => ?_⟩
    rw [entryAt_of_isScalar hscalar, Rows.entry_singleton]
  | @grid rows hrows _ =>
    exact ⟨rows, rows_toValue (hrows.ne_nil hh), hrows, fun i j => (entryAt_toValue (hrows.ne_nil hh) i j).symm⟩

end Value

/-! ## Operations on values -/

theorem broadcast_of_isScalar {op : Value → Value → Except Fault Value} {left right : Value} (hl : left.IsScalar)
    (hr : right.IsScalar) : broadcast op (.ofValue left) (.ofValue right) = op left right := by
  simp [broadcast, Operand.ofValue, Value.isList_of_isScalar hl, Value.isList_of_isScalar hr]

/-- An operation is applied to the rows of its operands as soon as one of them is an array. -/
theorem broadcast_of_isArray {op : Value → Value → Except Fault Value} {left right : Operand} {lrows rrows : Rows}
    (harray : (left.isArray || right.isArray) = true) (hl : left.rows = .ok lrows) (hr : right.rows = .ok rrows) :
    broadcast op left right = Rows.toValue <$> zipRows op lrows rrows := by
  rw [broadcast, if_pos harray, hl, hr, ok_bind, ok_bind, map_eq_pure_bind]

theorem broadcast_of_isList {op : Value → Value → Except Fault Value} {left right : Value} {lrows rrows : Rows}
    (harray : (left.isList || right.isList) = true) (hl : (Operand.ofValue left).rows = .ok lrows)
    (hr : (Operand.ofValue right).rows = .ok rrows) :
    broadcast op (.ofValue left) (.ofValue right) = Rows.toValue <$> zipRows op lrows rrows :=
  broadcast_of_isArray harray hl hr

theorem mapEntries_of_not_isList {op : Value → Except Fault Value} {v : Value} (hv : v.isList = false) :
    mapEntries op (.ofValue v) = op v := by
  simp [mapEntries, Operand.ofValue, hv]

theorem mapEntries_of_isScalar {op : Value → Except Fault Value} {v : Value} (hv : v.IsScalar) :
    mapEntries op (.ofValue v) = op v :=
  mapEntries_of_not_isList (Value.isList_of_isScalar hv)

theorem mapEntries_list (op : Value → Except Fault Value) (items : List Value) :
    mapEntries op (.ofValue (.list items)) = Rows.toValue <$> (rowsOf items).mapM fun row => row.mapM op := by
  have hisArray : (Operand.ofValue (.list items)).isArray = true := rfl
  rw [mapEntries, if_pos hisArray, map_eq_pure_bind]
  rfl

theorem mapEntries_toValue (op : Value → Except Fault Value) {rows : Rows} (hne : rows ≠ []) :
    mapEntries op (.ofValue rows.toValue) = Rows.toValue <$> rows.mapM fun row => row.mapM op := by
  rw [Rows.toValue, mapEntries_list, rowsOf_map_list hne]

theorem isList_of_signScalar {tokens : List String} {v w : Value} (hv : v.isList = false)
    (h : signScalar tokens v = .ok w) : w.isList = false := by
  rcases eq_or_isScalar_of_signScalar h with rfl | hscalar
  · exact hv
  · exact Value.isList_of_isScalar hscalar

section

variable {h w : Nat} (hh : 0 < h) (hw : 0 < w)
include hh hw

/-- A broadcast operation yields an array iff one of its operands is one, and at each place what the operation makes of
what stands there. -/
theorem spreads_of_broadcast {op : Value → Value → Except Fault Value} {left right v : Value}
    (hop : ∀ l r v, op l r = .ok v → v.IsScalar) (hl : left.Spreads h w) (hr : right.Spreads h w)
    (hv : broadcast op (.ofValue left) (.ofValue right) = .ok v) :
    v.Spreads h w ∧ v.isList = (left.isList || right.isList) ∧
      ∀ i < h, ∀ j < w, op (left.entryAt i j) (right.entryAt i j) = .ok (v.entryAt i j) := by
  cases harray : left.isList || right.isList with
  | true =>
    obtain ⟨lrows, hlrows, hlspreads, hlentry⟩ := hl.rows_ofValue hh
    obtain ⟨rrows, hrrows, hrspreads, hrentry⟩ := hr.rows_ofValue hh
    rw [broadcast_of_isList harray hlrows hrrows] at hv
    obtain ⟨rows, hrows, rfl⟩ := map_eq_ok_iff.mp hv
    obtain ⟨hspreads, hentries⟩ := spreads_of_zipRows hh hw hlspreads hrspreads hrows
    refine ⟨.grid hspreads (scalar_of_zipRows hop hrows), rfl, fun i hi j hj => ?_⟩
    rw [← hlentry, ← hrentry, hentries i hi j hj, Value.entryAt_toValue (hspreads.ne_nil hh)]
  | false =>
    obtain ⟨hlscalar, hrscalar⟩ := Bool.or_eq_false_iff.mp harray
    have hlv := hl.isScalar hlscalar
    have hrv := hr.isScalar hrscalar
    rw [broadcast_of_isScalar hlv hrv] at hv
    have hscalar := hop _ _ _ hv
    refine ⟨.scalar hscalar, Value.isList_of_isScalar hscalar, fun i _ j _ => ?_⟩
    rw [Value.entryAt_of_isScalar hlv, Value.entryAt_of_isScalar hrv, hv, Value.entryAt_of_isScalar hscalar]

theorem spreads_of_mapEntries {op : Value → Except Fault Value} {v x : Value}
    (hop : ∀ v x, v.IsScalar → op v = .ok x → x.IsScalar) (hv : v.Spreads h w)
    (hx : mapEntries op (.ofValue v) = .ok x) :
    x.Spreads h w ∧ x.isList = v.isList ∧ ∀ i < h, ∀ j < w, op (v.entryAt i j) = .ok (x.entryAt i j) := by
  cases hv with
  | scalar hscalar =>
    rw [mapEntries_of_isScalar hscalar] at hx
    have hxscalar := hop _ _ hscalar hx
    refine ⟨.scalar hxscalar, ?_, fun i _ j _ => ?_⟩
    · rw [Value.isList_of_isScalar hxscalar, Value.isList_of_isScalar hscalar]
    · rw [Value.entryAt_of_isScalar hscalar, hx, Value.entryAt_of_isScalar hxscalar]
  | @grid rows hrows hscalar =>
    have hne := hrows.ne_nil hh
    rw [mapEntries_toValue op hne] at hx
    obtain ⟨images, himages, rfl⟩ := map_eq_ok_iff.mp hx
    obtain ⟨hspreads, hentries⟩ := spreads_of_mapM_rows hh hw hrows himages
    refine ⟨.grid hspreads (scalar_of_mapM_rows hop hscalar himages), rfl, fun i hi j hj => ?_⟩
    rw [Value.entryAt_toValue hne, hentries i hi j hj, Value.entryAt_toValue (hspreads.ne_nil hh)]

/-! ## Calls of the families -/

namespace Call

theorem spreads_of_between {family : InfixFamily} {token : String} {left right v : Value} (hl : left.Spreads h w)
    (hr : right.Spreads h w) (hv : (between family (.ofValue left) token (.ofValue right)).apply = .ok v) :
    v.Spreads h w ∧ v.isList = (left.isList || right.isList) ∧ ∀ i < h, ∀ j < w,
      (between family (.ofValue (left.entryAt i j)) token (.ofValue (right.entryAt i j))).apply =
        .ok (v.entryAt i j) := by
  by_cases hknows : family.Knows token
  · rw [apply, InfixFamily.apply_of_knows hknows] at hv
    obtain ⟨hspreads, hlist, hentries⟩ :=
      spreads_of_broadcast hh hw (fun _ _ _ => InfixFamily.isScalar_of_entries) hl hr hv
    refine ⟨hspreads, hlist, fun i hi j hj => ?_⟩
    rw [apply, InfixFamily.apply_of_knows hknows, broadcast_of_isScalar (hl.isScalar_entryAt hh hw hi hj)
      (hr.isScalar_entryAt hh hw hi hj)]
    exact hentries i hi j hj
  · rw [apply, InfixFamily.apply_of_not_knows hknows] at hv
    cases hv

theorem spreads_of_signs {tokens : List String} {v x : Value} (hv : v.Spreads h w)
    (hx : (signs tokens (.ofValue v)).apply = .ok x) :
    x.Spreads h w ∧ x.isList = v.isList ∧ ∀ i < h, ∀ j < w,
      (signs tokens (.ofValue (v.entryAt i j))).apply = .ok (x.entryAt i j) := by
  simp only [apply, GridCalc.signs] at hx ⊢
  by_cases hsigns : tokens.all isSign
  · rw [if_pos hsigns] at hx
    have hop : ∀ v x, v.IsScalar → signScalar tokens v = .ok x → x.IsScalar := by
      intro v x hscalar hsign
      rcases eq_or_isScalar_of_signScalar hsign with rfl | hx
      · exact hscalar
      · exact hx
    obtain ⟨hspreads, hlist, hentries⟩ := spreads_of_mapEntries hh hw hop hv hx
    refine ⟨hspreads, hlist, fun i hi j hj => ?_⟩
    rw [if_pos hsigns, mapEntries_of_isScalar (hv.isScalar_entryAt hh hw hi hj)]
    exact hentries i hi j hj
  · rw [if_neg hsigns] at hx
    cases hx

theorem spreads_of_percent {token : String} {v x : Value} (hv : v.Spreads h w)
    (hx : (percent (.ofValue v) token).apply = .ok x) :
    x.Spreads h w ∧ x.isList = v.isList ∧ ∀ i < h, ∀ j < w,
      (percent (.ofValue (v.entryAt i j)) token).apply = .ok (x.entryAt i j) := by
  simp only [apply, GridCalc.percent] at hx ⊢
  by_cases htoken : token = "%"
  · rw [if_pos htoken] at hx
    obtain ⟨hspreads, hlist, hentries⟩ :=
      spreads_of_mapEntries hh hw (fun _ _ _ => isScalar_of_onNumber) hv hx
    refine ⟨hspreads, hlist, fun i hi j hj => ?_⟩
    rw [if_pos htoken, mapEntries_of_isScalar (hv.isScalar_entryAt hh hw hi hj)]
    exact hentries i hi j hj
  · rw [if_neg htoken] at hx
    cases hx

end Call

end

end GridCalc
