import GridCalc.Proofs.Operator.Entrywise
import GridCalc.Proofs.Operator.Totality

/-!
# The layout of results

An operator finds at least one row in each operand that it is given properly (`Operand.Presents`), and rows of one
width in regular ones (`Value.HasRows`). Whether it makes a single value or an array, and of which height and width,
depends on the operands only (`Layout`), not on the operation; at each place of that layout stands what the operation
makes of what the operands show there (`broadcast_eq_ok_iff`, `exists_broadcast`).
-/

namespace GridCalc

/-- An operand with its rows: a value by itself is an array of one entry, and a list that is used as an array is one
row unless all of it are rows. -/
inductive Operand.Presents : Operand → Rows → Prop
  | single (v : Value) : Presents ⟨v, false⟩ [[v]]
  | array (items : List Value) : Presents ⟨.list items, true⟩ (rowsOf items)

namespace Operand.Presents

variable {o : Operand} {rows : Rows}

theorem rows_eq (h : o.Presents rows) : o.rows = .ok rows := by
  cases h <;> rfl

theorem ne_nil (h : o.Presents rows) : rows ≠ [] := by
  cases h with
  | single v => exact List.cons_ne_nil _ _
  | array items => exact rowsOf_ne_nil items

theorem height_pos (h : o.Presents rows) {height width : Nat} (hgrid : rows.IsGrid height width) : 0 < height :=
  hgrid.height ▸ List.length_pos_of_ne_nil h.ne_nil

theorem of_not_isList {v : Value} (hlist : v.isList = false) : (Operand.ofValue v).Presents [[v]] := by
  rw [Operand.ofValue, hlist]
  exact .single v

theorem toValue (hne : rows ≠ []) : (Operand.ofValue rows.toValue).Presents rows := by
  have harray := Presents.array (rows.map .list)
  rwa [rowsOf_map_list hne] at harray

/-- A value by itself is shown everywhere. -/
theorem shownAt_eq (h : o.Presents rows) (hsingle : o.isArray = false) {height width : Nat}
    (hgrid : rows.IsGrid height width) (i j : Nat) : rows.shownAt height width i j = o.value := by
  cases h with
  | single v => rw [← hgrid.entry_eq_shownAt (hgrid.height ▸ Nat.one_pos), Rows.entry_singleton]
  | array items => cases hsingle

end Operand.Presents

/-- A plain value in which an operator finds these rows. -/
structure Value.HasRows (v : Value) (rows : Rows) (height width : Nat) : Prop where
  plain : v.Plain
  found : (Operand.ofValue v).rows = .ok rows
  pos : 0 < height
  grid : rows.IsGrid height width

namespace Value.HasRows

variable {v : Value} {rows : Rows} {height width : Nat}

theorem plain_rows (h : v.HasRows rows height width) : rows.Plain := Operand.plain_rows h.plain h.found

theorem presents (h : v.HasRows rows height width) : (Operand.ofValue v).Presents rows := by
  have hrows := h.found
  cases v with
  | list items =>
    cases hrows
    exact .array items
  | _ =>
    cases hrows
    exact .single _

/-- The rows show at each place what stands there. -/
theorem shownAt_eq (h : v.HasRows rows height width) (i j : Nat) : rows.shownAt height width i j = v.entryAt i j := by
  rw [← h.grid.entry_eq_shownAt h.pos]
  have hrows := h.found
  cases v <;> cases hrows <;> rfl

theorem plain_entryAt (h : v.HasRows rows height width) (i j : Nat) : (v.entryAt i j).Plain := by
  rw [← h.shownAt_eq, ← h.grid.entry_eq_shownAt h.pos]
  exact h.plain_rows.entry i j

end Value.HasRows

/-- A scalar, or an array with rows of one width: what broadcasting accepts. -/
def Value.IsRegular (v : Value) : Prop :=
  v.Plain ∧ ∃ rows shape, (Operand.ofValue v).rows = .ok rows ∧ rows.shape = .ok shape

theorem Value.IsRegular.exists_rows {v : Value} (hv : v.IsRegular) :
    ∃ (rows : Rows) (height width : Nat), v.HasRows rows height width := by
  obtain ⟨hplain, rows, shape, hrows, hshape⟩ := hv
  obtain ⟨width, hgrid⟩ := Rows.exists_isGrid_of_shape hshape
  refine ⟨rows, rows.length, width, hplain, hrows, List.length_pos_of_ne_nil ?_, hgrid⟩
  cases v with
  | list items =>
    cases hrows
    exact rowsOf_ne_nil items
  | empty | bool b | number n | text s | error kind =>
    cases hrows
    exact List.cons_ne_nil _ _
  | collection items | reference ref | bearer ref | classified v isArray | bare items | bareReference ref =>
    exact hplain.elim

/-- A single value, or rows of one width. -/
inductive Layout
  | single
  | grid (height width : Nat)

namespace Layout

/-- A scalar, or as many rows of scalars. -/
def Has : Layout → Value → Prop
  | single, v => v.IsScalar
  | grid height width, v => ∃ rows : Rows, v = rows.toValue ∧ rows.IsGrid height width ∧ rows.Scalar

/-- The places of a layout. A single value stands everywhere. -/
def Within : Layout → Nat → Nat → Prop
  | single, _, _ => True
  | grid height width, i, j => i < height ∧ j < width

/-- The places of the value stand in the relation with what is there. A single value stands everywhere. -/
def Shows (P : Nat → Nat → Value → Prop) : Layout → Value → Prop
  | single, v => ∀ i j, P i j v
  | grid height width, v => ∃ rows : Rows, v = rows.toValue ∧ rows.IsGrid height width ∧
    ∀ i < height, ∀ j < width, ∃ x, rows.get? i j = some x ∧ P i j x

theorem Shows.mono {P Q : Nat → Nat → Value → Prop} (hPQ : ∀ i j x, P i j x → Q i j x) {layout : Layout} {v : Value}
    (h : layout.Shows P v) : layout.Shows Q v := by
  cases layout with
  | single => exact fun i j => hPQ i j v (h i j)
  | grid height width =>
    obtain ⟨rows, hv, hgrid, hplaces⟩ := h
    refine ⟨rows, hv, hgrid, fun i hi j hj => ?_⟩
    obtain ⟨x, hx, hP⟩ := hplaces i hi j hj
    exact ⟨x, hx, hPQ i j x hP⟩

/-- Where only scalars stand, each of them can be asked for. -/
theorem Shows.of_isScalar {P : Nat → Nat → Value → Prop} (hP : ∀ i j x, P i j x → x.IsScalar) {layout : Layout}
    {v : Value} (h : layout.Shows P v) : layout.Has v ∧ ∀ i j, layout.Within i j → P i j (v.entryAt i j) := by
  cases layout with
  | single =>
    have hscalar : v.IsScalar := hP 0 0 v (h 0 0)
    exact ⟨hscalar, fun i j _ => (Value.entryAt_of_isScalar hscalar i j).symm ▸ h i j⟩
  | grid height width =>
    obtain ⟨rows, rfl, hgrid, hplaces⟩ := h
    refine ⟨⟨rows, rfl, hgrid, fun row hrow x hx => ?_⟩, fun i j ⟨hi, hj⟩ => ?_⟩
    · obtain ⟨i, hi, rfl⟩ := List.mem_iff_getElem.mp hrow
      obtain ⟨j, hj, rfl⟩ := List.mem_iff_getElem.mp hx
      obtain ⟨y, hy, hPy⟩ := hplaces i (hgrid.height ▸ hi) j (hgrid.width _ hrow ▸ hj)
      rw [Rows.get?, List.getElem?_eq_getElem hi, Option.bind_eq_bind, Option.bind_some, List.getElem?_eq_getElem hj,
        Option.some.injEq] at hy
      exact hy ▸ hP i j y hPy
    · obtain ⟨x, hx, hPx⟩ := hplaces i hi j hj
      rw [hgrid.get?_eq_entry hi hj, Option.some.injEq] at hx
      rwa [Value.entryAt_toValue (hgrid.ne_nil (Nat.zero_lt_of_lt hi)), hx]

/-- An array has one layout only. -/
theorem Has.eq_grid {layout : Layout} {rows : Rows} {height width : Nat} (h : layout.Has rows.toValue)
    (hgrid : rows.IsGrid height width) (hpos : 0 < height) : layout = grid height width := by
  cases layout with
  | single => exact h.elim
  | grid height' width' =>
    obtain ⟨rows', hrows, hgrid', -⟩ := h
    cases Rows.toValue_injective hrows
    have hheight : height' = height := hgrid'.height.symm.trans hgrid.height
    have hwidth : width' = width := by
      rw [← hgrid'.length_headD (hheight ▸ hpos), ← hgrid.length_headD hpos]
    rw [hheight, hwidth]

/-- The layout of what an operator makes of operands with these rows. -/
def join (isArray : Bool) (lh rh lw rw : Nat) : Layout :=
  if isArray then grid (max lh rh) (max lw rw) else single

theorem join_comm (a b : Bool) (lh rh lw rw : Nat) : join (a || b) lh rh lw rw = join (b || a) rh lh rw lw := by
  rw [join, join, Bool.or_comm, Nat.max_comm lh rh, Nat.max_comm lw rw]

end Layout

/-! ## Broadcasting -/

variable {op : Value → Value → Except Fault Value}

section

variable {left right : Operand} {lrows rrows : Rows} {lh lw rh rw' : Nat} (hl : left.Presents lrows)
  (hr : right.Presents rrows) (hlgrid : lrows.IsGrid lh lw) (hrgrid : rrows.IsGrid rh rw')
include hl hr hlgrid hrgrid

/-- A result shows at each place of its layout what the operation makes of what the operands show there. -/
theorem broadcast_eq_ok_iff {v : Value} : broadcast op left right = .ok v ↔
    (Layout.join (left.isArray || right.isArray) lh rh lw rw').Shows
      (fun i j x => op (lrows.shownAt lh lw i j) (rrows.shownAt rh rw' i j) = .ok x) v := by
  cases harray : left.isArray || right.isArray with
  | false =>
    obtain ⟨hla, hra⟩ := Bool.or_eq_false_iff.mp harray
    simp only [Layout.join, Layout.Shows, hl.shownAt_eq hla hlgrid, hr.shownAt_eq hra hrgrid, broadcast, harray,
      Bool.false_eq_true, if_false, forall_const]
  | true =>
    have hlh := hl.height_pos hlgrid
    have hrh := hr.height_pos hrgrid
    rw [broadcast_of_isArray harray hl.rows_eq hr.rows_eq, map_eq_ok_iff]
    simp only [zipRows_eq_ok_iff hlgrid hrgrid hlh hrh, hlgrid.entry_eq_shownAt hlh, hrgrid.entry_eq_shownAt hrh,
      Layout.join, Layout.Shows, if_true]
    constructor
    · rintro ⟨rows, ⟨hgrid, hplaces⟩, hv⟩
      exact ⟨rows, hv.symm, hgrid, hplaces⟩
    · rintro ⟨rows, hv, hgrid, hplaces⟩
      exact ⟨rows, ⟨hgrid, hplaces⟩, hv.symm⟩

/-- An operation has a result on operands if it has one on what they show at each place. -/
theorem exists_broadcast_of_shownAt
    (hop : ∀ i j, ∃ v, op (lrows.shownAt lh lw i j) (rrows.shownAt rh rw' i j) = .ok v) :
    ∃ v, broadcast op left right = .ok v := by
  cases harray : left.isArray || right.isArray with
  | false =>
    obtain ⟨hla, hra⟩ := Bool.or_eq_false_iff.mp harray
    have hvalue := hop 0 0
    rw [hl.shownAt_eq hla hlgrid, hr.shownAt_eq hra hrgrid] at hvalue
    rwa [broadcast, harray, if_neg Bool.false_ne_true]
  | true =>
    have hlh := hl.height_pos hlgrid
    have hrh := hr.height_pos hrgrid
    simp only [← hlgrid.entry_eq_shownAt hlh, ← hrgrid.entry_eq_shownAt hrh] at hop
    obtain ⟨rows, hrows⟩ := exists_zipRows hlgrid hrgrid hlh hrh fun i _ j _ => hop i j
    exact ⟨rows.toValue, by rw [broadcast_of_isArray harray hl.rows_eq hr.rows_eq, hrows]; rfl⟩

end

/-- An operation that makes a scalar of all plain entries has a result, place by place. -/
theorem exists_broadcast {l r : Value} {lrows rrows : Rows} {lh lw rh rw' : Nat} (hl : l.HasRows lrows lh lw)
    (hr : r.HasRows rrows rh rw') (hop : ∀ l r, l.Plain → r.Plain → ∃ v, op l r = .ok v)
    (hscalar : ∀ l r v, op l r = .ok v → v.IsScalar) :
    ∃ v, broadcast op (.ofValue l) (.ofValue r) = .ok v ∧ (Layout.join (l.isList || r.isList) lh rh lw rw').Has v ∧
      ∀ i j, (Layout.join (l.isList || r.isList) lh rh lw rw').Within i j →
        op (l.entryAt i j) (r.entryAt i j) = .ok (v.entryAt i j) := by
  have hplaces : ∀ i j, ∃ v, op (lrows.shownAt lh lw i j) (rrows.shownAt rh rw' i j) = .ok v := by
    intro i j
    rw [hl.shownAt_eq, hr.shownAt_eq]
    exact hop _ _ (hl.plain_entryAt i j) (hr.plain_entryAt i j)
  obtain ⟨v, hv⟩ := exists_broadcast_of_shownAt hl.presents hr.presents hl.grid hr.grid hplaces
  have hshows := (broadcast_eq_ok_iff hl.presents hr.presents hl.grid hr.grid).mp hv
  simp only [hl.shownAt_eq, hr.shownAt_eq] at hshows
  exact ⟨v, hv, hshows.of_isScalar fun _ _ _ => hscalar _ _ _⟩

end GridCalc
