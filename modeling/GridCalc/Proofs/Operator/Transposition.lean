import GridCalc.Proofs.Operator.Layout

/-!
# Rows and columns alike

Transposing an array exchanges its rows and its columns (`Rows.IsGrid.get?_transpose`), and what it shows at a place is
what the array showed at the place across the diagonal, also where a row or a column is repeated and where `#N/A` stands
further out (`Rows.IsGrid.entry_transpose`). So operators yield of transposed operands the transpose of what they yield
of the operands (`YieldsTranspose`).

Main statement: `operators_transpose`.
-/

namespace GridCalc

/-! ## Transposed rows -/

namespace Rows

variable {rows : Rows} {height width : Nat}

/-- The columns as rows. -/
def transpose (rows : Rows) : Rows :=
  (List.range (rows.headD []).length).map fun j => rows.map fun row => row[j]?.getD .empty

theorem IsGrid.transpose (h : rows.IsGrid height width) (hh : 0 < height) : rows.transpose.IsGrid width height := by
  refine ⟨by rw [Rows.transpose, List.length_map, List.length_range, h.length_headD hh], fun row hrow => ?_⟩
  obtain ⟨j, -, rfl⟩ := List.mem_map.mp hrow
  rw [List.length_map, h.height]

theorem IsGrid.get?_transpose (h : rows.IsGrid height width) (hh : 0 < height) (i j : Nat) :
    rows.transpose.get? j i = rows.get? i j := by
  by_cases hin : i < height ∧ j < width
  · obtain ⟨v, hv⟩ := h.exists_get? hin.1 hin.2
    obtain ⟨row, hrow, hcol⟩ := Option.bind_eq_some_iff.mp hv
    rw [hv, Rows.transpose, h.length_headD hh]
    simp [get?, List.getElem?_range hin.2, hrow, hcol]
  · have hout : height ≤ i ∨ width ≤ j := by omega
    rw [h.get?_eq_none hout, (h.transpose hh).get?_eq_none hout.symm]

/-- What stands further out is `#N/A` on both axes. -/
theorem IsGrid.entry_transpose (h : rows.IsGrid height width) (hh : 0 < height) (hw : 0 < width) (i j : Nat) :
    rows.transpose.entry j i = rows.entry i j := by
  rw [(h.transpose hh).entry_eq_shownAt hw, h.entry_eq_shownAt hh, shownAt, shownAt, h.get?_transpose hh]

theorem IsGrid.transpose_transpose (h : rows.IsGrid height width) (hh : 0 < height) (hw : 0 < width) :
    rows.transpose.transpose = rows := by
  refine ((h.transpose hh).transpose hw).ext h fun i _ j _ => ?_
  rw [(h.transpose hh).get?_transpose hw, h.get?_transpose hh]

end Rows

theorem zipRows_transpose {op : Value → Value → Except Fault Value} {left right rows : Rows} {lh lw rh rw' : Nat}
    (hl : left.IsGrid lh lw) (hr : right.IsGrid rh rw') (hlh : 0 < lh) (hlw : 0 < lw) (hrh : 0 < rh) (hrw : 0 < rw')
    (h : zipRows op left right = .ok rows) :
    rows.IsGrid (max lh rh) (max lw rw') ∧ zipRows op left.transpose right.transpose = .ok rows.transpose := by
  obtain ⟨hgrid, hplaces⟩ := (zipRows_eq_ok_iff hl hr hlh hrh).mp h
  have hh : 0 < max lh rh := by omega
  refine ⟨hgrid, (zipRows_eq_ok_iff (hl.transpose hlh) (hr.transpose hrh) hlw hrw).mpr ⟨hgrid.transpose hh, ?_⟩⟩
  intro j hj i hi
  obtain ⟨v, hv, hop⟩ := hplaces i hi j hj
  refine ⟨v, (hgrid.get?_transpose hh i j).trans hv, ?_⟩
  rw [hl.entry_transpose hlh hlw, hr.entry_transpose hrh hrw, hop]

theorem mapM_transpose {op : Value → Except Fault Value} {rows images : Rows} {height width : Nat}
    (hgrid : rows.IsGrid height width) (hh : 0 < height) (h : (rows.mapM fun row => row.mapM op) = .ok images) :
    images.IsGrid height width ∧ (rows.transpose.mapM fun row => row.mapM op) = .ok images.transpose := by
  obtain ⟨himages, hentries⟩ := hgrid.mapM_eq_ok_iff.mp h
  refine ⟨himages, (hgrid.transpose hh).mapM_eq_ok_iff.mpr ⟨himages.transpose hh, fun j i v hv => ?_⟩⟩
  rw [hgrid.get?_transpose hh] at hv
  obtain ⟨v', hv', hop⟩ := hentries i j v hv
  exact ⟨v', (himages.get?_transpose hh i j).trans hv', hop⟩

/-! ## Transposed values -/

namespace Value

/-- An array with rows and columns exchanged; any other value as it is. -/
def transpose : Value → Value
  | .list items => (rowsOf items).transpose.toValue
  | v => v

/-- No array, or rows of one width with at least one entry. -/
inductive IsBlock : Value → Prop
  | single {v : Value} : v.isList = false → IsBlock v
  | grid {rows : Rows} {height width : Nat} : rows.IsGrid height width → 0 < height → 0 < width → IsBlock rows.toValue

theorem transpose_of_not_isList {v : Value} (h : v.isList = false) : v.transpose = v := by
  cases v <;> first | rfl | cases h

theorem transpose_toValue {rows : Rows} {height width : Nat} (h : rows.IsGrid height width) (hh : 0 < height) :
    rows.toValue.transpose = rows.transpose.toValue := by
  rw [Rows.toValue, transpose, rowsOf_map_list (h.ne_nil hh)]

theorem isList_transpose (v : Value) : v.transpose.isList = v.isList := by cases v <;> rfl

namespace IsBlock

variable {v : Value}

theorem transpose (hv : v.IsBlock) : v.transpose.IsBlock := by
  cases hv with
  | single hlist => exact .single (v.isList_transpose.trans hlist)
  | grid hgrid hh hw =>
    rw [transpose_toValue hgrid hh]
    exact .grid (hgrid.transpose hh) hw hh

theorem transpose_transpose (hv : v.IsBlock) : v.transpose.transpose = v := by
  cases hv with
  | single hlist => rw [transpose_of_not_isList hlist, transpose_of_not_isList hlist]
  | grid hgrid hh hw =>
    rw [transpose_toValue hgrid hh, transpose_toValue (hgrid.transpose hh) hw, hgrid.transpose_transpose hh hw]

/-- The rows that an operator finds in a block, and in the transposed block. -/
theorem exists_rows (hv : v.IsBlock) : ∃ (rows : Rows) (height width : Nat), (Operand.ofValue v).Presents rows ∧
    (Operand.ofValue v.transpose).Presents rows.transpose ∧ rows.IsGrid height width ∧ 0 < height ∧ 0 < width := by
  cases hv with
  | single hlist =>
    refine ⟨[[v]], 1, 1, .of_not_isList hlist, ?_, ⟨rfl, by simp⟩, Nat.one_pos, Nat.one_pos⟩
    rw [transpose_of_not_isList hlist]
    exact .of_not_isList hlist
  | @grid rows height width hgrid hh hw =>
    refine ⟨rows, height, width, .toValue (hgrid.ne_nil hh), ?_, hgrid, hh, hw⟩
    rw [transpose_toValue hgrid hh]
    exact .toValue ((hgrid.transpose hh).ne_nil hw)

end IsBlock

end Value

/-! ## Operators -/

/-- The second computation yields the transpose of what the first one yields, and nothing where the first yields
nothing. -/
def YieldsTranspose (x y : Except Fault Value) : Prop := ∀ v, y = .ok v ↔ ∃ w, x = .ok w ∧ v = w.transpose

theorem yieldsTranspose_error (fault fault' : Fault) : YieldsTranspose (.error fault) (.error fault') :=
  fun v => ⟨fun h => (by cases h), fun ⟨_, h, _⟩ => (by cases h)⟩

/-- It is enough to know what comes of a result, on either side. -/
theorem YieldsTranspose.of_ok {x y : Except Fault Value} (hxy : ∀ v, x = .ok v → v.IsBlock ∧ y = .ok v.transpose)
    (hyx : ∀ v, y = .ok v → v.IsBlock ∧ x = .ok v.transpose) : YieldsTranspose x y := by
  refine fun v => ⟨fun hv => ?_, fun ⟨w, hw, hvw⟩ => ?_⟩
  · obtain ⟨hblock, hx⟩ := hyx v hv
    exact ⟨v.transpose, hx, hblock.transpose_transpose.symm⟩
  · rw [hvw]
    exact (hxy w hw).2

section

variable {l r v : Value} (hl : l.IsBlock) (hr : r.IsBlock)

include hl hr in
theorem broadcast_transpose {op : Value → Value → Except Fault Value}
    (hop : ∀ x y v, op x y = .ok v → v.isList = false) (h : broadcast op (.ofValue l) (.ofValue r) = .ok v) :
    v.IsBlock ∧ broadcast op (.ofValue l.transpose) (.ofValue r.transpose) = .ok v.transpose := by
  cases harray : l.isList || r.isList with
  | false =>
    obtain ⟨hll, hrl⟩ := Bool.or_eq_false_iff.mp harray
    have hsingle : broadcast op (.ofValue l) (.ofValue r) = op l r := by simp [broadcast, Operand.ofValue, harray]
    have hv : v.isList = false := hop l r v (hsingle.symm.trans h)
    rw [Value.transpose_of_not_isList hll, Value.transpose_of_not_isList hrl, Value.transpose_of_not_isList hv]
    exact ⟨.single hv, h⟩
  | true =>
    obtain ⟨lrows, lh, lw, hlrows, hltrans, hlgrid, hlh, hlw⟩ := hl.exists_rows
    obtain ⟨rrows, rh, rw', hrrows, hrtrans, hrgrid, hrh, hrw⟩ := hr.exists_rows
    rw [broadcast_of_isList harray hlrows.rows_eq hrrows.rows_eq] at h
    obtain ⟨rows, hrows, rfl⟩ := map_eq_ok_iff.mp h
    obtain ⟨hgrid, htrans⟩ := zipRows_transpose hlgrid hrgrid hlh hlw hrh hrw hrows
    have hh : 0 < max lh rh := by omega
    have hw : 0 < max lw rw' := by omega
    refine ⟨.grid hgrid hh hw, ?_⟩
    rw [broadcast_of_isList (by rwa [l.isList_transpose, r.isList_transpose]) hltrans.rows_eq hrtrans.rows_eq, htrans,
      Value.transpose_toValue hgrid hh]
    rfl

include hl hr in
/-- An operation that has a result on all values has one on blocks. -/
theorem exists_broadcast_blocks {op : Value → Value → Except Fault Value} (hop : ∀ x y, ∃ v, op x y = .ok v) :
    ∃ v, broadcast op (.ofValue l) (.ofValue r) = .ok v := by
  obtain ⟨lrows, lh, lw, hlrows, -, hlgrid, -⟩ := hl.exists_rows
  obtain ⟨rrows, rh, rw', hrrows, -, hrgrid, -⟩ := hr.exists_rows
  exact exists_broadcast_of_shownAt hlrows hrrows hlgrid hrgrid fun _ _ => hop _ _

include hl in
theorem mapEntries_transpose {op : Value → Except Fault Value}
    (hop : ∀ x v, x.isList = false → op x = .ok v → v.isList = false) (h : mapEntries op (.ofValue l) = .ok v) :
    v.IsBlock ∧ mapEntries op (.ofValue l.transpose) = .ok v.transpose := by
  cases hl with
  | single hlist =>
    have hv : v.isList = false := hop l v hlist (by rwa [mapEntries_of_not_isList hlist] at h)
    rw [Value.transpose_of_not_isList hlist, Value.transpose_of_not_isList hv]
    exact ⟨.single hv, h⟩
  | @grid rows height width hgrid hh hw =>
    rw [mapEntries_toValue op (hgrid.ne_nil hh)] at h
    obtain ⟨images, himages, rfl⟩ := map_eq_ok_iff.mp h
    obtain ⟨hgrid', htrans⟩ := mapM_transpose hgrid hh himages
    refine ⟨.grid hgrid' hh hw, ?_⟩
    rw [Value.transpose_toValue hgrid hh, Value.transpose_toValue hgrid' hh,
      mapEntries_toValue op ((hgrid.transpose hh).ne_nil hw), htrans]
    rfl

include hl hr in
theorem yieldsTranspose_broadcast {op : Value → Value → Except Fault Value}
    (hop : ∀ x y v, op x y = .ok v → v.isList = false) :
    YieldsTranspose (broadcast op (.ofValue l) (.ofValue r))
      (broadcast op (.ofValue l.transpose) (.ofValue r.transpose)) := by
  refine .of_ok (fun v hv => broadcast_transpose hl hr hop hv) fun v hv => ?_
  have hback := broadcast_transpose hl.transpose hr.transpose hop hv
  rwa [hl.transpose_transpose, hr.transpose_transpose] at hback

include hl in
theorem yieldsTranspose_mapEntries {op : Value → Except Fault Value}
    (hop : ∀ x v, x.isList = false → op x = .ok v → v.isList = false) :
    YieldsTranspose (mapEntries op (.ofValue l)) (mapEntries op (.ofValue l.transpose)) := by
  refine .of_ok (fun v hv => mapEntries_transpose hl hop hv) fun v hv => ?_
  have hback := mapEntries_transpose hl.transpose hop hv
  rwa [hl.transpose_transpose] at hback

end

/-- On values that are no arrays or have rows of one width with at least one entry, operators do not tell rows from
columns: of transposed operands they yield the transpose of what they yield of the operands. This is so for every
operation on single values that is broadcast, which yields something if the operation always does, and so for all
families. -/
theorem operators_transpose {l r : Value} (hl : l.IsBlock) (hr : r.IsBlock) :
    (∀ op : Value → Value → Except Fault Value, (∀ x y v, op x y = .ok v → v.isList = false) →
      YieldsTranspose (broadcast op (.ofValue l) (.ofValue r))
        (broadcast op (.ofValue l.transpose) (.ofValue r.transpose)) ∧
      ((∀ x y, ∃ v, op x y = .ok v) → ∃ v, broadcast op (.ofValue l) (.ofValue r) = .ok v)) ∧
    (∀ (family : InfixFamily) (token : String),
      YieldsTranspose (family.apply (.ofValue l) token (.ofValue r))
        (family.apply (.ofValue l.transpose) token (.ofValue r.transpose))) ∧
    (∀ tokens : List String, YieldsTranspose (signs tokens (.ofValue l)) (signs tokens (.ofValue l.transpose))) ∧
    ∀ token : String, YieldsTranspose (percent (.ofValue l) token) (percent (.ofValue l.transpose) token) := by
  refine ⟨fun op hop => ⟨yieldsTranspose_broadcast hl hr hop, exists_broadcast_blocks hl hr⟩, fun family token => ?_,
    fun tokens => ?_, fun token => ?_⟩
  · by_cases hknows : family.Knows token
    · rw [InfixFamily.apply_of_knows hknows, InfixFamily.apply_of_knows hknows]
      exact yieldsTranspose_broadcast hl hr fun _ _ _ hv =>
        Value.isList_of_isScalar (InfixFamily.isScalar_of_entries hv)
    · rw [InfixFamily.apply_of_not_knows hknows, InfixFamily.apply_of_not_knows hknows]
      exact yieldsTranspose_error _ _
  · unfold signs
    split
    · exact yieldsTranspose_mapEntries hl fun _ _ => isList_of_signScalar
    · exact yieldsTranspose_error _ _
  · unfold percent
    split
    · exact yieldsTranspose_mapEntries hl fun _ _ _ hv => Value.isList_of_isScalar (isScalar_of_onNumber hv)
    · exact yieldsTranspose_error _ _

/-- Two rows of two entries, and a column of three texts that reaches further down. -/
theorem operators_transpose_incompatible :
    (Rows.toValue [[.text "a", .bool true], [.error .num, .empty]]).IsBlock ∧
    (Rows.toValue [[.text "x"], [.text "y"], [.text "z"]]).IsBlock ∧
    (concatenation (.ofValue (Rows.toValue [[.text "a", .error .num], [.bool true, .empty]])) "&"
        (.ofValue (Rows.toValue [[.text "x", .text "y", .text "z"]])) =
      .ok (Rows.toValue [[.text "ax", .error .num, .error .notAvailable],
        [.text "TRUEx", .text "y", .error .notAvailable]])) := by
  have hlgrid : Rows.IsGrid [[.text "a", .bool true], [.error .num, .empty]] 2 2 := ⟨rfl, by simp⟩
  have hrgrid : Rows.IsGrid [[.text "x"], [.text "y"], [.text "z"]] 3 1 := ⟨rfl, by simp⟩
  have hl := Value.IsBlock.grid hlgrid Nat.two_pos Nat.two_pos
  have hr := Value.IsBlock.grid hrgrid (Nat.succ_pos 2) Nat.one_pos
  obtain ⟨-, hfamilies, -⟩ := operators_transpose hl hr
  exact ⟨hl, hr, (hfamilies .concatenation "&" _).mpr ⟨Rows.toValue [[.text "ax", .text "TRUEx"],
    [.error .num, .text "y"], [.error .notAvailable, .error .notAvailable]], rfl, rfl⟩⟩

end GridCalc
