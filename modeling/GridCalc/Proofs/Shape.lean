import GridCalc.Proofs.Grid

/-!
# The shape of lists

A list whose items all are lists is an array of these rows, and any other list is a single row (`rowsOf_map_list`,
`rowsOf_of_not_isList`). The shape of a list, however, is that of its items as soon as one of them is a list, every
other item being a row of one entry (`Value.shape_list_of_isList`).

Main statement: `Value.shape_list`. The two agree on lists that are not empty and hold lists only or no lists, and on
the rows of any list once these are put together again, but on no others.
-/

namespace GridCalc

/-! ## Lists as rows -/

theorem allRows?_map : ∀ rows : Rows, allRows? (rows.map .list) = some rows
  | [] => rfl
  | row :: rest => by rw [List.map_cons, allRows?, allRows?_map rest]; rfl

theorem rowsOf_map_list {rows : Rows} (hne : rows ≠ []) : rowsOf (rows.map .list) = rows := by
  obtain ⟨row, rest, rfl⟩ := List.exists_cons_of_ne_nil hne
  unfold rowsOf
  rw [allRows?_map]
  rfl

theorem rowsOf_ne_nil (items : List Value) : rowsOf items ≠ [] := by
  unfold rowsOf
  split
  · rename_i v rest rows hrows
    cases v <;> simp only [allRows?, reduceCtorEq] at hrows
    obtain ⟨rows', -, rfl⟩ := Option.map_eq_some_iff.mp hrows
    exact List.cons_ne_nil _ _
  · exact List.cons_ne_nil _ _

theorem allRows?_eq_none {items : List Value} {v : Value} (hmem : v ∈ items) (hv : v.isList = false) :
    allRows? items = none := by
  cases h : allRows? items with
  | none => rfl
  | some rows =>
    induction items generalizing rows with
    | nil => cases hmem
    | cons first rest ih =>
      cases first <;> simp only [allRows?, reduceCtorEq] at h
      obtain ⟨rows', hrest, rfl⟩ := Option.map_eq_some_iff.mp h
      rcases List.mem_cons.mp hmem with rfl | hmem
      · cases hv
      · cases ih hmem rows' hrest

/-- A list with an item that is no array is a single row. -/
theorem rowsOf_of_not_isList {items : List Value} {v : Value} (hmem : v ∈ items) (hv : v.isList = false) :
    rowsOf items = [items] := by
  unfold rowsOf
  rw [allRows?_eq_none hmem hv]
  cases items <;> rfl

/-- The items of a list as rows, where an item that is no list is a row of one entry. -/
def itemRows (items : List Value) : Rows := items.map fun
  | .list row => row
  | v => [v]

theorem map_list_itemRows : ∀ {items : List Value}, (∀ v ∈ items, v.isList = true) →
    (itemRows items).map .list = items
  | [], _ => rfl
  | v :: rest, h => by
    obtain ⟨hv, hrest⟩ := List.forall_mem_cons.mp h
    cases v with
    | list row => exact congrArg (Value.list row :: ·) (map_list_itemRows hrest)
    | _ => cases hv

theorem itemRows_map_list (rows : Rows) : itemRows (rows.map .list) = rows := by
  rw [itemRows, List.map_map]
  exact List.map_id rows

theorem map_length_itemRows (items : List Value) : (itemRows items).map List.length = items.map rowWidth := by
  rw [itemRows, List.map_map]
  refine List.map_congr_left fun v _ => ?_
  cases v <;> rfl

/-! ## Shapes -/

namespace Value

/-- A value is shaped as rows if its shape is their number with their common width, and a fault where they have no
common width. -/
structure ShapedAs (v : Value) (rows : Rows) : Prop where
  ok : ∀ height width, v.shape = .ok (height, width) ↔ rows.IsGrid height width
  error : ∀ fault, v.shape = .error fault ↔
    fault = .invalid (.irregularRows (rows.map List.length)) ∧ ¬∃ width, ∀ row ∈ rows, row.length = width

variable {v : Value} {rows : Rows} {items : List Value}

theorem shapedAs_of_shape_eq (hne : rows ≠ []) (h : v.shape = rows.shape) : v.ShapedAs rows := by
  by_cases hwidth : ∃ width, ∀ row ∈ rows, row.length = width
  · obtain ⟨width, hwidth⟩ := hwidth
    have hgrid : rows.IsGrid rows.length width := ⟨rfl, hwidth⟩
    have hshape := h.trans (hgrid.shape (List.length_pos_iff.mpr hne))
    refine ⟨fun height width' => ⟨fun hok => ?_, fun hgrid' => ?_⟩, fun fault => ⟨fun herror => ?_, fun herror => ?_⟩⟩
    · rw [hshape] at hok
      cases hok
      exact hgrid
    · exact h.trans (hgrid'.shape (hgrid'.height ▸ List.length_pos_iff.mpr hne))
    · rw [hshape] at herror
      cases herror
    · exact absurd ⟨width, hwidth⟩ herror.2
  · have hshape := h.trans (Rows.shape_of_irregular hwidth)
    refine ⟨fun height width => ⟨fun hok => ?_, fun hgrid => absurd ⟨width, hgrid.width⟩ hwidth⟩, fun fault => ?_⟩
    · rw [hshape] at hok
      cases hok
    · rw [hshape, Except.error.injEq, eq_comm]
      exact (and_iff_left hwidth).symm

/-- With a list among the items, the shape of a list is that of its items as rows. -/
theorem shape_list_of_isList (hmem : v ∈ items) (hv : v.isList = true) :
    (list items).shape = (itemRows items).shape := by
  have hany : items.any isList = true := List.any_eq_true.mpr ⟨v, hmem, hv⟩
  have hlength : (itemRows items).length = items.length := List.length_map _
  rw [shape, listShape, List.isEmpty_eq_false_iff.mpr (List.ne_nil_of_mem hmem), hany, Rows.shape, hlength,
    map_length_itemRows]
  rfl

/-- Without a list among the items, it is that of a single row. -/
theorem shape_list_of_not_isList (hne : items ≠ []) (h : ∀ v ∈ items, v.isList = false) :
    (list items).shape = Rows.shape [items] := by
  have hany : items.any isList = false := List.any_eq_false.mpr fun v hv => by simp [h v hv]
  rw [shape, listShape, List.isEmpty_eq_false_iff.mpr hne, hany]
  rfl

theorem shape_toValue (hne : rows ≠ []) : rows.toValue.shape = rows.shape := by
  obtain ⟨row, rest, rfl⟩ := List.exists_cons_of_ne_nil hne
  rw [Rows.toValue, shape_list_of_isList (v := .list row) (by simp) rfl, itemRows_map_list]

theorem shapedAs_itemRows (hmem : v ∈ items) (hv : v.isList = true) : (list items).ShapedAs (itemRows items) := by
  refine shapedAs_of_shape_eq (fun hnil => ?_) (shape_list_of_isList hmem hv)
  rw [List.map_eq_nil_iff.mp hnil] at hmem
  cases hmem

/-- A list that is not empty and holds lists only or no lists is shaped as its rows, and so are the rows of any list
once they are a list again. The empty list has neither height nor width, but its rows are one row. A list with lists
and other items among its items is one row, but it is shaped as its items, each a row of its own. -/
theorem shape_list (items : List Value) :
    (items ≠ [] → ((∀ v ∈ items, v.isList = true) ∨ ∀ v ∈ items, v.isList = false) →
      (list items).ShapedAs (rowsOf items)) ∧
    (rowsOf items).toValue.ShapedAs (rowsOf items) ∧
    (items = [] → (list items).shape = .ok (0, 0) ∧ rowsOf items = [[]]) ∧
    ((∃ v ∈ items, v.isList = true) → (∃ v ∈ items, v.isList = false) →
      rowsOf items = [items] ∧ (list items).ShapedAs (itemRows items)) := by
  refine ⟨fun hne huniform => ?_, shapedAs_of_shape_eq (rowsOf_ne_nil items) (shape_toValue (rowsOf_ne_nil items)),
    fun hnil => ?_, fun ⟨v, hmem, hv⟩ ⟨w, hmem', hw⟩ =>
      ⟨rowsOf_of_not_isList hmem' hw, shapedAs_itemRows hmem hv⟩⟩
  · obtain ⟨v, hmem⟩ := List.exists_mem_of_ne_nil items hne
    rcases huniform with hlists | hothers
    · have hshaped := shapedAs_itemRows hmem (hlists v hmem)
      have hrows : rowsOf ((itemRows items).map .list) = itemRows items :=
        rowsOf_map_list fun hnil => hne (List.map_eq_nil_iff.mp hnil)
      rw [map_list_itemRows hlists] at hrows
      rwa [hrows]
    · rw [rowsOf_of_not_isList hmem (hothers v hmem)]
      exact shapedAs_of_shape_eq (List.cons_ne_nil _ _) (shape_list_of_not_isList hne hothers)
  · rw [hnil]
    exact ⟨rfl, rfl⟩

/-- Rows of two widths, next to a list of which only one item is a list. -/
theorem shape_list_uneven :
    (list [list [empty, bool true], list []]).shape = .error (.invalid (.irregularRows [2, 0])) ∧
      (list [text "a", list [list []]]).shape = .ok (2, 1) ∧
      rowsOf [text "a", list [list []]] = [[text "a", list [list []]]] := by
  obtain ⟨huniform, -⟩ := shape_list [list [empty, bool true], list []]
  obtain ⟨-, -, -, hmixed⟩ := shape_list [text "a", list [list []]]
  have hitems := hmixed ⟨list [list []], by simp, rfl⟩ ⟨text "a", by simp, rfl⟩
  refine ⟨((huniform (by simp) (Or.inl (by simp [isList]))).error _).mpr ⟨rfl, ?_⟩,
    (hitems.2.ok 2 1).mpr ⟨rfl, by simp [itemRows]⟩, hitems.1⟩
  rintro ⟨width, h⟩
  have hfirst := h [empty, bool true] (by simp [rowsOf, allRows?])
  have hsecond := h [] (by simp [rowsOf, allRows?])
  rw [← hsecond] at hfirst
  cases hfirst

/-- The empty list, and lists with a list and another item, are not shaped as their rows. -/
theorem shape_ne_rows :
    (list []).shape = .ok (0, 0) ∧ rowsOf [] = [[]] ∧
      (list [int 1, list [int 2]]).shape = .ok (2, 1) ∧ rowsOf [int 1, list [int 2]] = [[int 1, list [int 2]]] ∧
      (list [int 1, list []]).shape = .error (.invalid (.irregularRows [1, 0])) ∧
      rowsOf [int 1, list []] = [[int 1, list []]] := ⟨rfl, rfl, rfl, rfl, rfl, rfl⟩

end Value

end GridCalc
