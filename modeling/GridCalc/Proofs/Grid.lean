import GridCalc.Operator.Broadcast
import GridCalc.Proofs.Outcome

/-!
# Grids

Rows of one width. Two grids of one size are the same if the same stands at every place (`Rows.IsGrid.ext`). The entry
of a grid at a place is the one there, an axis of size 1 having one place only, and `#N/A` further out
(`Rows.IsGrid.entry_eq_shownAt`).

What is put together place by place is a grid (`isGrid_of_mapM`), and which one it is can be told from its places alone:
for the traversal of an array (`Rows.IsGrid.mapM_eq_ok_iff`) and for an operation on two arrays (`zipRows_eq_ok_iff`).
-/

namespace GridCalc

/-- The place on an axis of a size: on an axis of size 1 there is only one. -/
def placeOn (size i : Nat) : Nat := if size = 1 then 0 else i

theorem placeOn_lt {size i : Nat} (hpos : 0 < size) (h : size ≠ 1 → i < size) : placeOn size i < size := by
  unfold placeOn
  split
  · omega
  · rename_i hne
    exact h hne

theorem placeOn_of_lt {size i : Nat} (h : i < size) : placeOn size i = i := by
  unfold placeOn
  split <;> omega

namespace Rows

structure IsGrid (rows : Rows) (height width : Nat) : Prop where
  height : rows.length = height
  width : ∀ row ∈ rows, row.length = width

/-- What stands at a place, if there is one. -/
def get? (rows : Rows) (i j : Nat) : Option Value := rows[i]? >>= fun row => row[j]?

variable {rows : Rows} {height width i j : Nat}

theorem toValue_injective : Function.Injective toValue := fun _ _ h =>
  List.map_injective_iff.mpr (fun _ _ => Value.list.inj) (Value.list.inj h)

theorem mem_of_get? {v : Value} (h : rows.get? i j = some v) : ∃ row ∈ rows, v ∈ row := by
  obtain ⟨row, hrow, hv⟩ := Option.bind_eq_some_iff.mp h
  exact ⟨row, List.mem_of_getElem? hrow, List.mem_of_getElem? hv⟩

theorem IsGrid.ne_nil (h : rows.IsGrid height width) (hh : 0 < height) : rows ≠ [] :=
  List.ne_nil_of_length_pos (h.height ▸ hh)

theorem IsGrid.exists_get? (h : rows.IsGrid height width) (hi : i < height) (hj : j < width) :
    ∃ v, rows.get? i j = some v := by
  have hi' : i < rows.length := h.height.symm ▸ hi
  have hj' : j < rows[i].length := (h.width _ (List.getElem_mem hi')).symm ▸ hj
  exact ⟨rows[i][j], by simp [get?, hi', hj']⟩

theorem IsGrid.get?_eq_none (h : rows.IsGrid height width) (hout : height ≤ i ∨ width ≤ j) : rows.get? i j = none := by
  cases hrow : rows[i]? with
  | none => simp [get?, hrow]
  | some row =>
    have hi : i < rows.length := (List.getElem?_eq_some_iff.mp hrow).1
    have hlength : row.length = width := h.width row (List.mem_of_getElem? hrow)
    have hheight := h.height
    simp only [get?, hrow, Option.bind_eq_bind, Option.bind_some]
    exact List.getElem?_eq_none (by omega)

theorem IsGrid.length_headD (h : rows.IsGrid height width) (hh : 0 < height) : (rows.headD []).length = width := by
  cases rows with
  | nil => exact absurd h.height (by simp; omega)
  | cons row rest => exact h.width row List.mem_cons_self

/-- The entry of a grid at a place. -/
theorem IsGrid.entry_eq (h : rows.IsGrid height width) (hh : 0 < height) (hw : 0 < width)
    (hi : height ≠ 1 → i < height) (hj : width ≠ 1 → j < width) :
    rows.get? (placeOn height i) (placeOn width j) = some (rows.entry i j) := by
  obtain ⟨v, hv⟩ := h.exists_get? (placeOn_lt hh hi) (placeOn_lt hw hj)
  have hhead := h.length_headD hh
  obtain ⟨row, hrow, hcol⟩ := Option.bind_eq_some_iff.mp hv
  unfold placeOn at hrow hcol
  rw [hv, entry]
  simp only [h.height, hhead, hrow, hcol, Option.getD_some]

/-- Within a grid the entry at a place is what stands there. -/
theorem IsGrid.get?_eq_entry (h : rows.IsGrid height width) (hi : i < height) (hj : j < width) :
    rows.get? i j = some (rows.entry i j) := by
  have hentry := h.entry_eq (i := i) (j := j) (by omega) (by omega) (fun _ => hi) (fun _ => hj)
  rwa [placeOn_of_lt hi, placeOn_of_lt hj] at hentry

/-- What rows of a height and a width show at a place: a single row or column is repeated, and where there is nothing
stands `#N/A`. -/
def shownAt (rows : Rows) (height width i j : Nat) : Value :=
  (rows.get? (placeOn height i) (placeOn width j)).getD (.error .notAvailable)

theorem IsGrid.entry_eq_shownAt (h : rows.IsGrid height width) (hh : 0 < height) (i j : Nat) :
    rows.entry i j = rows.shownAt height width i j := by
  simp only [entry, shownAt, get?, h.height, h.length_headD hh, placeOn]
  cases rows[if height = 1 then 0 else i]? <;> rfl

/-- What is shown stands somewhere, or is `#N/A`. -/
theorem shownAt_mem (rows : Rows) (height width i j : Nat) :
    (∃ row ∈ rows, rows.shownAt height width i j ∈ row) ∨ rows.shownAt height width i j = .error .notAvailable := by
  unfold shownAt
  cases h : rows.get? (placeOn height i) (placeOn width j) with
  | none => exact Or.inr rfl
  | some v => exact Or.inl (mem_of_get? h)

/-- Grids of one size with the same at every place are the same. -/
theorem IsGrid.ext {rows' : Rows} (h : rows.IsGrid height width) (h' : rows'.IsGrid height width)
    (heq : ∀ i < height, ∀ j < width, rows.get? i j = rows'.get? i j) : rows = rows' := by
  refine List.ext_getElem (h.height.trans h'.height.symm) fun i hi hi' => ?_
  have hlength : rows[i].length = width := h.width _ (List.getElem_mem hi)
  have hlength' : rows'[i].length = width := h'.width _ (List.getElem_mem hi')
  refine List.ext_getElem (hlength.trans hlength'.symm) fun j hj hj' => ?_
  have hplace := heq i (h.height ▸ hi) j (hlength ▸ hj)
  simpa [get?, hi, hi', hj, hj'] using hplace

theorem IsGrid.shape (h : rows.IsGrid height width) (hh : 0 < height) : rows.shape = .ok (height, width) := by
  have hwidths : rows.map List.length = List.replicate height width := by
    rw [List.eq_replicate_iff]
    exact ⟨by rw [List.length_map, h.height], by simpa using h.width⟩
  obtain ⟨n, rfl⟩ := Nat.exists_eq_succ_of_ne_zero (Nat.pos_iff_ne_zero.mp hh)
  simp [Rows.shape, hwidths, List.replicate_succ, commonWidth, h.height]

theorem shape_of_irregular (h : ¬∃ width, ∀ row ∈ rows, row.length = width) :
    rows.shape = .error (.invalid (.irregularRows (rows.map List.length))) := by
  cases rows with
  | nil => exact absurd ⟨0, by simp⟩ h
  | cons row rest =>
    have hnot : ¬(rest.map List.length).all (· == row.length) = true := by
      intro hall
      refine h ⟨row.length, List.forall_mem_cons.mpr ⟨rfl, fun other hother => ?_⟩⟩
      exact beq_iff_eq.mp (List.all_eq_true.mp hall _ (List.mem_map_of_mem hother))
    rw [Rows.shape, List.map_cons, commonWidth, if_neg hnot]
    rfl

theorem exists_isGrid_of_shape {shape : Shape} (h : rows.shape = .ok shape) :
    ∃ width, rows.IsGrid rows.length width := by
  by_contra hirregular
  rw [shape_of_irregular fun ⟨width, hwidth⟩ => hirregular ⟨width, rfl, hwidth⟩] at h
  cases h

end Rows

/-! ## Traversals -/

/-- What a traversal yields at each place. -/
theorem exists_getElem?_of_mapM {α β : Type} {f : α → Except Fault β} {items : List α} {images : List β}
    (h : items.mapM f = .ok images) (i : Nat) (hi : i < items.length) :
    ∃ b, images[i]? = some b ∧ f items[i] = .ok b := by
  have hall := mapM_eq_ok_iff.mp h
  have hi' : i < images.length := (length_of_mapM_eq_ok h).symm ▸ hi
  exact ⟨images[i], List.getElem?_eq_getElem hi', hall.get hi hi'⟩

/-- A traversal ends in the fault of the first item that is at fault. -/
theorem exists_getElem_of_mapM_eq_error {α β : Type} {f : α → Except Fault β} {fault : Fault} : ∀ {items : List α},
    items.mapM f = .error fault → ∃ (i : Nat) (hi : i < items.length), f items[i] = .error fault ∧
      ∀ (k : Nat) (hk : k < i), ∃ b, f items[k] = .ok b
  | [], h => by cases h
  | a :: rest, h => by
    cases ha : f a with
    | error first =>
      rw [List.mapM_cons, ha] at h
      cases h
      exact ⟨0, Nat.zero_lt_succ _, ha, fun k hk => absurd hk (Nat.not_lt_zero k)⟩
    | ok b =>
      have hrest : rest.mapM f = .error fault := by
        rw [List.mapM_cons, ha, ok_bind] at h
        cases hmap : rest.mapM f with
        | ok images =>
          rw [hmap] at h
          cases h
        | error later =>
          rw [hmap] at h
          exact h
      obtain ⟨i, hi, hfault, hbefore⟩ := exists_getElem_of_mapM_eq_error hrest
      refine ⟨i + 1, Nat.succ_lt_succ hi, hfault, fun k hk => ?_⟩
      cases k with
      | zero => exact ⟨b, ha⟩
      | succ k => exact hbefore k (Nat.lt_of_succ_lt_succ hk)

/-- A traversal of all places of two axes yields a grid. -/
theorem isGrid_of_mapM {α β : Type} {f : α → β → Except Fault Value} {xs : List α} {ys : List β} {rows : Rows}
    (h : (xs.mapM fun x => ys.mapM fun y => f x y) = .ok rows) :
    rows.IsGrid xs.length ys.length ∧ ∀ (i j : Nat) (hi : i < xs.length) (hj : j < ys.length),
      ∃ v, rows.get? i j = some v ∧ f xs[i] ys[j] = .ok v := by
  refine ⟨⟨length_of_mapM_eq_ok h, ?_⟩, fun i j hi hj => ?_⟩
  · have hall := mapM_eq_ok_iff.mp h
    clear h
    induction hall with
    | nil => simp
    | cons hrow _ ih => exact List.forall_mem_cons.mpr ⟨length_of_mapM_eq_ok hrow, ih⟩
  · obtain ⟨row, hrow, himage⟩ := exists_getElem?_of_mapM h i hi
    obtain ⟨v, hv, hf⟩ := exists_getElem?_of_mapM himage j hj
    exact ⟨v, by simp [Rows.get?, hrow, hv], hf⟩

/-- A traversal of all places yields the grid of what it makes of each place. -/
theorem mapM_places_eq_ok_iff {f : Nat → Nat → Except Fault Value} {height width : Nat} {rows : Rows} :
    ((List.range height).mapM fun i => (List.range width).mapM fun j => f i j) = .ok rows ↔
      rows.IsGrid height width ∧ ∀ i < height, ∀ j < width, ∃ v, rows.get? i j = some v ∧ f i j = .ok v := by
  constructor
  · intro h
    have hplaces := isGrid_of_mapM h
    simp only [List.length_range, List.getElem_range] at hplaces
    exact ⟨hplaces.1, fun i hi j hj => hplaces.2 i j hi hj⟩
  · rintro ⟨hgrid, hplaces⟩
    obtain ⟨images, himages⟩ : ∃ images : Rows,
        ((List.range height).mapM fun i => (List.range width).mapM fun j => f i j) = .ok images := by
      refine exists_mapM_of_forall fun i hi => exists_mapM_of_forall fun j hj => ?_
      obtain ⟨v, -, hv⟩ := hplaces i (List.mem_range.mp hi) j (List.mem_range.mp hj)
      exact ⟨v, hv⟩
    obtain ⟨hgrid', hplaces'⟩ := isGrid_of_mapM himages
    simp only [List.length_range, List.getElem_range] at hgrid' hplaces'
    rw [himages, hgrid.ext hgrid' fun i hi j hj => ?_]
    obtain ⟨v, hv, hf⟩ := hplaces i hi j hj
    obtain ⟨v', hv', hf'⟩ := hplaces' i j hi hj
    rw [hv, hv', Except.ok.inj (hf.symm.trans hf')]

/-- An operation on two grids yields the grid of what it makes of their entries at each place of the common shape. -/
theorem zipRows_eq_ok_iff {op : Value → Value → Except Fault Value} {left right rows : Rows} {lh lw rh rw' : Nat}
    (hl : left.IsGrid lh lw) (hr : right.IsGrid rh rw') (hlh : 0 < lh) (hrh : 0 < rh) :
    zipRows op left right = .ok rows ↔ rows.IsGrid (max lh rh) (max lw rw') ∧
      ∀ i < max lh rh, ∀ j < max lw rw', ∃ v, rows.get? i j = some v ∧
        op (left.entry i j) (right.entry i j) = .ok v := by
  simp only [zipRows, hl.shape hlh, hr.shape hrh, ok_bind]
  exact mapM_places_eq_ok_iff

theorem exists_zipRows {op : Value → Value → Except Fault Value} {left right : Rows} {lh lw rh rw' : Nat}
    (hl : left.IsGrid lh lw) (hr : right.IsGrid rh rw') (hlh : 0 < lh) (hrh : 0 < rh)
    (hop : ∀ i < max lh rh, ∀ j < max lw rw', ∃ v, op (left.entry i j) (right.entry i j) = .ok v) :
    ∃ rows, zipRows op left right = .ok rows := by
  simp only [zipRows, hl.shape hlh, hr.shape hrh, ok_bind]
  exact exists_mapM_of_forall fun i hi => exists_mapM_of_forall fun j hj =>
    hop i (List.mem_range.mp hi) j (List.mem_range.mp hj)

/-- A traversal of the entries of a grid yields a grid. -/
theorem Rows.IsGrid.mapM {op : Value → Except Fault Value} {rows images : Rows} {height width : Nat}
    (hgrid : rows.IsGrid height width) (h : (rows.mapM fun row => row.mapM op) = .ok images) :
    images.IsGrid height width ∧
      ∀ i j v, rows.get? i j = some v → ∃ v', images.get? i j = some v' ∧ op v = .ok v' := by
  refine ⟨⟨(length_of_mapM_eq_ok h).trans hgrid.height, ?_⟩, fun i j v hv => ?_⟩
  · have hwidth := hgrid.width
    have hall := mapM_eq_ok_iff.mp h
    clear h hgrid
    induction hall with
    | nil => simp
    | cons hrow _ ih =>
      obtain ⟨hfirst, hrest⟩ := List.forall_mem_cons.mp hwidth
      exact List.forall_mem_cons.mpr ⟨(length_of_mapM_eq_ok hrow).trans hfirst, ih hrest⟩
  · obtain ⟨row, hrow, hcol⟩ := Option.bind_eq_some_iff.mp hv
    obtain ⟨hi, rfl⟩ := List.getElem?_eq_some_iff.mp hrow
    obtain ⟨hj, rfl⟩ := List.getElem?_eq_some_iff.mp hcol
    obtain ⟨image, himage, hrow'⟩ := exists_getElem?_of_mapM h i hi
    obtain ⟨v', hv', hop⟩ := exists_getElem?_of_mapM hrow' j hj
    exact ⟨v', by simp [Rows.get?, himage, hv'], hop⟩

/-- The traversal of the entries of a grid yields the grid of what it makes of each entry. -/
theorem Rows.IsGrid.mapM_eq_ok_iff {op : Value → Except Fault Value} {rows images : Rows} {height width : Nat}
    (hgrid : rows.IsGrid height width) : (rows.mapM fun row => row.mapM op) = .ok images ↔
      images.IsGrid height width ∧
        ∀ i j v, rows.get? i j = some v → ∃ v', images.get? i j = some v' ∧ op v = .ok v' := by
  refine ⟨hgrid.mapM, fun ⟨himages, hentries⟩ => ?_⟩
  obtain ⟨images', himages'⟩ : ∃ images' : Rows, (rows.mapM fun row => row.mapM op) = .ok images' := by
    refine exists_mapM_of_forall fun row hrow => exists_mapM_of_forall fun v hv => ?_
    obtain ⟨i, hi⟩ := List.mem_iff_getElem?.mp hrow
    obtain ⟨j, hj⟩ := List.mem_iff_getElem?.mp hv
    obtain ⟨v', -, hop⟩ := hentries i j v (by simp [Rows.get?, hi, hj])
    exact ⟨v', hop⟩
  obtain ⟨hgrid', hentries'⟩ := hgrid.mapM himages'
  rw [himages', himages.ext hgrid' fun i hi j hj => ?_]
  obtain ⟨v, hv⟩ := hgrid.exists_get? hi hj
  obtain ⟨w, hw, hop⟩ := hentries i j v hv
  obtain ⟨w', hw', hop'⟩ := hentries' i j v hv
  rw [hw, hw', Except.ok.inj (hop.symm.trans hop')]

end GridCalc
