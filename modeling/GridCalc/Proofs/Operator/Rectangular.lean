import GridCalc.Proofs.Operator.Layout

/-!
# Operators on rectangular values

A value is *rectangular* if it is a scalar, or a list of rows of one width whose entries are any plain values. On
rectangular values the comparisons, the arithmetic operators and the signs have a result, which is rectangular again
(`exists_between`, `exists_signs`): operators find rows of one width in a rectangular value
(`Value.Rectangular.exists_rows`), and what they make of such rows has a layout (`exists_broadcast`).
-/

namespace GridCalc

/-- A scalar, or rows of one width. -/
inductive Value.Rectangular : Value → Prop
  | scalar {v : Value} : v.IsScalar → Rectangular v
  | grid {rows : Rows} {width : Nat} :
      (∀ row ∈ rows, row.length = width) → rows.Plain → Rectangular rows.toValue

namespace Value.Rectangular

variable {v : Value}

theorem plain (hv : v.Rectangular) : v.Plain := by
  cases hv with
  | scalar hscalar => exact plain_of_isScalar hscalar
  | grid _ hplain => exact Rows.plain_toValue hplain

theorem isScalar (hv : v.Rectangular) (hlist : v.isList = false) : v.IsScalar := by
  cases hv with
  | scalar hscalar => exact hscalar
  | grid => cases hlist

/-- An operator always finds a row: a list without rows is one row without entries. -/
theorem exists_rows (hv : v.Rectangular) : ∃ (rows : Rows) (height width : Nat), v.HasRows rows height width := by
  have hplain := hv.plain
  cases hv with
  | scalar hscalar =>
    exact ⟨[[v]], 1, 1, hplain, rows_of_isScalar hscalar, Nat.one_pos, rfl, by simp⟩
  | @grid rows width hwidth _ =>
    by_cases hne : rows = []
    · subst hne
      exact ⟨[[]], 1, 0, hplain, rfl, Nat.one_pos, rfl, by simp⟩
    · exact ⟨rows, rows.length, width, hplain, rows_toValue hne, List.length_pos_of_ne_nil hne, rfl, hwidth⟩

end Value.Rectangular

theorem Layout.Has.rectangular {layout : Layout} {v : Value} (hv : layout.Has v) : v.Rectangular := by
  cases layout with
  | single => exact .scalar hv
  | grid height width =>
    obtain ⟨rows, rfl, hgrid, hscalar⟩ := hv
    exact .grid hgrid.width fun row hrow x hx => Value.plain_of_isScalar (hscalar row hrow x hx)

/-! ## One operand -/

theorem exists_mapEntries {op : Value → Except Fault Value} {v : Value} (hv : v.Rectangular)
    (hop : ∀ x, x.Plain → ∃ y, op x = .ok y) (hscalar : ∀ x y, x.IsScalar → op x = .ok y → y.IsScalar)
    (hplain : ∀ x y, x.Plain → op x = .ok y → y.Plain) :
    ∃ w, mapEntries op (.ofValue v) = .ok w ∧ w.Rectangular := by
  cases hlist : v.isList with
  | false =>
    have hv' := hv.isScalar hlist
    obtain ⟨w, hw⟩ := hop v hv.plain
    exact ⟨w, by rw [mapEntries_of_isScalar hv', hw], .scalar (hscalar _ _ hv' hw)⟩
  | true =>
    obtain ⟨rows, height, width, hrows⟩ := hv.exists_rows
    have hrp := hrows.plain_rows
    obtain ⟨images, himages⟩ := hrp.exists_mapM hop
    have hisArray : (Operand.ofValue v).isArray = true := hlist
    refine ⟨images.toValue, ?_, .grid (hrows.grid.mapM himages).1.width ?_⟩
    · rw [mapEntries, if_pos hisArray, hrows.found, ok_bind, himages]
      rfl
    · exact forall_mem_of_mapM (P := fun row => ∀ x ∈ row, Value.Plain x) himages fun row hrow image himage =>
        forall_mem_of_mapM himage fun x hx y hy => hplain x y (hrp row hrow x hx) hy

/-! ## Calls of the families -/

namespace Call

variable {l r v : Value}

/-- A comparison or an arithmetic operator has a result on rectangular values. -/
theorem exists_between {family : InfixFamily} {token : String} (hknows : family.Knows token)
    (hfamily : family ≠ .concatenation) (hl : l.Rectangular) (hr : r.Rectangular) :
    ∃ v, (between family (.ofValue l) token (.ofValue r)).apply = .ok v ∧ v.Rectangular := by
  obtain ⟨lrows, lh, lw, hl⟩ := hl.exists_rows
  obtain ⟨rrows, rh, rw', hr⟩ := hr.exists_rows
  obtain ⟨v, hv, hlayout, -⟩ := exists_broadcast hl hr
    (fun _ _ hl hr => InfixFamily.exists_entries hknows hl.isEntry hr.isEntry fun h => absurd h hfamily)
    fun _ _ _ => InfixFamily.isScalar_of_entries
  exact ⟨v, (InfixFamily.apply_of_knows hknows _ _).trans hv, hlayout.rectangular⟩

theorem exists_signs {tokens : List String} (hsigns : ∀ token ∈ tokens, isSign token = true) (hv : v.Rectangular) :
    ∃ w, (signs tokens (.ofValue v)).apply = .ok w ∧ w.Rectangular := by
  rw [apply, GridCalc.signs, if_pos (List.all_eq_true.mpr hsigns)]
  refine exists_mapEntries hv (fun _ => exists_signScalar tokens) (fun x y hx hy => ?_) fun x y hx hy => ?_
  · rcases eq_or_isScalar_of_signScalar hy with rfl | hy
    · exact hx
    · exact hy
  · rcases eq_or_isScalar_of_signScalar hy with rfl | hy
    · exact hx
    · exact Value.plain_of_isScalar hy

end Call

end GridCalc
