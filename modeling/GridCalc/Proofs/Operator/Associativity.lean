import GridCalc.Proofs.Operator.Layout
import GridCalc.Proofs.Operator.Writing

/-!
# Concatenations of three operands

The array that a broadcast operation makes is as high as the higher and as wide as the wider operand
(`Value.Extends.broadcast`), so that its extent does not depend on how three operands are grouped
(`extends_regrouped`). An operation that may be grouped either way at each place may be grouped either way on arrays
(`broadcast_assoc`). A concatenation of entries is such an operation: it is the leftmost error or else the texts in
order, whichever two are taken first (`concatEntries_assoc`).

Main statement: `concatenation_assoc`.
-/

namespace GridCalc

variable {op : Value → Value → Except Fault Value} {l r v : Value} {h w : Nat}

/-! ## Extents -/

namespace Value

/-- A scalar is one row of one entry, and an array as many rows of scalars. -/
inductive Extends : Value → Nat → Nat → Prop
  | scalar {v : Value} : v.IsScalar → Extends v 1 1
  | grid {rows : Rows} {height width : Nat} : rows.IsGrid height width → 0 < height → rows.Scalar →
      Extends rows.toValue height width

theorem Spreads.exists_extends (hh : 0 < h) (hv : v.Spreads h w) :
    ∃ height width, v.Extends height width ∧ (height = 1 ∨ height = h) ∧ (width = 1 ∨ width = w) := by
  cases hv with
  | scalar hscalar => exact ⟨1, 1, .scalar hscalar, Or.inl rfl, Or.inl rfl⟩
  | grid hrows hscalar =>
    obtain ⟨height, width, hgrid, hheight, hwidth⟩ := hrows
    exact ⟨height, width, .grid hgrid (by omega) hscalar, hheight, hwidth⟩

namespace Extends

variable {v' : Value} {height width lh lw rh rw' : Nat}

theorem exists_rows (hv : v.Extends height width) : ∃ rows : Rows, v.HasRows rows height width := by
  cases hv with
  | scalar hscalar => exact ⟨[[v]], plain_of_isScalar hscalar, rows_of_isScalar hscalar, Nat.one_pos, rfl, by simp⟩
  | @grid rows _ _ hgrid hpos hscalar =>
    have hplain : rows.Plain := fun row hrow x hx => plain_of_isScalar (hscalar row hrow x hx)
    exact ⟨rows, Rows.plain_toValue hplain, rows_toValue (hgrid.ne_nil hpos), hpos, hgrid⟩

theorem eq_one (hv : v.Extends height width) (hlist : v.isList = false) : height = 1 ∧ width = 1 := by
  cases hv with
  | scalar => exact ⟨rfl, rfl⟩
  | grid => cases hlist

/-- The result is as high as the higher operand and as wide as the wider one, and an array iff one of them is. -/
theorem broadcast (hscalar : ∀ l r v, op l r = .ok v → v.IsScalar) (hl : l.Extends lh lw) (hr : r.Extends rh rw')
    (hv : broadcast op (.ofValue l) (.ofValue r) = .ok v) :
    v.Extends (max lh rh) (max lw rw') ∧ v.isList = (l.isList || r.isList) := by
  obtain ⟨lrows, hlrows⟩ := hl.exists_rows
  obtain ⟨rrows, hrrows⟩ := hr.exists_rows
  have hshows := (broadcast_eq_ok_iff hlrows.presents hrrows.presents hlrows.grid hrrows.grid).mp hv
  obtain ⟨hlayout, -⟩ := hshows.of_isScalar fun _ _ _ => hscalar _ _ _
  rw [Operand.ofValue, Operand.ofValue] at hlayout
  dsimp only at hlayout
  cases harray : l.isList || r.isList with
  | false =>
    obtain ⟨hll, hrl⟩ := Bool.or_eq_false_iff.mp harray
    rw [Layout.join, harray] at hlayout
    have hvs : v.IsScalar := hlayout
    rw [(hl.eq_one hll).1, (hl.eq_one hll).2, (hr.eq_one hrl).1, (hr.eq_one hrl).2]
    exact ⟨.scalar hvs, isList_of_isScalar hvs⟩
  | true =>
    rw [Layout.join, harray, if_pos rfl] at hlayout
    obtain ⟨rows, rfl, hgrid, hrows⟩ := hlayout
    have hpos := hlrows.pos
    exact ⟨.grid hgrid (by omega) hrows, rfl⟩

/-- Values of one extent with the same at each place are the same, unless only one of them is an array. -/
theorem ext (hv : v.Extends height width) (hv' : v'.Extends height width) (hlist : v.isList = v'.isList)
    (heq : ∀ i < height, ∀ j < width, v.entryAt i j = v'.entryAt i j) : v = v' := by
  cases hv with
  | scalar hscalar =>
    cases hv' with
    | scalar hscalar' =>
      have hentry := heq 0 Nat.one_pos 0 Nat.one_pos
      rwa [entryAt_of_isScalar hscalar, entryAt_of_isScalar hscalar'] at hentry
    | grid =>
      rw [isList_of_isScalar hscalar] at hlist
      cases hlist
  | @grid rows _ _ hgrid hpos _ =>
    obtain ⟨rows', rfl, hgrid'⟩ : ∃ rows' : Rows, v' = rows'.toValue ∧ rows'.IsGrid height width := by
      cases hv' with
      | scalar hscalar' =>
        rw [isList_of_isScalar hscalar'] at hlist
        cases hlist
      | grid hgrid' => exact ⟨_, rfl, hgrid'⟩
    have hsame : rows = rows' := hgrid.ext hgrid' fun i hi j hj => by
      have hentry := heq i hi j hj
      rw [entryAt_toValue (hgrid.ne_nil hpos), entryAt_toValue (hgrid'.ne_nil hpos)] at hentry
      rw [hgrid.get?_eq_entry hi hj, hgrid'.get?_eq_entry hi hj, hentry]
    rw [hsame]

end Extends

/-- An operation that has a result at each place has one on the values. -/
theorem Spreads.exists_broadcast (hh : 0 < h) (hw : 0 < w) (hl : l.Spreads h w) (hr : r.Spreads h w)
    (hop : ∀ i < h, ∀ j < w, ∃ v, op (l.entryAt i j) (r.entryAt i j) = .ok v) :
    ∃ v, broadcast op (.ofValue l) (.ofValue r) = .ok v := by
  cases harray : l.isList || r.isList with
  | false =>
    obtain ⟨hll, hrl⟩ := Bool.or_eq_false_iff.mp harray
    have hls := hl.isScalar hll
    have hrs := hr.isScalar hrl
    have hfirst := hop 0 hh 0 hw
    rw [broadcast_of_isScalar hls hrs]
    rwa [entryAt_of_isScalar hls, entryAt_of_isScalar hrs] at hfirst
  | true =>
    obtain ⟨lrows, hlrows, ⟨lh, lw, hlgrid, hlh, hlw⟩, hlentry⟩ := hl.rows_ofValue hh
    obtain ⟨rrows, hrrows, ⟨rh, rw', hrgrid, hrh, hrw⟩, hrentry⟩ := hr.rows_ofValue hh
    have hentries : ∀ i < max lh rh, ∀ j < max lw rw', ∃ v, op (lrows.entry i j) (rrows.entry i j) = .ok v := by
      intro i hi j hj
      rw [hlentry, hrentry]
      exact hop i (by omega) j (by omega)
    obtain ⟨rows, hrows⟩ := exists_zipRows hlgrid hrgrid (by omega) (by omega) hentries
    exact ⟨rows.toValue, by rw [broadcast_of_isList harray hlrows hrrows, hrows]; rfl⟩

end Value

/-! ## Three operands -/

variable {a b c : Value}

/-- Both groupings yield values of one extent, which are arrays if one of the operands is one. -/
theorem extends_regrouped {ab bc v' : Value} (hh : 0 < h) (hw : 0 < w)
    (hscalar : ∀ l r v, op l r = .ok v → v.IsScalar) (ha : a.Spreads h w) (hb : b.Spreads h w) (hc : c.Spreads h w)
    (hab : broadcast op (.ofValue a) (.ofValue b) = .ok ab) (hbc : broadcast op (.ofValue b) (.ofValue c) = .ok bc)
    (hv : broadcast op (.ofValue ab) (.ofValue c) = .ok v) (hv' : broadcast op (.ofValue a) (.ofValue bc) = .ok v') :
    (∃ height ≤ h, ∃ width ≤ w, v.Extends height width ∧ v'.Extends height width) ∧
      v.isList = (a.isList || b.isList || c.isList) ∧ v.isList = v'.isList := by
  obtain ⟨ah, aw, hae, hah, haw⟩ := ha.exists_extends hh
  obtain ⟨bh, bw, hbe, hbh, hbw⟩ := hb.exists_extends hh
  obtain ⟨ch, cw, hce, hch, hcw⟩ := hc.exists_extends hh
  obtain ⟨habe, hablist⟩ := hae.broadcast hscalar hbe hab
  obtain ⟨hbce, hbclist⟩ := hbe.broadcast hscalar hce hbc
  obtain ⟨hve, hvlist⟩ := habe.broadcast hscalar hce hv
  obtain ⟨hve', hvlist'⟩ := hae.broadcast hscalar hbce hv'
  rw [← max_assoc, ← max_assoc] at hve'
  refine ⟨⟨_, by omega, _, by omega, hve, hve'⟩, by rw [hvlist, hablist], ?_⟩
  rw [hvlist, hvlist', hablist, hbclist, Bool.or_assoc]

/-- An operation that may be grouped either way at each place may be grouped either way on values, and what holds of
its result at each place holds of the entries of its result. -/
theorem broadcast_assoc {P : Value → Value → Value → Value → Prop} (hh : 0 < h) (hw : 0 < w)
    (hscalar : ∀ l r v, op l r = .ok v → v.IsScalar) (ha : a.Spreads h w) (hb : b.Spreads h w) (hc : c.Spreads h w)
    (hop : ∀ i < h, ∀ j < w, ∃ xy yz x, op (a.entryAt i j) (b.entryAt i j) = .ok xy ∧
      op (b.entryAt i j) (c.entryAt i j) = .ok yz ∧ op xy (c.entryAt i j) = .ok x ∧ op (a.entryAt i j) yz = .ok x ∧
      P (a.entryAt i j) (b.entryAt i j) (c.entryAt i j) x) :
    ∃ ab bc v, broadcast op (.ofValue a) (.ofValue b) = .ok ab ∧ broadcast op (.ofValue b) (.ofValue c) = .ok bc ∧
      broadcast op (.ofValue ab) (.ofValue c) = .ok v ∧ broadcast op (.ofValue a) (.ofValue bc) = .ok v ∧
      v.Spreads h w ∧ v.isList = (a.isList || b.isList || c.isList) ∧
      ∀ i < h, ∀ j < w, P (a.entryAt i j) (b.entryAt i j) (c.entryAt i j) (v.entryAt i j) := by
  obtain ⟨ab, hab⟩ := ha.exists_broadcast hh hw hb fun i hi j hj => by
    obtain ⟨xy, -, -, hxy, -⟩ := hop i hi j hj
    exact ⟨xy, hxy⟩
  obtain ⟨bc, hbc⟩ := hb.exists_broadcast hh hw hc fun i hi j hj => by
    obtain ⟨-, yz, -, -, hyz, -⟩ := hop i hi j hj
    exact ⟨yz, hyz⟩
  obtain ⟨habs, -, habentry⟩ := spreads_of_broadcast hh hw hscalar ha hb hab
  obtain ⟨hbcs, -, hbcentry⟩ := spreads_of_broadcast hh hw hscalar hb hc hbc
  -- at each place both groupings come to one entry
  have hplaces : ∀ i < h, ∀ j < w, ∃ x, op (ab.entryAt i j) (c.entryAt i j) = .ok x ∧
      op (a.entryAt i j) (bc.entryAt i j) = .ok x ∧ P (a.entryAt i j) (b.entryAt i j) (c.entryAt i j) x := by
    intro i hi j hj
    obtain ⟨xy, yz, x, hxy, hyz, hx, hx', hP⟩ := hop i hi j hj
    rw [habentry i hi j hj, Except.ok.injEq] at hxy
    rw [hbcentry i hi j hj, Except.ok.injEq] at hyz
    exact ⟨x, hxy ▸ hx, hyz ▸ hx', hP⟩
  obtain ⟨v, hv⟩ := habs.exists_broadcast hh hw hc fun i hi j hj => (hplaces i hi j hj).imp fun _ hx => hx.1
  obtain ⟨v', hv'⟩ := ha.exists_broadcast hh hw hbcs fun i hi j hj => (hplaces i hi j hj).imp fun _ hx => hx.2.1
  obtain ⟨hvs, -, hventry⟩ := spreads_of_broadcast hh hw hscalar habs hc hv
  obtain ⟨-, -, hventry'⟩ := spreads_of_broadcast hh hw hscalar ha hbcs hv'
  have hentries : ∀ i < h, ∀ j < w, v.entryAt i j = v'.entryAt i j ∧
      P (a.entryAt i j) (b.entryAt i j) (c.entryAt i j) (v.entryAt i j) := by
    intro i hi j hj
    obtain ⟨x, hx, hx', hP⟩ := hplaces i hi j hj
    rw [hventry i hi j hj, Except.ok.injEq] at hx
    rw [hventry' i hi j hj, Except.ok.injEq] at hx'
    exact ⟨hx.trans hx'.symm, hx ▸ hP⟩
  obtain ⟨⟨height, hheight, width, hwidth, hve, hve'⟩, hvlist, hlist⟩ :=
    extends_regrouped hh hw hscalar ha hb hc hab hbc hv hv'
  obtain rfl : v = v' := hve.ext hve' hlist fun i hi j hj => (hentries i (by omega) j (by omega)).1
  exact ⟨ab, bc, v, hab, hbc, hv, hv', hvs, hvlist, fun i hi j hj => (hentries i hi j hj).2⟩

/-! ## Concatenations -/

namespace Value

/-- The entries of a value that can be written can be written. -/
theorem Spreads.writable_entryAt (hh : 0 < h) (hw : 0 < w) {i j : Nat} (hi : i < h) (hj : j < w) (hv : v.Spreads h w)
    (hwritable : v.writable = true) : (v.entryAt i j).writable = true := by
  cases hv with
  | scalar hscalar => rwa [entryAt_of_isScalar hscalar]
  | @grid rows hrows _ =>
    rw [entryAt_toValue (hrows.ne_nil hh)]
    obtain ⟨height, width, hgrid, hheight, hwidth⟩ := hrows
    obtain ⟨row, hrow, hentry⟩ := Rows.mem_of_get? (Rows.Spreads.get?_eq hh hw hi hj hgrid hheight hwidth)
    rw [Rows.toValue, writable, writableAll_iff] at hwritable
    have hrow := hwritable (.list row) (List.mem_map_of_mem hrow)
    rw [writable, writableAll_iff] at hrow
    exact hrow _ hentry

theorem IsScalar.error_or_isProper (hv : v.IsScalar) : (∃ kind, v = .error kind) ∨ v.IsProper := by
  cases v with
  | error kind => exact Or.inl ⟨kind, rfl⟩
  | empty | bool b | number n | text s => exact Or.inr ⟨trivial, rfl⟩
  | list items | collection items | reference ref | bearer ref | classified v isArray | bare items
  | bareReference ref => exact hv.elim

/-- The value is the leftmost error of three entries, or else their texts in order. -/
structure Concatenates (x y z v : Value) : Prop where
  first : ∀ kind, x = .error kind → v = .error kind
  second : x.isError = false → ∀ kind, y = .error kind → v = .error kind
  third : x.isError = false → y.isError = false → ∀ kind, z = .error kind → v = .error kind
  texts : x.isError = false → y.isError = false → z.isError = false →
    ∃ s t u, x.WrittenAs s ∧ y.WrittenAs t ∧ z.WrittenAs u ∧ v = .text (s ++ t ++ u)

end Value

theorem concatEntries_of_error_left (kind : ErrorKind) (r : Value) :
    concatEntries (.error kind) r = .ok (.error kind) :=
  unlessError_of_error_left kind r

theorem concatEntries_of_error_right (hl : l.isError = false) (kind : ErrorKind) :
    concatEntries l (.error kind) = .ok (.error kind) :=
  unlessError_of_error_right hl kind

theorem concatEntries_of_texts (hl : l.IsProper) (hr : r.IsProper) (hlw : l.writable = true) (hrw : r.writable = true)
    {s t : String} (hs : l.WrittenAs s) (ht : r.WrittenAs t) : concatEntries l r = .ok (.text (s ++ t)) := by
  rw [concatEntries_of_writtenAs hl hr hs ht, hlw, hrw]
  rfl

/-- Whichever two of three entries are taken first, the result is their leftmost error or else their texts in order. -/
theorem concatEntries_assoc {x y z : Value} (hx : x.IsScalar ∧ x.writable = true) (hy : y.IsScalar ∧ y.writable = true)
    (hz : z.IsScalar ∧ z.writable = true) :
    ∃ xy yz v, concatEntries x y = .ok xy ∧ concatEntries y z = .ok yz ∧ concatEntries xy z = .ok v ∧
      concatEntries x yz = .ok v ∧ x.Concatenates y z v := by
  obtain ⟨hx, hxw⟩ := hx
  obtain ⟨hy, hyw⟩ := hy
  obtain ⟨hz, hzw⟩ := hz
  rcases hx.error_or_isProper with ⟨kind, rfl⟩ | hx
  · -- the error on the left is the result, whatever stands to its right
    have hknows : InfixFamily.concatenation.Knows "&" := rfl
    obtain ⟨yz, hyz⟩ := InfixFamily.exists_entries hknows (Or.inl hy) (Or.inl hz) fun _ =>
      ⟨fun _ => hyw, fun _ => hzw⟩
    exact ⟨.error kind, yz, .error kind, concatEntries_of_error_left kind y, hyz, concatEntries_of_error_left kind z,
      concatEntries_of_error_left kind yz, fun _ h => h, nofun, nofun, nofun⟩
  rcases hy.error_or_isProper with ⟨kind, rfl⟩ | hy
  · refine ⟨.error kind, .error kind, .error kind, concatEntries_of_error_right hx.2 kind,
      concatEntries_of_error_left kind z, concatEntries_of_error_left kind z, concatEntries_of_error_right hx.2 kind,
      ?_, fun _ _ h => h, nofun, nofun⟩
    rintro other rfl
    cases hx.2
  obtain ⟨s, hs⟩ := Value.exists_writtenAs hx
  obtain ⟨t, ht⟩ := Value.exists_writtenAs hy
  have hxy := concatEntries_of_texts hx hy hxw hyw hs ht
  have hfirst : ∀ {v : Value} kind, x = .error kind → v = .error kind := by
    rintro v kind rfl
    cases hx.2
  have hsecond : ∀ {v : Value} kind, y = .error kind → v = .error kind := by
    rintro v kind rfl
    cases hy.2
  rcases hz.error_or_isProper with ⟨kind, rfl⟩ | hz
  · exact ⟨_, .error kind, .error kind, hxy, concatEntries_of_error_right hy.2 kind,
      concatEntries_of_error_right rfl kind, concatEntries_of_error_right hx.2 kind, hfirst, fun _ => hsecond,
      fun _ _ _ h => h, nofun⟩
  obtain ⟨u, hu⟩ := Value.exists_writtenAs hz
  have hyz := concatEntries_of_texts hy hz hyw hzw ht hu
  have hleft := concatEntries_of_texts (l := .text (s ++ t)) ⟨trivial, rfl⟩ hz rfl hzw (.text _) hu
  have hright := concatEntries_of_texts (r := .text (t ++ u)) hx ⟨trivial, rfl⟩ hxw rfl hs (.text _)
  rw [← String.append_assoc] at hright
  refine ⟨_, _, _, hxy, hyz, hleft, hright, hfirst, fun _ => hsecond, ?_, fun _ _ _ => ⟨s, t, u, hs, ht, hu, rfl⟩⟩
  rintro - - kind rfl
  cases hz.2

/-- Let the operands be scalars, or grids of scalars of height 1 or `h` and of width 1 or `w`, in which every integer
can be written. Their concatenation does not depend on which two of them are taken first: at each place it is the
leftmost error of the three entries, or else their texts in order. -/
theorem concatenation_assoc (hh : 0 < h) (hw : 0 < w) (ha : a.Spreads h w) (hb : b.Spreads h w) (hc : c.Spreads h w)
    (haw : a.writable = true) (hbw : b.writable = true) (hcw : c.writable = true) :
    ∃ ab bc v, concatenation (.ofValue a) "&" (.ofValue b) = .ok ab ∧
      concatenation (.ofValue b) "&" (.ofValue c) = .ok bc ∧
      concatenation (.ofValue ab) "&" (.ofValue c) = .ok v ∧ concatenation (.ofValue a) "&" (.ofValue bc) = .ok v ∧
      v.Spreads h w ∧ v.isList = (a.isList || b.isList || c.isList) ∧
      ∀ i < h, ∀ j < w, (a.entryAt i j).Concatenates (b.entryAt i j) (c.entryAt i j) (v.entryAt i j) := by
  have hscalar : ∀ l r v, concatEntries l r = .ok v → v.IsScalar := fun _ _ _ => InfixFamily.isScalar_concatEntries
  have hconcatenation : ∀ l r, concatenation l "&" r = broadcast concatEntries l r := fun l r => if_pos rfl
  simp only [hconcatenation]
  refine broadcast_assoc hh hw hscalar ha hb hc fun i hi j hj => ?_
  exact concatEntries_assoc ⟨ha.isScalar_entryAt hh hw hi hj, ha.writable_entryAt hh hw hi hj haw⟩
    ⟨hb.isScalar_entryAt hh hw hi hj, hb.writable_entryAt hh hw hi hj hbw⟩
    ⟨hc.isScalar_entryAt hh hw hi hj, hc.writable_entryAt hh hw hi hj hcw⟩

/-- A column of nothing over an error, next to a row of a text and a negative zero, next to an integer. -/
theorem concatenation_assoc_column_row :
    let column : Rows := [[.empty], [.error .notAvailable]]
    let row : Rows := [[.text "x", .real (.zero true)]]
    ∃ ab bc v, concatenation (.ofValue column.toValue) "&" (.ofValue row.toValue) = .ok ab ∧
      concatenation (.ofValue row.toValue) "&" (.ofValue (.int (-7))) = .ok bc ∧
      concatenation (.ofValue ab) "&" (.ofValue (.int (-7))) = .ok v ∧
      concatenation (.ofValue column.toValue) "&" (.ofValue bc) = .ok v ∧
      v.entryAt 0 1 = .text "0-7" ∧ v.entryAt 1 0 = .error .notAvailable := by
  intro column row
  have hcolumn : column.toValue.Spreads 2 2 :=
    .grid ⟨2, 1, ⟨rfl, by simp [column]⟩, by simp, by simp⟩ (by simp [Rows.Scalar, column, Value.IsScalar])
  have hrow : row.toValue.Spreads 2 2 :=
    .grid ⟨1, 2, ⟨rfl, by simp [row]⟩, by simp, by simp⟩ (by simp [Rows.Scalar, row, Value.IsScalar])
  have hseven : (Value.int (-7)).Spreads 2 2 := .scalar trivial
  have hwritable : (Value.int (-7)).writable = true := by decide +kernel
  obtain ⟨ab, bc, v, hab, hbc, hv, hv', -, -, hentries⟩ :=
    concatenation_assoc (by decide) (by decide) hcolumn hrow hseven rfl rfl hwritable
  have herror := (hentries 1 (by decide) 0 (by decide)).first .notAvailable rfl
  obtain ⟨s, t, u, hs, ht, hu, htext⟩ := (hentries 0 (by decide) 1 (by decide)).texts rfl rfl rfl
  obtain rfl : s = "" := hs.unique .empty
  have hzero : (Double.zero true).toInt? = some 0 := by decide +kernel
  obtain rfl : t = "0" := ht.unique (.integral (Double.toInt?_eq_some_iff.mp hzero))
  obtain rfl : u = "-7" := hu.unique (.int (-7))
  exact ⟨ab, bc, v, hab, hbc, hv, hv', htext, herror⟩

end GridCalc
