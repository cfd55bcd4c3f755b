import GridCalc.Proofs.Alike
import GridCalc.Proofs.Operator.Entries
import GridCalc.Proofs.Reference.Enclosure
import GridCalc.Proofs.Reference.Parsing

/-!
# References on the current sheet

What becomes of references, and of their intersections and spans, when some of them get a sheet: `Value.Qualifies`
relates an operand to the operand after that. A reference that *bears* a sheet gets the new one, a reference that
*drops* it stays on none.

Intersections of related operands end alike (`alike_intersection`), unless some bear a sheet and some drop it: then the
second is disjoint for want of a common sheet. Spans of related operands are equal (`alike_span`).
-/

namespace GridCalc

/-! ## Boxes -/

namespace Box

/-- A box on no sheet, and the same box after the addresses have got a sheet: on that sheet if it may bear one, on none
if it may drop it. -/
inductive Qualifies (title : String) (bears drops : Prop) : Box → Box → Prop
  | bearing {b : Box} :
      bears → b.sheet = none → b.writable = true → Qualifies title bears drops b { b with sheet := some title }
  | dropping {b : Box} : drops → b.sheet = none → b.writable = true → Qualifies title bears drops b b

variable {title : String} {bears drops : Prop} {b b' c c' : Box}

/-- Boxes on one sheet meet on any other one as well. -/
theorem intersect_withSheet (sheet : Option String) (hb : b.sheet = none) (hc : c.sheet = none)
    (hbw : b.writable = true) (hcw : c.writable = true) :
    (b.intersect c = .ok (b.common c) ∧ intersect { b with sheet } { c with sheet } =
        .ok { b.common c with sheet }) ∨
    (b.intersect c = .error (.formula (.disjoint b c)) ∧ intersect { b with sheet } { c with sheet } =
        .error (.formula (.disjoint { b with sheet } { c with sheet }))) := by
  have hmeets : meets { b with sheet } { c with sheet } = b.meets c := by simp [meets, hb, hc]
  cases h : b.meets c with
  | true => exact Or.inl ⟨intersect_of_meets h, intersect_of_meets (hmeets.trans h)⟩
  | false =>
    have hbw' : ({ b with sheet } : Box).writable = true := hbw
    have hcw' : ({ c with sheet } : Box).writable = true := hcw
    exact Or.inr ⟨intersect_of_not_meets hbw hcw h, intersect_of_not_meets hbw' hcw' (hmeets.trans h)⟩

/-- The common part is on the sheet if both boxes are, and on none if neither is; otherwise there is no common part. -/
theorem alike_intersect (hb : Qualifies title bears drops b b') (hc : Qualifies title bears drops c c') :
    Alike (bears ∧ drops) (Qualifies title bears drops) (b.intersect c) (b'.intersect c') := by
  cases hb with
  | bearing hbears hbs hbw =>
    cases hc with
    | bearing _ hcs hcw =>
      rcases intersect_withSheet (some title) hbs hcs hbw hcw with ⟨h, h'⟩ | ⟨h, h'⟩
      · rw [h, h']
        exact .ok (.bearing hbears hbs (writable_common hbw hcw))
      · rw [h, h']
        exact .formula rfl
    | dropping hdrops hcs hcw =>
      rw [intersect_of_not_meets (b := { b with sheet := some title }) hbw hcw (by simp [meets, hcs])]
      exact .null ⟨hbears, hdrops⟩ rfl
  | dropping hdrops hbs hbw =>
    cases hc with
    | bearing hbears hcs hcw =>
      rw [intersect_of_not_meets (c := { c with sheet := some title }) hbw hcw (by simp [meets, hbs])]
      exact .null ⟨hbears, hdrops⟩ rfl
    | dropping _ hcs hcw =>
      refine .refl fun d hd => ?_
      cases h : b.meets c with
      | true =>
        rw [intersect_of_meets h] at hd
        cases hd
        exact .dropping hdrops hbs (writable_common hbw hcw)
      | false =>
        rw [intersect_of_not_meets hbw hcw h] at hd
        cases hd

/-- A span does not look at sheets. -/
theorem foldl_span_congr {rest rest' : List Box} (h : List.Forall₂ (Qualifies title bears drops) rest rest') :
    ∀ b : Box, b.writable = true → rest.foldl span b = rest'.foldl span b ∧
      (rest.foldl span b).writable = true := by
  induction h with
  | nil => exact fun b hw => ⟨rfl, hw⟩
  | @cons c c' rest rest' hc _ ih =>
    intro b hw
    cases hc with
    | bearing _ _ hcw => exact ih _ (writable_span hw hcw)
    | dropping _ _ hcw => exact ih _ (writable_span hw hcw)

theorem toReference_withSheet (b : Box) (sheet : Option String) :
    toReference { b with sheet } = b.toReference.onSheet sheet := by
  unfold toReference
  dsimp only
  split <;> rfl

end Box

theorem Reference.box_onSheet (ref : Reference) (sheet : Option String) :
    (ref.onSheet sheet).box = { ref.box with sheet } := by
  cases ref <;> rfl

/-! ## Operands -/

/-- An operand before and after the addresses have got a sheet. -/
inductive Value.Qualifies (title : String) (bears drops : Prop) : Value → Value → Prop
  | plain {v : Value} : v.Plain → Qualifies title bears drops v v
  | collection {items : List Value} :
      Value.PlainAll items → Qualifies title bears drops (.collection items) (.collection items)
  | bearing {ref : Reference} : bears → ref.sheet = none → ref.writable = true →
      Qualifies title bears drops (.reference ref) (.reference (ref.onSheet (some title)))
  | dropping {ref : Reference} : drops → ref.sheet = none → ref.writable = true →
      Qualifies title bears drops (.reference ref) (.reference ref)

section

variable {title : String} {bears drops P : Prop}

theorem Value.Qualifies.mono {bears' drops' : Prop} {v v' : Value} (h : Value.Qualifies title bears drops v v')
    (hbears : bears → bears') (hdrops : drops → drops') : Value.Qualifies title bears' drops' v v' := by
  cases h with
  | plain hv => exact .plain hv
  | collection hitems => exact .collection hitems
  | bearing hb hs hw => exact .bearing (hbears hb) hs hw
  | dropping hd hs hw => exact .dropping (hdrops hd) hs hw

/-- The reference of a box, before and after. -/
theorem Box.Qualifies.toReference {b b' : Box} (h : Box.Qualifies title bears drops b b') :
    Value.Qualifies title bears drops (.reference b.toReference) (.reference b'.toReference) := by
  cases h with
  | bearing hb hs hw =>
    rw [Box.toReference_withSheet b (some title)]
    exact .bearing hb (by rw [Box.sheet_toReference, hs]) (Box.writable_toReference hw)
  | dropping hd hs hw => exact .dropping hd (by rw [Box.sheet_toReference, hs]) (Box.writable_toReference hw)

theorem alike_box {v v' : Value} (h : Value.Qualifies title bears drops v v') :
    Alike P (Box.Qualifies title bears drops) v.box v'.box := by
  cases h with
  | plain hv =>
    refine .refl fun b hb => ?_
    cases v <;> first | exact hv.elim | cases hb
  | collection => exact .refl fun b hb => by cases hb
  | @bearing ref hb hs hw =>
    rw [Value.box, Value.box, Reference.box_onSheet]
    exact .ok (.bearing hb ((Reference.sheet_box ref).trans hs) (Reference.writable_box hw))
  | @dropping ref hd hs hw => exact .ok (.dropping hd ((Reference.sheet_box ref).trans hs) (Reference.writable_box hw))

variable {operands operands' : List Value}

theorem alike_operandBoxes (operator : RangeOperator)
    (h : List.Forall₂ (Value.Qualifies title bears drops) operands operands') :
    Alike P (fun boxes boxes' => Box.Qualifies title bears drops boxes.1 boxes'.1 ∧
        List.Forall₂ (Box.Qualifies title bears drops) boxes.2 boxes'.2)
      (operandBoxes operator operands) (operandBoxes operator operands') := by
  cases h with
  | nil => exact .refl fun boxes hboxes => by cases hboxes
  | cons hfirst hrest =>
    refine (alike_box hfirst).bind fun b b' hb => Alike.bind (Alike.mapM ?_) fun bs bs' hbs => .ok ⟨hb, hbs⟩
    exact hrest.imp fun v v' => alike_box

theorem alike_intersection (h : List.Forall₂ (Value.Qualifies title bears drops) operands operands') :
    Alike (bears ∧ drops) (Value.Qualifies title bears drops) (Value.reference <$> intersection operands)
      (Value.reference <$> intersection operands') := by
  unfold intersection
  refine Alike.map (R := fun ref ref' => Value.Qualifies title bears drops (.reference ref) (.reference ref')) ?_
    fun _ _ href => href
  refine (alike_operandBoxes .intersect h).bind ?_
  rintro ⟨b, rest⟩ ⟨b', rest'⟩ ⟨hb, hrest⟩
  have hstep : ∀ c c' d d', Box.Qualifies title bears drops c c' → Box.Qualifies title bears drops d d' →
      Alike (bears ∧ drops) (Box.Qualifies title bears drops) (c.intersect d) (c'.intersect d') :=
    fun _ _ _ _ => Box.alike_intersect
  exact (Alike.foldlM hstep hrest hb).bind fun d d' hd => .ok hd.toReference

theorem alike_span (h : List.Forall₂ (Value.Qualifies title bears drops) operands operands') :
    Alike P (Value.Qualifies title False True) (Value.reference <$> span operands)
      (Value.reference <$> span operands') := by
  unfold span
  refine Alike.map (R := fun ref ref' => Value.Qualifies title False True (.reference ref) (.reference ref')) ?_
    fun _ _ href => href
  refine (alike_operandBoxes .span h).bind ?_
  rintro ⟨b, rest⟩ ⟨b', rest'⟩ ⟨hb, hrest⟩
  have hstart : ({ b' with sheet := none } : Box) = { b with sheet := none } ∧ b.writable = true := by
    cases hb with
    | bearing _ _ hw => exact ⟨rfl, hw⟩
    | dropping _ _ hw => exact ⟨rfl, hw⟩
  obtain ⟨heq, hw⟩ := Box.foldl_span_congr hrest { b with sheet := none } hstart.2
  show Alike P _ (.ok (rest.foldl Box.span { b with sheet := none }).toRange)
    (.ok (rest'.foldl Box.span { b' with sheet := none }).toRange)
  rw [hstart.1, ← heq]
  exact .ok (.dropping trivial (Box.sheet_foldl_span rest rfl) (Box.writable_toRange hw))

end

end GridCalc
