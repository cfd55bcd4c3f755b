import Mathlib.Data.List.Forall2
import GridCalc.Fault

/-!
# Outcomes

Computations that may be at fault: when they are `ok` (`bind_eq_ok_iff`, `mapM_eq_ok_iff`), which results and faults
they end in (`EndsIn`), and when they abort a formula. Only a formula error does (`Aborts`); sequences abort only where
one of their parts does (`not_aborts_bind`, `not_aborts_mapM`).
-/

namespace GridCalc

variable {α β : Type}

@[simp] theorem ok_bind (a : α) (f : α → Except Fault β) : (Except.ok a >>= f) = f a := rfl

@[simp] theorem error_bind (fault : Fault) (f : α → Except Fault β) :
    ((Except.error fault : Except Fault α) >>= f) = .error fault := rfl

@[simp] theorem map_ok (f : α → β) (a : α) : f <$> (Except.ok a : Except Fault α) = .ok (f a) := rfl

@[simp] theorem map_error (f : α → β) (fault : Fault) :
    f <$> (Except.error fault : Except Fault α) = .error fault := rfl

@[simp] theorem pure_eq_ok (a : α) : (pure a : Except Fault α) = .ok a := rfl

theorem bind_eq_ok_iff {x : Except Fault α} {f : α → Except Fault β} {b : β} :
    x >>= f = .ok b ↔ ∃ a, x = .ok a ∧ f a = .ok b := by
  cases x <;> simp

theorem map_eq_ok_iff {f : α → β} {x : Except Fault α} {b : β} : f <$> x = .ok b ↔ ∃ a, x = .ok a ∧ f a = b := by
  cases x <;> simp

theorem map_eq_error_iff {f : α → β} {x : Except Fault α} {fault : Fault} :
    f <$> x = .error fault ↔ x = .error fault := by
  cases x <;> simp

/-- A traversal is `ok` iff it is so at each item. -/
theorem mapM_eq_ok_iff {f : α → Except Fault β} : ∀ {items : List α} {images : List β},
    items.mapM f = .ok images ↔ List.Forall₂ (fun a b => f a = .ok b) items images
  | [], images => by cases images <;> simp
  | a :: rest, [] => by simp [List.mapM_cons, bind_eq_ok_iff]
  | a :: rest, b :: images => by
    rw [List.mapM_cons, List.forall₂_cons, ← mapM_eq_ok_iff]
    simp [bind_eq_ok_iff]

/-- Traversals that do the same at each item are the same. -/
theorem mapM_congr {f g : α → Except Fault β} : ∀ {items : List α}, (∀ a ∈ items, f a = g a) →
    items.mapM f = items.mapM g
  | [], _ => rfl
  | a :: rest, h => by
    obtain ⟨ha, hrest⟩ := List.forall_mem_cons.mp h
    rw [List.mapM_cons, List.mapM_cons, ha, mapM_congr hrest]

/-- A traversal of the images of a traversal is one traversal of the items. -/
theorem mapM_images {γ : Type} {f : α → Except Fault β} {g : β → Except Fault γ} {h : α → Except Fault γ} :
    ∀ {items : List α} {images : List β}, items.mapM f = .ok images → (∀ a ∈ items, (f a >>= g) = h a) →
      images.mapM g = items.mapM h
  | [], images, himages, _ => by
    cases himages
    rfl
  | a :: rest, images, himages, hcomp => by
    obtain ⟨ha, hrest⟩ := List.forall_mem_cons.mp hcomp
    rw [List.mapM_cons] at himages
    obtain ⟨b, hb, himages⟩ := bind_eq_ok_iff.mp himages
    obtain ⟨images', himages', hcons⟩ := bind_eq_ok_iff.mp himages
    cases hcons
    rw [hb, ok_bind] at ha
    rw [List.mapM_cons, List.mapM_cons, ha, mapM_images himages' hrest]

theorem length_of_mapM_eq_ok {f : α → Except Fault β} {items : List α} {images : List β}
    (h : items.mapM f = .ok images) : images.length = items.length :=
  (mapM_eq_ok_iff.mp h).length_eq.symm

/-- Each item has an image. -/
theorem exists_of_mapM_eq_ok {f : α → Except Fault β} {items : List α} {images : List β} {a : α}
    (h : items.mapM f = .ok images) (ha : a ∈ items) : ∃ b ∈ images, f a = .ok b := by
  have hall := mapM_eq_ok_iff.mp h
  clear h
  induction hall with
  | nil => cases ha
  | @cons c b _ images hcb _ ih =>
    rcases List.mem_cons.mp ha with rfl | ha
    · exact ⟨b, List.mem_cons_self, hcb⟩
    · obtain ⟨b', hb', hfa⟩ := ih ha
      exact ⟨b', List.mem_cons_of_mem _ hb', hfa⟩

/-- A traversal is `ok` where each item has an image. -/
theorem exists_mapM_eq_ok {f : α → Except Fault β} {R : α → β → Prop} : ∀ {items : List α},
    (∀ a ∈ items, ∃ b, f a = .ok b ∧ R a b) → ∃ images, items.mapM f = .ok images ∧ List.Forall₂ R items images
  | [], _ => ⟨[], rfl, .nil⟩
  | a :: rest, h => by
    obtain ⟨⟨b, hb, hab⟩, hrest⟩ := List.forall_mem_cons.mp h
    obtain ⟨images, himages, hall⟩ := exists_mapM_eq_ok hrest
    exact ⟨b :: images, by rw [List.mapM_cons, hb, himages]; rfl, .cons hab hall⟩

theorem exists_mapM_of_forall {f : α → Except Fault β} {items : List α} (h : ∀ a ∈ items, ∃ b, f a = .ok b) :
    ∃ images, items.mapM f = .ok images := by
  obtain ⟨images, himages, -⟩ := exists_mapM_eq_ok (R := fun _ _ => True) fun a ha => by
    obtain ⟨b, hb⟩ := h a ha
    exact ⟨b, hb, trivial⟩
  exact ⟨images, himages⟩

/-- What a traversal yields holds of all images if each item yields only such. -/
theorem forall_mem_of_mapM {f : α → Except Fault β} {P : β → Prop} {items : List α} {images : List β}
    (h : items.mapM f = .ok images) (hf : ∀ a ∈ items, ∀ b, f a = .ok b → P b) : ∀ b ∈ images, P b := by
  have hall := mapM_eq_ok_iff.mp h
  clear h
  induction hall with
  | nil => simp
  | cons hab _ ih =>
    obtain ⟨hfirst, hrest⟩ := List.forall_mem_cons.mp hf
    exact List.forall_mem_cons.mpr ⟨hfirst _ hab, ih hrest⟩

/-! ## Results and faults of one kind -/

/-- The fault is a formula error. -/
def Fault.IsFormula (fault : Fault) : Prop := ∃ cause, fault = .formula cause

/-- The fault is an input that is invalid. -/
def Fault.IsInvalid (fault : Fault) : Prop := ∃ cause, fault = .invalid cause

theorem Fault.isInvalid_reported (cause : InvalidInput) : (Fault.invalid cause).reported.IsInvalid := by
  unfold reported
  split <;> exact ⟨_, rfl⟩

/-- The computation ends in a result of one kind or in a fault of another. -/
def EndsIn (P : α → Prop) (E : Fault → Prop) : Except Fault α → Prop
  | .ok a => P a
  | .error fault => E fault

namespace EndsIn

variable {P P' : α → Prop} {Q : β → Prop} {E : Fault → Prop} {x : Except Fault α}

theorem of_eq_ok {a : α} (h : EndsIn P E x) (hx : x = .ok a) : P a := by
  rw [hx] at h
  exact h

theorem mono (h : EndsIn P E x) (hP : ∀ a, P a → P' a) : EndsIn P' E x := by
  cases x with
  | ok a => exact hP a h
  | error fault => exact h

theorem mono_fault {E' : Fault → Prop} (h : EndsIn P E x) (hE : ∀ fault, E fault → E' fault) : EndsIn P E' x := by
  cases x with
  | ok a => exact h
  | error fault => exact hE fault h

theorem exists_eq_ok (h : EndsIn P E x) (hE : ∀ fault, ¬E fault) : ∃ a, x = .ok a ∧ P a := by
  cases x with
  | ok a => exact ⟨a, rfl, h⟩
  | error fault => exact absurd h (hE fault)

theorem bind {f : α → Except Fault β} (hx : EndsIn P E x) (hf : ∀ a, P a → EndsIn Q E (f a)) :
    EndsIn Q E (x >>= f) := by
  cases x with
  | ok a => exact hf a hx
  | error fault => exact hx

theorem map {f : α → β} (hx : EndsIn P E x) (hf : ∀ a, P a → Q (f a)) : EndsIn Q E (f <$> x) := by
  rw [map_eq_pure_bind]
  exact hx.bind hf

theorem mapM {R : α → β → Prop} {f : α → Except Fault β} : ∀ {items : List α},
    (∀ a ∈ items, EndsIn (R a) E (f a)) → EndsIn (List.Forall₂ R items) E (items.mapM f)
  | [], _ => .nil
  | a :: rest, h => by
    obtain ⟨ha, hrest⟩ := List.forall_mem_cons.mp h
    rw [List.mapM_cons]
    exact ha.bind fun b hb => (mapM hrest).bind fun bs hbs => .cons hb hbs

/-- A traversal of items that all end in results of one kind. -/
theorem forall_mapM {f : α → Except Fault β} {items : List α} (h : ∀ a ∈ items, EndsIn Q E (f a)) :
    EndsIn (fun images => images.length = items.length ∧ ∀ b ∈ images, Q b) E (items.mapM f) := by
  have hall := EndsIn.mapM (R := fun _ => Q) h
  cases himages : items.mapM f with
  | error fault =>
    rw [himages] at hall
    exact hall
  | ok images =>
    exact ⟨length_of_mapM_eq_ok himages, forall_mem_of_mapM himages fun a ha _ hb => (h a ha).of_eq_ok hb⟩

end EndsIn

/-! ## Aborting a formula -/

/-- The outcome is a formula error, which ends the evaluation of a formula. -/
def Aborts (x : Except Fault α) : Prop := ∃ cause, x = .error (.formula cause)

@[simp] theorem not_aborts_ok (a : α) : ¬Aborts (Except.ok a) := fun ⟨_, h⟩ => by cases h

theorem EndsIn.not_aborts {P : α → Prop} {x : Except Fault α} (h : EndsIn P Fault.IsInvalid x) : ¬Aborts x := by
  rintro ⟨cause, rfl⟩
  obtain ⟨invalid, hinvalid⟩ := h
  cases hinvalid

theorem not_aborts_bind {x : Except Fault α} {f : α → Except Fault β} (hx : ¬Aborts x)
    (hf : ∀ a, x = .ok a → ¬Aborts (f a)) : ¬Aborts (x >>= f) := by
  cases x with
  | ok a => exact hf a rfl
  | error fault =>
    rintro ⟨cause, h⟩
    cases h
    exact hx ⟨cause, rfl⟩

theorem not_aborts_map {f : α → β} {x : Except Fault α} (hx : ¬Aborts x) : ¬Aborts (f <$> x) := by
  rw [map_eq_pure_bind]
  exact not_aborts_bind hx fun _ _ => not_aborts_ok _

theorem not_aborts_mapM {f : α → Except Fault β} : ∀ {items : List α}, (∀ a ∈ items, ¬Aborts (f a)) →
    ¬Aborts (items.mapM f)
  | [], _ => not_aborts_ok _
  | a :: rest, h => by
    obtain ⟨ha, hrest⟩ := List.forall_mem_cons.mp h
    rw [List.mapM_cons]
    exact not_aborts_bind ha fun _ _ => not_aborts_bind (not_aborts_mapM hrest) fun _ _ => not_aborts_ok _

/-- A fault that cannot be written is reported as another one, which is no formula error either. -/
theorem not_aborts_raise {fault : Fault} (h : ∀ cause, fault ≠ .formula cause) :
    ¬Aborts (Fault.raise fault : Except Fault α) := by
  rintro ⟨cause, hcause⟩
  unfold Fault.raise Fault.reported at hcause
  split at hcause
  · exact h cause (Except.error.inj hcause)
  · cases hcause

end GridCalc
