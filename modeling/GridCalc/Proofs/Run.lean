import GridCalc.Proofs.Outcome
import GridCalc.Resolution

/-!
# Outcomes and logs of computations

A computation that only appends to the record (`Run.Appends`) has an outcome and a log that do not depend on what was
recorded before, so that outcomes and logs of such computations compose (`Run.outcome_bind`, `Run.log_bind`).
-/

namespace GridCalc

namespace Record

/-- One record after another. -/
def append (r s : Record) : Record := ⟨r.requests ++ s.requests, r.calls ++ s.calls⟩

instance : Append Record := ⟨append⟩

theorem append_def (r s : Record) : r ++ s = ⟨r.requests ++ s.requests, r.calls ++ s.calls⟩ := rfl

@[simp] theorem append_empty (r : Record) : r ++ empty = r := by simp [append_def, empty]

@[simp] theorem empty_append (r : Record) : empty ++ r = r := by simp [append_def, empty]

theorem append_assoc (r s t : Record) : r ++ s ++ t = r ++ (s ++ t) := by simp [append_def]

end Record

/-! ## Computations -/

namespace Run

variable {α β : Type}

/-- What a computation yields when it goes on from a record. -/
def start (m : Run α) (record : Record) : Except Fault α × Record := m.run.run record

/-- What a computation yields. -/
def outcome (m : Run α) : Except Fault α := (start m .empty).1

/-- What a computation adds to the record. -/
def log (m : Run α) : Record := (start m .empty).2

/-- The computation appends to the record and does not look at it. -/
def Appends (m : Run α) : Prop := ∀ record, start m record = (outcome m, record ++ log m)

@[simp] theorem start_pure (a : α) (record : Record) : start (pure a) record = (.ok a, record) := rfl

@[simp] theorem start_lift (x : Except Fault α) (record : Record) : start (liftM x) record = (x, record) := by
  cases x <;> rfl

@[simp] theorem start_throw (fault : Fault) (record : Record) :
    start (throw fault : Run α) record = (.error fault, record) := rfl

theorem start_bind (m : Run α) (f : α → Run β) (record : Record) :
    start (m >>= f) record = match start m record with
      | (.ok a, record') => start (f a) record'
      | (.error fault, record') => (.error fault, record') := by
  show StateT.run (ExceptT.run (m >>= f)) record = _
  rw [ExceptT.run_bind, StateT.run_bind]
  unfold start
  rcases StateT.run (ExceptT.run m) record with ⟨_ | a, record'⟩ <;> rfl

@[simp] theorem appends_pure (a : α) : Appends (pure a) := fun record => by simp [outcome, log]

@[simp] theorem appends_lift (x : Except Fault α) : Appends (liftM x) := fun record => by simp [outcome, log]

@[simp] theorem appends_throw (fault : Fault) : Appends (throw fault : Run α) := fun record => by simp [outcome, log]

/-- After an appending computation the rest starts over, and its record comes after. -/
theorem start_bind_append {m : Run α} {f : α → Run β} (hm : Appends m) (hf : ∀ a, Appends (f a)) (record : Record) :
    start (m >>= f) record = match outcome m with
      | .ok a => (outcome (f a), record ++ (log m ++ log (f a)))
      | .error fault => (.error fault, record ++ log m) := by
  rw [start_bind, hm record]
  cases outcome m with
  | ok a => simp only [hf a (record ++ log m), Record.append_assoc]
  | error fault => rfl

@[simp] theorem outcome_pure (a : α) : outcome (pure a) = .ok a := rfl

@[simp] theorem outcome_lift (x : Except Fault α) : outcome (liftM x) = x := by simp [outcome]

@[simp] theorem outcome_throw (fault : Fault) : outcome (throw fault : Run α) = .error fault := rfl

@[simp] theorem log_pure (a : α) : log (pure a) = .empty := rfl

@[simp] theorem log_lift (x : Except Fault α) : log (liftM x) = .empty := by simp [log]

theorem outcome_bind {m : Run α} {f : α → Run β} (hm : Appends m) (hf : ∀ a, Appends (f a)) :
    outcome (m >>= f) = outcome m >>= fun a => outcome (f a) := by
  rw [outcome, start_bind_append hm hf]
  cases outcome m <;> rfl

theorem log_bind {m : Run α} {f : α → Run β} (hm : Appends m) (hf : ∀ a, Appends (f a)) :
    log (m >>= f) = match outcome m with
      | .ok a => log m ++ log (f a)
      | .error _ => log m := by
  rw [log, start_bind_append hm hf]
  cases outcome m <;> simp

theorem log_bind_eq_empty {m : Run α} {f : α → Run β} (hm : Appends m) (hf : ∀ a, Appends (f a))
    (h : log m = .empty) (h' : ∀ a, log (f a) = .empty) : log (m >>= f) = .empty := by
  rw [log_bind hm hf]
  cases outcome m <;> simp [h, h']

theorem Appends.bind {m : Run α} {f : α → Run β} (hm : Appends m) (hf : ∀ a, Appends (f a)) : Appends (m >>= f) := by
  intro record
  rw [start_bind_append hm hf, outcome_bind hm hf, log_bind hm hf]
  cases outcome m <;> rfl

theorem Appends.mapM {f : α → Run β} (hf : ∀ a, Appends (f a)) : ∀ items : List α, Appends (items.mapM f)
  | [] => appends_pure _
  | a :: rest => by
    rw [List.mapM_cons]
    exact (hf a).bind fun b => (Appends.mapM hf rest).bind fun _ => appends_pure _

theorem outcome_mapM {f : α → Run β} (hf : ∀ a, Appends (f a)) :
    ∀ items : List α, outcome (items.mapM f) = items.mapM fun a => outcome (f a)
  | [] => rfl
  | a :: rest => by
    rw [List.mapM_cons, List.mapM_cons,
      outcome_bind (hf a) fun b => (Appends.mapM hf rest).bind fun _ => appends_pure _]
    congr 1
    ext1 b
    rw [outcome_bind (Appends.mapM hf rest) fun _ => appends_pure _, outcome_mapM hf rest]
    rfl

end Run

end GridCalc
