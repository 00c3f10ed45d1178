import ContentEngine.Proofs.Outcome
import ContentEngine.Store.Basic

/-!
# Running actions

One equation for each way to build an action, which takes `Action.run` to the parts of the action. A
part that ends in a fault ends the whole, and what it has changed stays changed. An action whose
parts only read only reads (`Action.IsReadOnly`). An action that changes the state in one part, and
in which nothing can go wrong after that, leaves no trace of a fault (`Action.FailsCleanly`).
-/

namespace ContentEngine

namespace Action

variable {σ α β : Type}

@[simp] theorem run_pure (a : α) (s : σ) : (pure a : Action σ α).run s = (.ok a, s) := rfl

@[simp] theorem run_throw (f : Fault) (s : σ) : (throw f : Action σ α).run s = (.error f, s) := rfl

@[simp] theorem run_get (s : σ) : (get : Action σ σ).run s = (.ok s, s) := rfl

@[simp] theorem run_modify (f : σ → σ) (s : σ) :
    (modify f : Action σ Unit).run s = (.ok (), f s) := rfl

/-- What follows a part sees the result and the state that the part leaves behind. -/
@[simp] theorem run_bind (x : Action σ α) (f : α → Action σ β) (s : σ) :
    (x >>= f).run s =
      match x.run s with
      | (.ok a, s') => (f a).run s'
      | (.error e, s') => (.error e, s') := by
  simp only [Action.run, ExceptT.run_bind, StateT.run_bind]
  rcases StateT.run (ExceptT.run x) s with ⟨a | a, s'⟩ <;> rfl

@[simp] theorem run_map (g : α → β) (x : Action σ α) (s : σ) :
    (g <$> x).run s = ((x.run s).1.map g, (x.run s).2) := by
  rw [map_eq_pure_bind, run_bind]
  rcases h : x.run s with ⟨a | a, s'⟩ <;> rfl

/-- An action whose result does not matter. -/
@[simp] theorem run_discard (x : Action σ α) (s : σ) :
    (discard x : Action σ PUnit).run s = ((x.run s).1.map fun _ => PUnit.unit, (x.run s).2) :=
  run_map _ x s

/-- An outcome that is found without looking at the state. -/
@[simp] theorem run_lift (x : Outcome α) (s : σ) : (liftM x : Action σ α).run s = (x, s) := by
  cases x <;> rfl

/-- A fault is caught in the state that it leaves behind. -/
@[simp] theorem run_tryCatch (x : Action σ α) (handler : Fault → Action σ α) (s : σ) :
    (tryCatch x handler).run s =
      match x.run s with
      | (.ok a, s') => (.ok a, s')
      | (.error e, s') => (handler e).run s' := by
  simp only [Action.run, ExceptT.run_tryCatch, StateT.run_bind]
  rcases StateT.run (ExceptT.run x) s with ⟨a | a, s'⟩ <;> rfl

/-! ### Actions that have a result -/

theorem run_bind_eq_ok_iff {x : Action σ α} {f : α → Action σ β} {s s' : σ} {b : β} :
    (x >>= f).run s = (.ok b, s') ↔
      ∃ a t, x.run s = (.ok a, t) ∧ (f a).run t = (.ok b, s') := by
  rw [run_bind]
  constructor
  · intro h
    rcases hx : x.run s with ⟨e | a, t⟩
    · rw [hx] at h
      cases h
    · rw [hx] at h
      exact ⟨a, t, rfl, h⟩
  · rintro ⟨a, t, hx, h⟩
    rw [hx]
    exact h

theorem run_lift_eq_ok_iff {x : Outcome α} {s s' : σ} {a : α} :
    (liftM x : Action σ α).run s = (.ok a, s') ↔ x = .ok a ∧ s = s' := by
  rw [run_lift, Prod.mk.injEq]

theorem run_pure_eq_ok_iff {s s' : σ} {a b : α} :
    (pure a : Action σ α).run s = (.ok b, s') ↔ a = b ∧ s = s' := by
  rw [run_pure, Prod.mk.injEq, Except.ok.injEq]

/-- An action has a result exactly if each of its parts has one, where it comes to it. -/
theorem hasResult_run_bind {x : Action σ α} {f : α → Action σ β} {s : σ} :
    Outcome.HasResult ((x >>= f).run s).1 ↔
      ∃ a, (x.run s).1 = .ok a ∧ Outcome.HasResult ((f a).run (x.run s).2).1 := by
  rw [run_bind]
  rcases x.run s with ⟨e | a, s'⟩ <;> simp

/-! ### Actions that only read -/

/-- Whether an action leaves every state as it is. -/
def IsReadOnly (x : Action σ α) : Prop :=
  ∀ s, (x.run s).2 = s

namespace IsReadOnly

variable {x : Action σ α} {f : α → Action σ β}

theorem run_eq (h : IsReadOnly x) (s : σ) : x.run s = ((x.run s).1, s) :=
  Prod.ext rfl (h s)

theorem pure (a : α) : IsReadOnly (Pure.pure a : Action σ α) := fun _ => rfl

theorem throw (e : Fault) : IsReadOnly (MonadExcept.throw e : Action σ α) := fun _ => rfl

theorem get : IsReadOnly (MonadState.get : Action σ σ) := fun _ => rfl

theorem lift (x : Outcome α) : IsReadOnly (liftM x : Action σ α) := fun s => by rw [run_lift]

theorem bind (hx : IsReadOnly x) (hf : ∀ a, IsReadOnly (f a)) : IsReadOnly (x >>= f) := by
  intro s
  rw [run_bind, hx.run_eq s]
  cases (x.run s).1 with
  | error e => rfl
  | ok a => exact hf a s

/-- What only reads leaves behind what has been there before it. -/
theorem snd_run_bind (hf : ∀ a, IsReadOnly (f a)) (s : σ) :
    ((x >>= f).run s).2 = (x.run s).2 := by
  rw [run_bind]
  rcases x.run s with ⟨e | a, s'⟩
  · rfl
  · exact hf a s'

theorem tryCatch (hx : IsReadOnly x) {handler : Fault → Action σ α}
    (hhandler : ∀ e, IsReadOnly (handler e)) : IsReadOnly (MonadExcept.tryCatch x handler) := by
  intro s
  have hrun := run_tryCatch x handler s
  rw [hx.run_eq s] at hrun
  cases h : (x.run s).1 with
  | error e =>
    rw [h] at hrun
    exact (congrArg Prod.snd hrun).trans (hhandler e s)
  | ok a =>
    rw [h] at hrun
    exact congrArg Prod.snd hrun

end IsReadOnly

/-! ### Properties that go over from parts to the whole -/

/-- Whether actions that are combined of actions with some property have it as well. -/
structure IsCompositional (P : ∀ α : Type, Action σ α → Prop) : Prop where
  pure : ∀ {α : Type} (a : α), P α (Pure.pure a)
  throw : ∀ {α : Type} (e : Fault), P α (MonadExcept.throw e)
  lift : ∀ {α : Type} (x : Outcome α), P α (liftM x)
  bind : ∀ {α β : Type} {x : Action σ α} {f : α → Action σ β}, P α x → (∀ a, P β (f a)) →
    P β (x >>= f)

theorem isCompositional_isReadOnly :
    IsCompositional fun (α : Type) (x : Action σ α) => IsReadOnly x :=
  ⟨.pure, .throw, .lift, .bind⟩

/-! ### Actions that leave no trace of a fault -/

/-- Whether an action that ends in a fault leaves a state as it is. -/
def FailsCleanly (x : Action σ α) (s : σ) : Prop :=
  ∀ e, (x.run s).1 = .error e → (x.run s).2 = s

namespace FailsCleanly

variable {x : Action σ α} {f : α → Action σ β} {s : σ}

theorem of_isReadOnly (h : IsReadOnly x) (s : σ) : FailsCleanly x s := fun _ _ => h s

theorem of_hasResult (h : Outcome.HasResult (x.run s).1) : FailsCleanly x s := by
  intro e he
  rw [he] at h
  exact absurd h (Outcome.not_hasResult_error e)

/-- Reading first does no harm. -/
theorem bind_of_isReadOnly (hx : IsReadOnly x)
    (hf : ∀ a, (x.run s).1 = .ok a → FailsCleanly (f a) s) : FailsCleanly (x >>= f) s := by
  intro e
  rw [run_bind, hx.run_eq s]
  cases h : (x.run s).1 with
  | error e' => exact fun _ => rfl
  | ok a => exact hf a h e

/-- After a part that leaves no trace of a fault comes one in which nothing can go wrong. -/
theorem bind_of_hasResult (hx : FailsCleanly x s)
    (hf : ∀ a s', x.run s = (.ok a, s') → Outcome.HasResult ((f a).run s').1) :
    FailsCleanly (x >>= f) s := by
  intro e
  rw [run_bind]
  rcases h : x.run s with ⟨e' | a, s'⟩
  · intro _
    have hsame := hx e'
    rw [h] at hsame
    exact hsame rfl
  · intro he
    have hresult := hf a s' h
    simp only [he, Outcome.not_hasResult_error] at hresult

end FailsCleanly

end Action

end ContentEngine
