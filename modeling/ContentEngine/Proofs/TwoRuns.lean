import Mathlib.Data.List.Forall2
import ContentEngine.Proofs.Action

/-!
# Two runs side by side

Two computations agree if both end in one fault or both have a result, and the results are related
(`Outcome.Agree`). Two actions, each of which starts from a state of its own, agree if in addition
the states that they leave behind are related (`Action.Agree`). Steps that agree one by one agree as
a whole.
-/

namespace ContentEngine

namespace Outcome

variable {α α' β β' : Type} {R : α → α' → Prop} {S : β → β' → Prop}

/-- Whether two computations end in one fault or have related results. -/
inductive Agree (R : α → α' → Prop) : Outcome α → Outcome α' → Prop
  | fault (e : Fault) : Agree R (.error e) (.error e)
  | result {a : α} {a' : α'} : R a a' → Agree R (.ok a) (.ok a')

namespace Agree

theorem refl {R : α → α → Prop} (x : Outcome α) (h : ∀ a, x = .ok a → R a a) : Agree R x x := by
  cases x with
  | error e => exact .fault e
  | ok a => exact .result (h a rfl)

theorem of_eq {R : α → α → Prop} {x x' : Outcome α} (h : x = x') (hR : ∀ a, R a a) :
    Agree R x x' :=
  h ▸ refl x fun a _ => hR a

theorem mono {R' : α → α' → Prop} {x : Outcome α} {x' : Outcome α'} (h : Agree R x x')
    (hR : ∀ a a', R a a' → R' a a') : Agree R' x x' := by
  cases h with
  | fault e => exact .fault e
  | result ha => exact .result (hR _ _ ha)

theorem symm {x : Outcome α} {x' : Outcome α'} (h : Agree R x x') :
    Agree (fun a' a => R a a') x' x := by
  cases h with
  | fault e => exact .fault e
  | result ha => exact .result ha

theorem trans {γ : Type} {R' : α' → γ → Prop} {x : Outcome α} {x' : Outcome α'} {x'' : Outcome γ}
    (h : Agree R x x') (h' : Agree R' x' x'') :
    Agree (fun a c => ∃ b, R a b ∧ R' b c) x x'' := by
  cases h with
  | fault e =>
    cases h'
    exact .fault e
  | result ha =>
    cases h' with
    | result hb => exact .result ⟨_, ha, hb⟩

theorem bind {x : Outcome α} {x' : Outcome α'} {f : α → Outcome β} {f' : α' → Outcome β'}
    (h : Agree R x x') (hf : ∀ a a', R a a' → Agree S (f a) (f' a')) :
    Agree S (x >>= f) (x' >>= f') := by
  cases h with
  | fault e => exact .fault e
  | result ha => exact hf _ _ ha

/-- Two lists of which the items agree one by one. -/
theorem mapM {f : α → Outcome β} {f' : α' → Outcome β'} {xs : List α} {xs' : List α'}
    (h : List.Forall₂ (fun a a' => Agree S (f a) (f' a')) xs xs') :
    Agree (List.Forall₂ S) (xs.mapM f) (xs'.mapM f') := by
  induction h with
  | nil => exact .result .nil
  | cons hfirst _ ih =>
    rw [List.mapM_cons, List.mapM_cons]
    exact hfirst.bind fun b b' hb => ih.bind fun bs bs' hbs => .result (.cons hb hbs)

end Agree

end Outcome

namespace Action

variable {σ σ' α α' β β' : Type} {T : σ → σ' → Prop} {R : α → α' → Prop} {S : β → β' → Prop}

/-- Whether two actions, from states of their own, end in one fault or have related results, and
leave related states behind. -/
def Agree (T : σ → σ' → Prop) (R : α → α' → Prop) (x : Action σ α) (x' : Action σ' α') (s : σ)
    (s' : σ') : Prop :=
  Outcome.Agree R (x.run s).1 (x'.run s').1 ∧ T (x.run s).2 (x'.run s').2

/-- Whether two states are still the given ones. -/
def Unchanged (s : σ) (s' : σ') (t : σ) (t' : σ') : Prop :=
  s = t ∧ s' = t'

namespace Agree

theorem mono {s : σ} {s' : σ'} {x : Action σ α} {x' : Action σ' α'} {T' : σ → σ' → Prop}
    {R' : α → α' → Prop} (h : Agree T R x x' s s') (hT : ∀ t t', T t t' → T' t t')
    (hR : ∀ a a', R a a' → R' a a') : Agree T' R' x x' s s' :=
  ⟨h.1.mono hR, hT _ _ h.2⟩

theorem pure {s : σ} {s' : σ'} {a : α} {a' : α'} (ha : R a a') (hs : T s s') :
    Agree T R (Pure.pure a) (Pure.pure a') s s' :=
  ⟨.result ha, hs⟩

theorem throw {s : σ} {s' : σ'} (e : Fault) (hs : T s s') :
    Agree T R (MonadExcept.throw e) (MonadExcept.throw e) s s' :=
  ⟨.fault e, hs⟩

theorem lift {s : σ} {s' : σ'} {x : Outcome α} {x' : Outcome α'} (hx : Outcome.Agree R x x')
    (hs : T s s') : Agree T R (liftM x : Action σ α) (liftM x' : Action σ' α') s s' := by
  rw [Agree, run_lift, run_lift]
  exact ⟨hx, hs⟩

/-- What follows two actions may relate the states in another way, which goes for a fault as well. -/
theorem bind_mono {T' : σ → σ' → Prop} {s : σ} {s' : σ'} {x : Action σ α} {x' : Action σ' α'}
    {f : α → Action σ β} {f' : α' → Action σ' β'} (h : Agree T R x x' s s')
    (hT : ∀ t t', T t t' → T' t t')
    (hf : ∀ a a' t t', R a a' → T t t' → Agree T' S (f a) (f' a') t t') :
    Agree T' S (x >>= f) (x' >>= f') s s' := by
  rw [Agree, run_bind, run_bind]
  obtain ⟨hresult, hstate⟩ := h
  rcases hx : x.run s with ⟨e | a, t⟩ <;> rcases hx' : x'.run s' with ⟨e' | a', t'⟩ <;>
    rw [hx, hx'] at hresult hstate <;> cases hresult
  · exact ⟨.fault e, hT _ _ hstate⟩
  · next ha => exact hf a a' t t' ha hstate

theorem bind {s : σ} {s' : σ'} {x : Action σ α} {x' : Action σ' α'} {f : α → Action σ β}
    {f' : α' → Action σ' β'} (h : Agree T R x x' s s')
    (hf : ∀ a a' t t', R a a' → T t t' → Agree T S (f a) (f' a') t t') :
    Agree T S (x >>= f) (x' >>= f') s s' :=
  h.bind_mono (fun _ _ ht => ht) hf

/-- What follows two actions that leave the states as they are starts from the same states. -/
theorem bind_of_unchanged {s : σ} {s' : σ'} {x : Action σ α} {x' : Action σ' α'}
    {f : α → Action σ β} {f' : α' → Action σ' β'} (h : Agree (Unchanged s s') R x x' s s')
    (hs : T s s') (hf : ∀ a a', R a a' → Agree T S (f a) (f' a') s s') :
    Agree T S (x >>= f) (x' >>= f') s s' := by
  refine h.bind_mono (fun t t' ht => ?_) fun a a' t t' ha ht => ?_
  · rwa [← ht.1, ← ht.2]
  · obtain ⟨rfl, rfl⟩ := ht
    exact hf a a' ha

/-- Two actions that take up one outcome. -/
theorem bind_lift {s : σ} {s' : σ'} (x : Outcome α) {f : α → Action σ β} {f' : α → Action σ' β'}
    (hs : T s s') (hf : ∀ a, Agree T S (f a) (f' a) s s') :
    Agree T S ((liftM x : Action σ α) >>= f) ((liftM x : Action σ' α) >>= f') s s' := by
  rw [Agree, run_bind, run_bind, run_lift, run_lift]
  cases x with
  | error e => exact ⟨.fault e, hs⟩
  | ok a => exact hf a

end Agree

end Action

end ContentEngine
