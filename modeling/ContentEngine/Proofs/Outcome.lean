import ContentEngine.Fault

/-!
# Outcomes of steps

What is computed in steps has a result exactly if each step has one. `Outcome.bind_eq_ok_iff` takes
the steps apart, so that no proof looks at the faults of a computation that has a result. Where only
that there is a result matters, `Outcome.HasResult` says so.
-/

namespace ContentEngine

namespace Outcome

variable {α β : Type}

@[simp] theorem pure_eq_ok_iff {a b : α} : (pure a : Outcome α) = .ok b ↔ a = b :=
  Iff.of_eq (Except.ok.injEq a b)

@[simp] theorem ok_bind (a : α) (f : α → Outcome β) : Except.ok a >>= f = f a := rfl

@[simp] theorem throw_ne_ok {e : Fault} {a : α} : (throw e : Outcome α) ≠ .ok a := by
  simp [throw, throwThe, MonadExceptOf.throw]

@[simp] theorem throw_bind (e : Fault) (f : α → Outcome β) :
    (throw e : Outcome α) >>= f = .error e := rfl

theorem bind_eq_ok_iff {x : Outcome α} {f : α → Outcome β} {b : β} :
    x >>= f = .ok b ↔ ∃ a, x = .ok a ∧ f a = .ok b := by
  constructor
  · intro h
    cases x with
    | error fault => contradiction
    | ok a => exact ⟨a, rfl, h⟩
  · rintro ⟨a, rfl, h⟩
    exact h

theorem eq_ok_of_toOption {x : Outcome α} {a : α} (h : x.toOption = some a) : x = .ok a := by
  cases x with
  | error fault => contradiction
  | ok b => exact congrArg _ (Option.some.inj h)

/-- What follows a step matters only for the results that the step can have. -/
theorem bind_congr {x : Outcome α} {f g : α → Outcome β} (h : ∀ a, x = .ok a → f a = g a) :
    x >>= f = x >>= g := by
  cases x with
  | error fault => rfl
  | ok a => exact h a rfl

/-- Every result of going through a list comes from an item of the list. -/
theorem exists_of_mem_mapM {f : α → Outcome β} {xs : List α} {ys : List β} (h : xs.mapM f = .ok ys)
    {y : β} (hy : y ∈ ys) : ∃ x ∈ xs, f x = .ok y := by
  induction xs generalizing ys with
  | nil =>
    rw [List.mapM_nil, pure_eq_ok_iff] at h
    subst h
    contradiction
  | cons x rest ih =>
    simp only [List.mapM_cons, bind_eq_ok_iff, pure_eq_ok_iff] at h
    obtain ⟨first, hfirst, others, hothers, rfl⟩ := h
    rcases List.mem_cons.mp hy with rfl | hy
    · exact ⟨x, List.mem_cons_self, hfirst⟩
    · obtain ⟨z, hz, hzy⟩ := ih hothers hy
      exact ⟨z, List.mem_cons_of_mem x hz, hzy⟩

/-- The results of going through a list are those of its items. -/
theorem mem_mapM_iff {f : α → Outcome β} {xs : List α} {ys : List β} (h : xs.mapM f = .ok ys)
    {y : β} : y ∈ ys ↔ ∃ x ∈ xs, f x = .ok y := by
  refine ⟨exists_of_mem_mapM h, ?_⟩
  rintro ⟨x, hx, hy⟩
  induction xs generalizing ys with
  | nil => contradiction
  | cons first rest ih =>
    simp only [List.mapM_cons, bind_eq_ok_iff, pure_eq_ok_iff] at h
    obtain ⟨z, hz, others, hothers, rfl⟩ := h
    rcases List.mem_cons.mp hx with rfl | hx
    · exact Except.ok.inj (hz.symm.trans hy) ▸ List.mem_cons_self
    · exact List.mem_cons_of_mem z (ih hothers hx)

/-- Items with the same result are the same if no two results are. -/
theorem eq_of_nodup_mapM {f : α → Outcome β} {xs : List α} {ys : List β} (h : xs.mapM f = .ok ys)
    (hnodup : ys.Nodup) {a b : α} (ha : a ∈ xs) (hb : b ∈ xs) {y : β} (hfa : f a = .ok y)
    (hfb : f b = .ok y) : a = b := by
  induction xs generalizing ys with
  | nil => contradiction
  | cons first rest ih =>
    simp only [List.mapM_cons, bind_eq_ok_iff, pure_eq_ok_iff] at h
    obtain ⟨z, hz, others, hothers, rfl⟩ := h
    obtain ⟨hz', hothers'⟩ := List.nodup_cons.mp hnodup
    have hnot {c : α} (hc : c ∈ rest) (hfc : f c = .ok y) : f first ≠ .ok y := by
      intro hfirst
      obtain rfl := Except.ok.inj (hz.symm.trans hfirst)
      exact hz' ((mem_mapM_iff hothers).mpr ⟨c, hc, hfc⟩)
    rcases List.mem_cons.mp ha with rfl | ha' <;> rcases List.mem_cons.mp hb with rfl | hb'
    · rfl
    · exact absurd hfa (hnot hb' hfb)
    · exact absurd hfb (hnot ha' hfa)
    · exact ih hothers hothers' ha' hb'

theorem eq_nil_iff_of_mapM {f : α → Outcome β} {xs : List α} {ys : List β}
    (h : xs.mapM f = .ok ys) : ys = [] ↔ xs = [] := by
  cases xs with
  | nil =>
    rw [List.mapM_nil, pure_eq_ok_iff] at h
    simp [← h]
  | cons first rest =>
    simp only [List.mapM_cons, bind_eq_ok_iff, pure_eq_ok_iff] at h
    obtain ⟨_, -, _, -, rfl⟩ := h
    simp

/-- Going through a list gives the results of its items. -/
theorem mapM_eq_ok_map {f : α → Outcome β} {g : α → β} {xs : List α}
    (h : ∀ x ∈ xs, f x = .ok (g x)) : xs.mapM f = .ok (xs.map g) := by
  induction xs with
  | nil => rfl
  | cons x rest ih =>
    rw [List.forall_mem_cons] at h
    rw [List.mapM_cons, h.1, ih h.2]
    rfl

theorem mapM_some_eq_ok_iff {f : α → Outcome β} {a : α} {y : Option β} :
    (some a).mapM f = .ok y ↔ ∃ b, f a = .ok b ∧ some b = y := by
  rw [Option.mapM_some, map_eq_pure_bind, bind_eq_ok_iff]
  simp only [pure_eq_ok_iff]

/-! ### Having a result at all -/

/-- Whether a computation has a result. -/
def HasResult (x : Outcome α) : Prop :=
  ∃ a, x = .ok a

@[simp] theorem hasResult_ok (a : α) : HasResult (.ok a : Outcome α) := ⟨a, rfl⟩

@[simp] theorem hasResult_pure (a : α) : HasResult (pure a : Outcome α) := ⟨a, rfl⟩

@[simp] theorem not_hasResult_error (e : Fault) : ¬HasResult (.error e : Outcome α) := by
  rintro ⟨a, h⟩
  cases h

@[simp] theorem not_hasResult_throw (e : Fault) : ¬HasResult (throw e : Outcome α) :=
  not_hasResult_error e

@[simp] theorem hasResult_map {x : Outcome α} {f : α → β} :
    HasResult (x.map f) ↔ HasResult x := by
  cases x <;> simp [Except.map]

theorem hasResult_bind {x : Outcome α} {f : α → Outcome β} :
    HasResult (x >>= f) ↔ ∃ a, x = .ok a ∧ HasResult (f a) := by
  simp only [HasResult, bind_eq_ok_iff]
  exact ⟨fun ⟨b, a, ha, hb⟩ => ⟨a, ha, b, hb⟩, fun ⟨a, ha, b, hb⟩ => ⟨b, a, ha, hb⟩⟩

/-- Whether the second of two steps has a result may not depend on what the first one finds. -/
theorem hasResult_bind_iff {x : Outcome α} {f : α → Outcome β} {q : Prop}
    (hf : ∀ a, x = .ok a → (HasResult (f a) ↔ q)) : HasResult (x >>= f) ↔ HasResult x ∧ q := by
  rw [hasResult_bind]
  constructor
  · rintro ⟨a, ha, h⟩
    exact ⟨⟨a, ha⟩, (hf a ha).mp h⟩
  · rintro ⟨⟨a, ha⟩, h⟩
    exact ⟨a, ha, (hf a ha).mpr h⟩

/-- A step after which nothing can go wrong. -/
theorem hasResult_bind_left {x : Outcome α} {f : α → Outcome β} (hf : ∀ a, HasResult (f a)) :
    HasResult (x >>= f) ↔ HasResult x :=
  (hasResult_bind_iff fun a _ => iff_true_intro (hf a)).trans (and_iff_left trivial)

/-- What is made of a result is a result. -/
theorem hasResult_bind_pure {x : Outcome α} {f : α → β} :
    HasResult (do return f (← x)) ↔ HasResult x :=
  hasResult_bind_left fun _ => hasResult_pure _

/-- A list can be gone through exactly if each of its items can. -/
theorem hasResult_mapM {f : α → Outcome β} {xs : List α} :
    HasResult (xs.mapM f) ↔ ∀ x ∈ xs, HasResult (f x) := by
  induction xs with
  | nil => simp
  | cons x rest ih =>
    rw [List.mapM_cons, List.forall_mem_cons, ← ih]
    exact hasResult_bind_iff fun _ _ => hasResult_bind_pure

end Outcome

end ContentEngine
