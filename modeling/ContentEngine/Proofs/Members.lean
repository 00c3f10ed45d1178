import ContentEngine.Proofs.Outcome

/-!
# Rewriting members

Some members of an object are rewritten one after the other, each by a rule of its own for the
value under its key; a rule may fail, and it may take the member out. If the keys are distinct, no
rule sees what another one has done: what is held in the end is told key by key
(`isRewritten_of_rewriteAll`), and the object stays as it is exactly if each rule leaves its value
alone (`rewriteAll_eq_self_iff`).
-/

namespace ContentEngine

namespace Obj

/-- A rule for the value under a key, which is replaced by another one or taken out. -/
abbrev Rule := String × (Value → Outcome (Option Value))

/-- An object in which the member of a rule has been rewritten, if there is one. -/
def rewrite (o : Obj) (rule : Rule) : Outcome Obj :=
  match get? o rule.1 with
  | none => .ok o
  | some v => do
    match ← rule.2 v with
    | none => return erase o rule.1
    | some w => return set o rule.1 w

/-- An object in which the members of some rules have been rewritten, one after the other. -/
def rewriteAll (o : Obj) : List Rule → Outcome Obj
  | [] => .ok o
  | rule :: rules => do
    let next ← rewrite o rule
    rewriteAll next rules

variable {o next out : Obj} {rule : Rule} {rules : List Rule} {k : String} {v : Value}

/-! ### One member -/

theorem rewrite_of_none (h : get? o rule.1 = none) : rewrite o rule = .ok o := by
  rw [rewrite, h]

theorem get?_rewrite_of_ne (h : rewrite o rule = .ok next) (hk : k ≠ rule.1) :
    get? next k = get? o k := by
  rw [rewrite] at h
  split at h
  · rw [Except.ok.injEq] at h
    rw [h]
  · rw [Outcome.bind_eq_ok_iff] at h
    obtain ⟨left, -, h⟩ := h
    split at h
    · rw [Outcome.pure_eq_ok_iff] at h
      rw [← h, get?_erase, if_neg hk]
    · rw [Outcome.pure_eq_ok_iff] at h
      rw [← h, get?_set, if_neg hk]

theorem eq_ok_of_rewrite (h : rewrite o rule = .ok next) (hv : get? o rule.1 = some v) :
    rule.2 v = .ok (get? next rule.1) := by
  simp only [rewrite, hv, Outcome.bind_eq_ok_iff] at h
  obtain ⟨left, hleft, h⟩ := h
  rw [hleft]
  split at h
  · rw [Outcome.pure_eq_ok_iff] at h
    rw [← h, get?_erase, if_pos rfl]
  · rw [Outcome.pure_eq_ok_iff] at h
    rw [← h, get?_set, if_pos rfl]

/-- A rule that leaves the value alone leaves the object alone. -/
theorem rewrite_eq_self (h : ∀ v, get? o rule.1 = some v → rule.2 v = .ok (some v)) :
    rewrite o rule = .ok o := by
  rw [rewrite]
  split
  · rfl
  · next v hv =>
    have hset : set o rule.1 v = o := Table.set_of_get? hv
    rw [h v hv, Outcome.ok_bind]
    simp only [hset]
    rfl

theorem exists_rewrite (h : ∀ v, get? o rule.1 = some v → ∃ left, rule.2 v = .ok left) :
    ∃ next, rewrite o rule = .ok next := by
  cases hv : get? o rule.1 with
  | none => exact ⟨o, rewrite_of_none hv⟩
  | some v =>
    obtain ⟨left, hleft⟩ := h v hv
    simp only [rewrite, hv, hleft, Outcome.ok_bind]
    cases left <;> exact ⟨_, rfl⟩

/-! ### Several members -/

/-- Whether an object is another one with the members of some rules rewritten. -/
structure IsRewritten (rules : List Rule) (o out : Obj) : Prop where
  other : ∀ k, k ∉ rules.map (·.1) → get? out k = get? o k
  missing : ∀ rule ∈ rules, get? o rule.1 = none → get? out rule.1 = none
  member : ∀ rule ∈ rules, ∀ v, get? o rule.1 = some v → rule.2 v = .ok (get? out rule.1)

/-- Rewriting puts nothing where nothing has been. -/
theorem IsRewritten.get?_eq_none (h : IsRewritten rules o out) (hnone : get? o k = none) :
    get? out k = none := by
  by_cases hk : k ∈ rules.map (·.1)
  · obtain ⟨rule, hrule, rfl⟩ := List.mem_map.mp hk
    exact h.missing rule hrule hnone
  · rw [h.other k hk, hnone]

theorem isRewritten_of_rewriteAll (hnodup : (rules.map (·.1)).Nodup)
    (h : rewriteAll o rules = .ok out) : IsRewritten rules o out := by
  induction rules generalizing o with
  | nil =>
    rw [rewriteAll, Except.ok.injEq] at h
    subst h
    exact ⟨fun _ _ => rfl, by simp, by simp⟩
  | cons first rest ih =>
    rw [rewriteAll, Outcome.bind_eq_ok_iff] at h
    obtain ⟨next, hnext, h⟩ := h
    rw [List.map_cons, List.nodup_cons] at hnodup
    have hrest := ih hnodup.2 h
    -- the first rule does not touch the members of the others, nor do they touch its own
    have hsame : ∀ rule ∈ rest, get? next rule.1 = get? o rule.1 := fun rule hrule =>
      get?_rewrite_of_ne hnext fun heq => hnodup.1 (List.mem_map.mpr ⟨rule, hrule, heq⟩)
    have hfirst : get? out first.1 = get? next first.1 := hrest.other first.1 hnodup.1
    constructor
    · intro k hk
      rw [List.map_cons, List.mem_cons, not_or] at hk
      rw [hrest.other k hk.2, get?_rewrite_of_ne hnext hk.1]
    · rintro rule (_ | ⟨_, hrule⟩) hnone
      · rw [rewrite_of_none hnone, Except.ok.injEq] at hnext
        rw [hfirst, ← hnext, hnone]
      · exact hrest.missing rule hrule (by rw [hsame rule hrule, hnone])
    · rintro rule (_ | ⟨_, hrule⟩) v hv
      · rw [hfirst]
        exact eq_ok_of_rewrite hnext hv
      · exact hrest.member rule hrule v (by rw [hsame rule hrule, hv])

/-- Rewriting leaves an object as it is exactly if each rule leaves its value alone. -/
theorem rewriteAll_eq_self_iff (hnodup : (rules.map (·.1)).Nodup) :
    rewriteAll o rules = .ok o ↔
      ∀ rule ∈ rules, ∀ v, get? o rule.1 = some v → rule.2 v = .ok (some v) := by
  constructor
  · intro h rule hrule v hv
    rw [(isRewritten_of_rewriteAll hnodup h).member rule hrule v hv, hv]
  · intro h
    clear hnodup
    induction rules with
    | nil => rfl
    | cons first rest ih =>
      rw [rewriteAll, rewrite_eq_self (h first List.mem_cons_self), Outcome.ok_bind]
      exact ih fun rule hrule => h rule (List.mem_cons_of_mem first hrule)

/-- Rewriting comes to an end if each rule has a result for the value under its key. -/
theorem exists_rewriteAll (hnodup : (rules.map (·.1)).Nodup)
    (h : ∀ rule ∈ rules, ∀ v, get? o rule.1 = some v → ∃ left, rule.2 v = .ok left) :
    ∃ out, rewriteAll o rules = .ok out := by
  induction rules generalizing o with
  | nil => exact ⟨o, rfl⟩
  | cons first rest ih =>
    rw [List.map_cons, List.nodup_cons] at hnodup
    rw [List.forall_mem_cons] at h
    obtain ⟨next, hnext⟩ := exists_rewrite h.1
    -- the others see the object as it was, since their keys differ
    obtain ⟨out, hout⟩ := ih hnodup.2 fun rule hrule v hv => by
      have hne : rule.1 ≠ first.1 := fun heq => hnodup.1 (List.mem_map.mpr ⟨rule, hrule, heq⟩)
      exact h.2 rule hrule v (by rw [← get?_rewrite_of_ne hnext hne, hv])
    exact ⟨out, by rw [rewriteAll, hnext, Outcome.ok_bind, hout]⟩

/-! ### Objects that differ in texts only -/

/-- Whether an object holds what another one holds, but for texts in place of texts. -/
def DiffersInTexts (o out : Obj) : Prop :=
  ∀ k, get? out k = get? o k ∨
    ∃ text text', get? o k = some (.str text) ∧ get? out k = some (.str text')

end Obj

end ContentEngine
