import Mathlib
import ContentEngine.Proofs.Field.Settings
import ContentEngine.Visibility

/-!
# The last rule that matches decides

What is shown of a row is told key by key. Every declared key is there, and it is shown unless the
last of the rules that match the row and target the key hides it (`last_match_decides`). So a rule
that targets no declared key, and anything that is no rule at all, can be left out.

A rule may be given in any of its spellings or in its strict form. The strict form is read as a rule
again, with an operator where the first reading left none, and it matches the same rows
(`VisibilityRule.holds_toValue`).
-/

namespace ContentEngine

/-! ### Rules in their strict form -/

namespace VisibilityRule

variable {raw : Value} {rule : VisibilityRule} {row : Obj}

theorem isStrict_of_ofValue? (h : ofValue? raw = .ok (some rule)) : rule.IsStrict := by
  rw [ofValue?] at h
  split at h
  · simp only [Outcome.bind_eq_ok_iff, Outcome.pure_eq_ok_iff, Option.some.injEq] at h
    obtain ⟨_, hread, rfl⟩ := h
    exact isStrict_of_ofObj hread
  · cases h

/-- A missing operator tests for equality, just as the one that is filled in. -/
theorem matchesRow_fillOperator (rule : VisibilityRule) (row : Obj) :
    rule.fillOperator.matchesRow row = rule.matchesRow row := by
  rw [fillOperator]
  split
  · next hempty =>
    rw [matchesRow, matchesRow, hempty]
    rfl
  · rfl

theorem holds_of_ofValue? (h : ofValue? raw = .ok (some rule)) :
    holds raw row = rule.matchesRow row := by
  rw [holds, h, Outcome.ok_bind]

/-- A rule matches in its strict form exactly if it matches as it is given. -/
theorem holds_toValue (h : ofValue? raw = .ok (some rule)) :
    holds rule.toValue row = holds raw row := by
  rw [holds_of_ofValue? (ofValue?_toValue (isStrict_of_ofValue? h)), matchesRow_fillOperator,
    holds_of_ofValue? h]

/-- Whether a rule, as it is given, matches a row and does something with a key. -/
def Sets (raw : Value) (row : Obj) (key : String) (action : RuleAction) : Prop :=
  ∃ rule, ofValue? raw = .ok (some rule) ∧ holds raw row = .ok true ∧ key ∈ rule.targets ∧
    rule.action = action

/-- Whether an action is what the last of some rules that match a row and target a key does. -/
def IsLastSetting (rules : List Value) (row : Obj) (key : String) (action : RuleAction) : Prop :=
  ∃ front raw back, rules = front ++ raw :: back ∧ Sets raw row key action ∧
    ∀ later ∈ back, ∀ other, ¬Sets later row key other

theorem IsLastSetting.cons {rules : List Value} {key : String} {action : RuleAction} (first : Value)
    (h : IsLastSetting rules row key action) : IsLastSetting (first :: rules) row key action := by
  obtain ⟨front, raw, back, rfl, hsets, hback⟩ := h
  exact ⟨first :: front, raw, back, rfl, hsets, hback⟩

end VisibilityRule

/-! ### Maps -/

namespace VisibilityMap

variable {m : VisibilityMap} {keys : List String} {shown : Bool}

theorem get?_eq (m : VisibilityMap) (key : String) : m.get? key = Table.get? m key := rfl

theorem set_eq (m : VisibilityMap) (key : String) (shown : Bool) :
    m.set key shown = Table.set m key shown := by
  induction m with
  | nil => rfl
  | cons row rest ih => rw [set, Table.set, ih]

theorem keys_setDeclared (m : VisibilityMap) (keys : List String) (shown : Bool) :
    Table.keys (m.setDeclared keys shown) = Table.keys m := by
  simp [setDeclared, Table.keys]

theorem get?_setDeclared (m : VisibilityMap) (keys : List String) (shown : Bool) (key : String) :
    (m.setDeclared keys shown).get? key =
      (m.get? key).map fun before => if keys.contains key then shown else before := by
  simp only [get?_eq]
  induction m with
  | nil => rfl
  | cons row rest ih =>
    have hstep : setDeclared (row :: rest) keys shown =
        (row.1, if keys.contains row.1 then shown else row.2) :: setDeclared rest keys shown := rfl
    rw [hstep, Table.get?_cons, Table.get?_cons row.1 row.2, ih]
    split
    · next hkey => rw [hkey, Option.map_some]
    · rfl

/-- Only declared keys are touched. -/
theorem setDeclared_eq_self (h : ∀ key ∈ keys, key ∉ Table.keys m) :
    m.setDeclared keys shown = m := by
  refine (List.map_congr_left fun (key, before) hrow => ?_).trans (List.map_id m)
  have hnot : keys.contains key = false := by
    rw [List.contains_eq_mem, decide_eq_false_iff_not]
    exact fun hmem => h key hmem (List.mem_map_of_mem hrow)
  simp only [hnot]
  rfl

end VisibilityMap

/-! ### Declared keys -/

/-- Whether one of some subfields declares a key. -/
def IsDeclared (subfields : List Value) (key : String) : Prop :=
  key ≠ "" ∧ ∃ s ∈ subfields, declaredKey s = .ok key

/-- Every declared key is shown at first. -/
theorem declaredVisible_spec {subfields : List Value} {m out : VisibilityMap}
    (h : declaredVisible m subfields = .ok out) (hnodup : (Table.keys m).Nodup)
    (hshown : ∀ key ∈ Table.keys m, m.get? key = some true) :
    (Table.keys out).Nodup ∧ (∀ key ∈ Table.keys out, out.get? key = some true) ∧
      ∀ key, key ∈ Table.keys out ↔ key ∈ Table.keys m ∨ IsDeclared subfields key := by
  induction subfields generalizing m with
  | nil =>
    rw [declaredVisible, Except.ok.injEq] at h
    subst h
    exact ⟨hnodup, hshown, fun key => by simp [IsDeclared]⟩
  | cons s rest ih =>
    rw [declaredVisible, Outcome.bind_eq_ok_iff] at h
    obtain ⟨key, hkey, h⟩ := h
    have hdeclares : ∀ k, IsDeclared (s :: rest) k ↔ (k ≠ "" ∧ key = k) ∨ IsDeclared rest k := by
      intro k
      simp only [IsDeclared, List.mem_cons, exists_eq_or_imp, hkey, Except.ok.injEq, ← and_or_left]
    split at h
    · next hblank =>
      obtain ⟨hout, hall, hkeys⟩ := ih h hnodup hshown
      refine ⟨hout, hall, fun k => (hkeys k).trans (or_congr_right ?_)⟩
      rw [hdeclares]
      refine ⟨.inr, Or.rec (fun hk => ?_) id⟩
      exact absurd (hk.2.symm.trans hblank) hk.1
    · next hne =>
      rw [VisibilityMap.set_eq] at h
      have hmem : ∀ k, k ∈ Table.keys (Table.set m key true) ↔ k = key ∨ k ∈ Table.keys m := by
        simp [Table.mem_keys_iff]
      obtain ⟨hout, hall, hkeys⟩ := ih h (Table.nodup_keys_set key true hnodup) fun k hk => by
        rw [VisibilityMap.get?_eq, Table.get?_set]
        split
        · rfl
        · next hk' => exact hshown k (((hmem k).mp hk).resolve_left hk')
      refine ⟨hout, hall, fun k => (hkeys k).trans ?_⟩
      rw [hmem, hdeclares]
      have hnew : k = key ↔ k ≠ "" ∧ key = k :=
        ⟨fun hk => ⟨hk ▸ hne, hk.symm⟩, fun hk => hk.2.symm⟩
      rw [← hnew, or_comm (a := k = key), or_assoc]

/-! ### Rules, one after the other -/

section Rules

open VisibilityRule (Sets IsLastSetting holds_of_ofValue?)

variable {m out : VisibilityMap} {raw : Value} {rules : List Value} {row : Obj}

/-- A rule that has an effect takes every declared target to its action, and leaves the rest. -/
theorem applyRule_spec (h : applyRule m raw row = .ok out) :
    Table.keys out = Table.keys m ∧ ∀ key ∈ Table.keys m,
      (∃ action, Sets raw row key action ∧ out.get? key = some (action != .hide)) ∨
        (∀ action, ¬Sets raw row key action) ∧ out.get? key = m.get? key := by
  rw [applyRule, Outcome.bind_eq_ok_iff] at h
  obtain ⟨rule?, hrule, h⟩ := h
  cases rule? with
  | none =>
    rw [Outcome.pure_eq_ok_iff] at h
    subst h
    refine ⟨rfl, fun key _ => .inr ⟨?_, rfl⟩⟩
    rintro action ⟨rule, hread, -⟩
    simp [hrule] at hread
  | some rule =>
    simp only [Outcome.bind_eq_ok_iff] at h
    obtain ⟨found, hmatches, h⟩ := h
    have hsets : ∀ key action, Sets raw row key action ↔
        found = true ∧ key ∈ rule.targets ∧ rule.action = action := by
      intro key action
      simp only [Sets, hrule, Except.ok.injEq, Option.some.injEq, exists_eq_left',
        holds_of_ofValue? hrule, hmatches]
    cases found with
    | false =>
      rw [if_neg Bool.false_ne_true, Outcome.pure_eq_ok_iff] at h
      subst h
      exact ⟨rfl, fun key _ => .inr ⟨fun action => by simp [hsets], rfl⟩⟩
    | true =>
      rw [if_pos rfl, Outcome.pure_eq_ok_iff] at h
      subst h
      refine ⟨m.keys_setDeclared _ _, fun key hkey => ?_⟩
      obtain ⟨before, hbefore⟩ := Option.isSome_iff_exists.mp (Table.mem_keys_iff.mp hkey)
      have hget : m.get? key = some before := hbefore
      rw [VisibilityMap.get?_setDeclared, hget, Option.map_some, List.contains_eq_mem]
      by_cases htarget : key ∈ rule.targets
      · exact .inl ⟨rule.action, (hsets _ _).mpr ⟨rfl, htarget, rfl⟩, by simp [htarget]⟩
      · exact .inr ⟨fun action => by simp [hsets, htarget], by simp [htarget]⟩

/-- The rules leave the keys as they are, and the last rule that matches and targets a key decides
whether it is shown. -/
theorem applyRules_spec (h : applyRules m row rules = .ok out) :
    Table.keys out = Table.keys m ∧ ∀ key ∈ Table.keys m,
      (∃ action, IsLastSetting rules row key action ∧ out.get? key = some (action != .hide)) ∨
        (∀ raw ∈ rules, ∀ action, ¬Sets raw row key action) ∧ out.get? key = m.get? key := by
  induction rules generalizing m with
  | nil =>
    rw [applyRules, Except.ok.injEq] at h
    subst h
    exact ⟨rfl, fun key _ => .inr ⟨by simp, rfl⟩⟩
  | cons raw rest ih =>
    rw [applyRules, Outcome.bind_eq_ok_iff] at h
    obtain ⟨next, hnext, h⟩ := h
    obtain ⟨hkeys, hfirst⟩ := applyRule_spec hnext
    obtain ⟨hkeys', hrest⟩ := ih h
    refine ⟨hkeys'.trans hkeys, fun key hkey => ?_⟩
    -- a later rule decides if there is one, and otherwise the first one does
    rcases hrest key (hkeys ▸ hkey) with ⟨action, hlast, hget⟩ | ⟨hnone, hget⟩
    · exact .inl ⟨action, hlast.cons raw, hget⟩
    · rcases hfirst key hkey with ⟨action, hsets, hget'⟩ | ⟨hnot, hget'⟩
      · exact .inl ⟨action, ⟨[], raw, rest, rfl, hsets, hnone⟩, hget.trans hget'⟩
      · exact .inr ⟨List.forall_mem_cons.mpr ⟨hnot, hnone⟩, hget.trans hget'⟩

/-- A rule that targets no declared key changes nothing. -/
theorem applyRule_eq_self (h : applyRule m raw row = .ok out)
    (hnone : ∀ rule, VisibilityRule.ofValue? raw = .ok (some rule) →
      ∀ key ∈ rule.targets, key ∉ Table.keys m) : out = m := by
  rw [applyRule, Outcome.bind_eq_ok_iff] at h
  obtain ⟨rule?, hrule, h⟩ := h
  cases rule? with
  | none => exact (Outcome.pure_eq_ok_iff.mp h).symm
  | some rule =>
    simp only [Outcome.bind_eq_ok_iff] at h
    obtain ⟨found, -, h⟩ := h
    split at h <;> rw [Outcome.pure_eq_ok_iff] at h
    · rw [← h, VisibilityMap.setDeclared_eq_self (hnone rule hrule)]
    · exact h.symm

theorem applyRules_append (m : VisibilityMap) (row : Obj) (front back : List Value) :
    applyRules m row (front ++ back) =
      applyRules m row front >>= fun m => applyRules m row back := by
  induction front generalizing m with
  | nil => rfl
  | cons raw rest ih =>
    rw [List.cons_append, applyRules, applyRules]
    cases applyRule m raw row with
    | error fault => rfl
    | ok next => exact ih next

/-- A rule that targets no declared key can be left out. -/
theorem applyRules_erase {front back : List Value}
    (h : applyRules m row (front ++ raw :: back) = .ok out)
    (hnone : ∀ rule, VisibilityRule.ofValue? raw = .ok (some rule) →
      ∀ key ∈ rule.targets, key ∉ Table.keys m) : applyRules m row (front ++ back) = .ok out := by
  simp only [applyRules_append, applyRules, Outcome.bind_eq_ok_iff] at h ⊢
  obtain ⟨before, hfront, after, hraw, hback⟩ := h
  have hsame : after = before := applyRule_eq_self hraw ((applyRules_spec hfront).1 ▸ hnone)
  exact ⟨before, hfront, hsame ▸ hback⟩

/-- The keys that are shown or hidden are the declared ones, each of them once. Each is shown unless
the last rule that matches the row and targets it hides it, whether the rule is given in its strict
form or not. What is no rule, and a rule that targets no declared key, can be left out. -/
theorem last_match_decides {subfields : List Value} {shown : VisibilityMap}
    (h : visibilityOf subfields rules row = .ok shown) :
    (Table.keys shown).Nodup ∧ (∀ key, key ∈ Table.keys shown ↔ IsDeclared subfields key) ∧
      (∀ key ∈ Table.keys shown,
        (∃ action, IsLastSetting rules row key action ∧ shown.get? key = some (action != .hide)) ∨
          (∀ raw ∈ rules, ∀ action, ¬Sets raw row key action) ∧ shown.get? key = some true) ∧
      (∀ raw ∈ rules, ∀ rule, VisibilityRule.ofValue? raw = .ok (some rule) →
        VisibilityRule.holds rule.toValue row = VisibilityRule.holds raw row) ∧
      ∀ front raw back, rules = front ++ raw :: back →
        (raw.asObj? = none ∨ ∀ rule, VisibilityRule.ofValue? raw = .ok (some rule) →
          ∀ key ∈ rule.targets, ¬IsDeclared subfields key) →
        visibilityOf subfields (front ++ back) row = .ok shown := by
  rw [visibilityOf, Outcome.bind_eq_ok_iff] at h
  obtain ⟨first, hfirst, h⟩ := h
  have hnil : ∀ key, key ∉ Table.keys ([] : VisibilityMap) := by simp [Table.keys]
  obtain ⟨hnodup, hshown, hdeclared⟩ := declaredVisible_spec hfirst List.nodup_nil fun key hkey =>
    absurd hkey (hnil key)
  simp only [hnil, false_or] at hdeclared
  obtain ⟨hkeys, hlast⟩ := applyRules_spec h
  rw [hkeys]
  refine ⟨hnodup, hdeclared, fun key hkey => ?_, fun raw _ rule hrule =>
    VisibilityRule.holds_toValue hrule, ?_⟩
  · rw [← hshown key hkey]
    exact hlast key hkey
  · rintro front raw back rfl hnone
    rw [visibilityOf, hfirst]
    refine applyRules_erase h fun rule hrule key hkey hmem => ?_
    rcases hnone with hno | hnone
    · simp [VisibilityRule.ofValue?, hno] at hrule
    · exact hnone rule hrule key hkey ((hdeclared key).mp hmem)

/-- A rule that compares the kind with a text, as it may be given. -/
def kindRule (expected action : String) (targets : List String) : Value :=
  .obj [("if_key", .str "Kind"), ("operator", .str "  "), ("value", .str expected),
    ("action", .str action), ("targets", .ofTexts targets)]

/-- Of two rules that match, the later one shows the note again. -/
theorem note_shown_again :
    let subfields : List Value := [.str "kind", .obj [("key", .str "noteText")]]
    let hides := kindRule "memo" "hide" ["noteText"]
    let shows := kindRule "memo" "show" ["note text", "author"]
    let row : Obj := [("kind", .str "memo")]
    let shown : VisibilityMap := [("kind", true), ("note_text", true)]
    visibilityOf subfields [hides, shows, .null] row = .ok shown ∧
      ((∃ action, IsLastSetting [hides, shows, .null] row "note_text" action ∧
          shown.get? "note_text" = some (action != .hide)) ∨
        (∀ raw ∈ [hides, shows, .null], ∀ action, ¬Sets raw row "note_text" action) ∧
          shown.get? "note_text" = some true) ∧
      visibilityOf subfields [hides, shows] row = .ok shown := by
  intro subfields hides shows row shown
  have h : visibilityOf subfields [hides, shows, .null] row = .ok shown := by
    cbv
  obtain ⟨-, -, hdecides, -, herase⟩ := last_match_decides h
  exact ⟨h, hdecides "note_text" (by decide), herase [hides, shows] .null [] rfl (.inl rfl)⟩

end Rules

end ContentEngine
