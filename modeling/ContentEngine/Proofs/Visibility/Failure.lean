import Mathlib
import ContentEngine.Proofs.Field.Readable
import ContentEngine.Proofs.Title.Line
import ContentEngine.Visibility

/-!
# When rules cannot be evaluated

Rules are written by hand and rows are data, so that a rule may compare anything with anything.
Every value that has a text can be compared as a text. It is only the inequalities that compare
numbers, and an integer that has no double puts them at fault (`Comparison.holds_spec`). That is the
only way in which evaluating a rule can fail, and so it is for the rules of a row
(`evaluation_fails_iff`).
-/

namespace ContentEngine

open Outcome (HasResult hasResult_bind_iff hasResult_bind_pure hasResult_ok hasResult_pure)

/-! ### Values that are compared -/

namespace Value

/-- Whether a value is an integer that has no double. -/
def IsOutOfRange : Value → Prop
  | int n => overflowBound ≤ n.natAbs
  | _ => False

theorem toNumber_of_isOutOfRange {v : Value} (h : v.IsOutOfRange) :
    v.toNumber = .error .tooLarge := by
  cases v with
  | int n =>
    have hinfinite : ¬isFiniteFloat (floatOfInt n) = true := by
      rw [isFiniteFloat_floatOfInt]
      exact not_lt_of_ge h
    rw [toNumber, finite?, if_neg hinfinite]
  | _ => cases h

theorem hasResult_toNumber {v : Value} (h : ¬v.IsOutOfRange) : HasResult v.toNumber := by
  cases v with
  | int n =>
    have hfinite : isFiniteFloat (floatOfInt n) = true :=
      (isFiniteFloat_floatOfInt n).mpr (not_le.mp h)
    rw [toNumber, finite?, if_pos hfinite]
    exact hasResult_ok _
  | _ => exact hasResult_ok _

theorem hasResult_comparedTexts {items : List Value}
    (h : ∀ item ∈ items, HasResult (comparedText item)) : HasResult (comparedTexts items) := by
  induction items with
  | nil => exact hasResult_ok _
  | cons item rest ih =>
    rw [List.forall_mem_cons] at h
    rw [comparedTexts]
    exact (hasResult_bind_iff fun _ _ => hasResult_bind_pure).mpr
      ⟨h.1, ih h.2⟩

theorem hasResult_comparedObject {v : Value} (h : v.HasText) :
    HasResult (comparedText.comparedObject v) := by
  rw [comparedText.comparedObject]
  split
  · exact hasResult_ok _
  · exact hasResult_text.mpr h

/-- A value that has a text can be compared as one. -/
theorem hasResult_comparedText {v : Value} (h : v.HasText) : HasResult (comparedText v) := by
  induction v using induction_parts with
  | h v ih =>
    have hparts : ∀ p ∈ v.parts, HasResult (comparedText p) := fun p hp => ih p hp (h.part hp)
    cases v with
    | list items | tuple items =>
      rw [comparedText]
      exact hasResult_bind_pure.mpr (hasResult_comparedTexts hparts)
    | obj members | table rows =>
      rw [comparedText]
      exact hasResult_comparedObject h
    | _ =>
      rw [comparedText]
      · exact hasResult_scalarLine h
      all_goals nofun

end Value

/-! ### Comparisons -/

namespace Comparison

/-- Whether a comparison is one of the four inequalities. -/
def IsInequality (c : Comparison) : Prop :=
  c = greater ∨ c = atLeast ∨ c = less ∨ c = atMost

variable {c : Comparison} {actual expected : Value}

theorem inequality_of_isOutOfRange (h : actual.IsOutOfRange ∨ expected.IsOutOfRange) :
    c.inequality actual expected = .error .tooLarge := by
  rw [inequality]
  by_cases hactual : actual.IsOutOfRange
  · rw [Value.toNumber_of_isOutOfRange hactual]
    rfl
  · obtain ⟨a, ha⟩ := Value.hasResult_toNumber hactual
    rw [ha, Outcome.ok_bind, Value.toNumber_of_isOutOfRange (h.resolve_left hactual)]
    rfl

theorem hasResult_inequality (hactual : actual.HasText) (hexpected : expected.HasText)
    (h : ¬(actual.IsOutOfRange ∨ expected.IsOutOfRange)) :
    HasResult (c.inequality actual expected) := by
  rw [not_or] at h
  obtain ⟨a, ha⟩ := Value.hasResult_toNumber h.1
  obtain ⟨b, hb⟩ := Value.hasResult_toNumber h.2
  obtain ⟨s, hs⟩ := Value.hasResult_comparedText hactual
  obtain ⟨t, ht⟩ := Value.hasResult_comparedText hexpected
  rw [inequality, ha, hb, hs, ht]
  cases a <;> cases b <;> exact hasResult_pure _

theorem holds_of_isInequality (hactual : actual.HasText) (hexpected : expected.HasText)
    (h : c.IsInequality) : c.holds actual expected = c.inequality actual expected := by
  obtain ⟨s, hs⟩ := Value.hasResult_comparedText hactual
  obtain ⟨t, ht⟩ := Value.hasResult_comparedText hexpected
  obtain rfl | rfl | rfl | rfl := h <;> simp only [holds, hs, ht, Outcome.ok_bind]

theorem hasResult_holds (hactual : actual.HasText) (hexpected : expected.HasText)
    (h : ¬c.IsInequality) : HasResult (c.holds actual expected) := by
  obtain ⟨s, hs⟩ := Value.hasResult_comparedText hactual
  obtain ⟨t, ht⟩ := Value.hasResult_comparedText hexpected
  simp only [IsInequality, not_or] at h
  cases c with
  | greater => exact absurd rfl h.1
  | atLeast => exact absurd rfl h.2.1
  | less => exact absurd rfl h.2.2.1
  | atMost => exact absurd rfl h.2.2.2
  | truthy | falsy => exact hasResult_ok _
  | _ =>
    simp only [holds, hs, ht, Outcome.ok_bind]
    exact hasResult_pure _

/-- A comparison fails exactly if it is an inequality and one of its sides is an integer without a
double. -/
theorem holds_spec (hactual : actual.HasText) (hexpected : expected.HasText) :
    (c.IsInequality ∧ (actual.IsOutOfRange ∨ expected.IsOutOfRange) →
      c.holds actual expected = .error .tooLarge) ∧
    (¬(c.IsInequality ∧ (actual.IsOutOfRange ∨ expected.IsOutOfRange)) →
      HasResult (c.holds actual expected)) := by
  constructor
  · rintro ⟨hc, hrange⟩
    rw [holds_of_isInequality hactual hexpected hc, inequality_of_isOutOfRange hrange]
  · intro h
    by_cases hc : c.IsInequality
    · rw [holds_of_isInequality hactual hexpected hc]
      exact hasResult_inequality hactual hexpected fun hrange => h ⟨hc, hrange⟩
    · exact hasResult_holds hactual hexpected hc

end Comparison

/-! ### Rules -/

theorem Value.HasText.getEither {o : Obj} (h : (obj o).HasText) (key other : String) :
    (Obj.getEither o key other).HasText := by
  rw [Obj.getEither]
  split
  · next value hvalue =>
    rw [← Obj.get_of_get?_eq_some hvalue]
    exact h.get key
  · exact h.get other

theorem Value.HasText.firstTruthy {o : Obj} (h : (obj o).HasText) (keys : List String) :
    (Obj.firstTruthy o keys).HasText := by
  induction keys with
  | nil => exact hasText_null
  | cons key keys ih =>
    rw [Obj.firstTruthy]
    split
    · exact h.get _
    · exact ih

namespace VisibilityRule

/-- What a rule reads of a row. A rule that reads no key reads null. -/
def readOf (rule : VisibilityRule) (row : Obj) : Value :=
  if rule.ifKey = "" then .null else Obj.get row rule.ifKey

/-- Whether a rule, as it is given, is an inequality in which an integer has no double, be it the
one in the row or the one that the rule compares it with. -/
def Overflows (raw : Value) (row : Obj) : Prop :=
  ∃ rule, ofValue? raw = .ok (some rule) ∧ (Comparison.ofOperator rule.operator).IsInequality ∧
    ((rule.readOf row).IsOutOfRange ∨ rule.value.IsOutOfRange)

variable {raw : Value} {row : Obj} {rule : VisibilityRule}

theorem isReadable_of_hasText (h : raw.HasText) : IsReadable raw := by
  intro o ho
  have ho := h.asObj? ho
  refine ⟨ho.get _, ho.getEither _ _, ho.getEither _ _, fun target htarget => ?_⟩
  have htargets := ho.getEither "targets" "targetKeys"
  cases hlist : Obj.getEither o "targets" "targetKeys" with
  | list items =>
    rw [hlist] at htarget htargets
    exact Value.hasText_list.mp htargets target htarget
  | _ => simp [hlist, Value.asList?] at htarget

theorem hasText_value (h : raw.HasText) (hrule : ofValue? raw = .ok (some rule)) :
    rule.value.HasText := by
  rw [ofValue?] at hrule
  split at hrule
  · next o ho =>
    simp only [ofObj, Outcome.bind_eq_ok_iff, Outcome.pure_eq_ok_iff, Option.some.injEq] at hrule
    obtain ⟨_, ⟨_, -, _, -, _, -, _, -, rfl⟩, rfl⟩ := hrule
    exact (h.asObj? ho).getEither _ _
  · cases hrule

theorem hasText_readOf (h : (Value.obj row).HasText) (rule : VisibilityRule) :
    (rule.readOf row).HasText := by
  rw [readOf]
  split
  · exact Value.hasText_null
  · exact h.get _

theorem matchesRow_spec (h : raw.HasText) (hrow : (Value.obj row).HasText)
    (hrule : ofValue? raw = .ok (some rule)) :
    (Overflows raw row → rule.matchesRow row = .error .tooLarge) ∧
      (¬Overflows raw row → HasResult (rule.matchesRow row)) := by
  have hoverflows : Overflows raw row ↔ (Comparison.ofOperator rule.operator).IsInequality ∧
      ((rule.readOf row).IsOutOfRange ∨ rule.value.IsOutOfRange) := by
    simp [Overflows, hrule]
  rw [hoverflows]
  exact Comparison.holds_spec (hasText_readOf hrow rule) (hasText_value h hrule)

/-- Whether a rule matches a row cannot be told exactly if the rule overflows there. -/
theorem holds_spec (h : raw.HasText) (hrow : (Value.obj row).HasText) :
    (Overflows raw row → holds raw row = .error .tooLarge) ∧
      (¬Overflows raw row → HasResult (holds raw row)) := by
  obtain ⟨rule?, hrule⟩ := hasResult_ofValue?.mpr (isReadable_of_hasText h)
  rw [holds, hrule, Outcome.ok_bind]
  cases rule? with
  | none =>
    refine ⟨?_, fun _ => hasResult_pure _⟩
    rintro ⟨rule, hread, -⟩
    simp [hrule] at hread
  | some rule => exact matchesRow_spec h hrow hrule

end VisibilityRule

/-! ### Rows -/

open VisibilityRule (Overflows)

variable {m : VisibilityMap} {raw : Value} {rules subfields : List Value} {row : Obj}

theorem hasResult_declaredKey {s : Value} (h : s.HasText) : HasResult (declaredKey s) := by
  unfold declaredKey
  split
  · exact Value.hasResult_snakeCase.mpr h
  · split
    · next o ho => exact Value.hasResult_snakeCase.mpr ((h.asObj? ho).firstTruthy _)
    · exact hasResult_ok _

theorem hasResult_declaredVisible (h : ∀ s ∈ subfields, s.HasText) :
    HasResult (declaredVisible m subfields) := by
  induction subfields generalizing m with
  | nil => exact hasResult_ok _
  | cons s rest ih =>
    rw [List.forall_mem_cons] at h
    obtain ⟨key, hkey⟩ := hasResult_declaredKey h.1
    rw [declaredVisible, hkey, Outcome.ok_bind]
    exact ih h.2

theorem applyRule_failure (h : raw.HasText) (hrow : (Value.obj row).HasText) :
    (Overflows raw row → applyRule m raw row = .error .tooLarge) ∧
      (¬Overflows raw row → HasResult (applyRule m raw row)) := by
  obtain ⟨rule?, hrule⟩ :=
    VisibilityRule.hasResult_ofValue?.mpr (VisibilityRule.isReadable_of_hasText h)
  rw [applyRule, hrule, Outcome.ok_bind]
  cases rule? with
  | none =>
    refine ⟨?_, fun _ => hasResult_pure _⟩
    rintro ⟨rule, hread, -⟩
    simp [hrule] at hread
  | some rule =>
    obtain ⟨hfails, hresult⟩ := VisibilityRule.matchesRow_spec h hrow hrule
    refine ⟨fun hover => ?_, fun hclear => ?_⟩
    · simp only [hfails hover]
      rfl
    · obtain ⟨found, hfound⟩ := hresult hclear
      simp only [hfound, Outcome.ok_bind]
      split <;> exact hasResult_pure _

/-- The first rule that overflows stops the evaluation of a row, and nothing else does. -/
theorem applyRules_failure (h : ∀ raw ∈ rules, raw.HasText) (hrow : (Value.obj row).HasText) :
    ((∃ raw ∈ rules, Overflows raw row) → applyRules m row rules = .error .tooLarge) ∧
      ((∀ raw ∈ rules, ¬Overflows raw row) → HasResult (applyRules m row rules)) := by
  induction rules generalizing m with
  | nil => exact ⟨by simp, fun _ => hasResult_ok _⟩
  | cons raw rest ih =>
    rw [List.forall_mem_cons] at h
    obtain ⟨hfails, hresult⟩ := applyRule_failure (m := m) h.1 hrow
    simp only [applyRules, List.mem_cons, exists_eq_or_imp, forall_eq_or_imp]
    by_cases hover : Overflows raw row
    · refine ⟨fun _ => ?_, fun hclear => absurd hover hclear.1⟩
      rw [hfails hover]
      rfl
    · obtain ⟨next, hnext⟩ := hresult hover
      rw [hnext, Outcome.ok_bind]
      exact ⟨fun hsome => (ih h.2).1 (hsome.resolve_left hover), fun hclear => (ih h.2).2 hclear.2⟩

/-- Rules that a document can hold are evaluated to an answer, and so are the rules of a row, unless
an inequality among them compares an integer that has no double. -/
theorem evaluation_fails_iff (hrules : ∀ raw ∈ rules, raw.HasText)
    (hsubfields : ∀ s ∈ subfields, s.HasText) (hrow : (Value.obj row).HasText) :
    (∀ raw ∈ rules, (VisibilityRule.holds raw row = .error .tooLarge ↔ Overflows raw row) ∧
        ((∃ found, VisibilityRule.holds raw row = .ok found) ↔ ¬Overflows raw row)) ∧
      (visibilityOf subfields rules row = .error .tooLarge ↔ ∃ raw ∈ rules, Overflows raw row) ∧
      ((∃ shown, visibilityOf subfields rules row = .ok shown) ↔
        ∀ raw ∈ rules, ¬Overflows raw row) := by
  obtain ⟨first, hfirst⟩ := hasResult_declaredVisible (m := []) hsubfields
  obtain ⟨hfails, hresult⟩ := applyRules_failure (m := first) hrules hrow
  have hclear : (∀ raw ∈ rules, ¬Overflows raw row) ↔ ¬∃ raw ∈ rules, Overflows raw row := by
    simp
  rw [visibilityOf, hfirst, Outcome.ok_bind, hclear]
  refine ⟨fun raw hraw => ?_, Outcome.iff_of_fails hfails fun hnone => hresult (hclear.mpr hnone)⟩
  obtain ⟨hfails, hresult⟩ := VisibilityRule.holds_spec (hrules raw hraw) hrow
  exact Outcome.iff_of_fails hfails hresult

/-- A rule that compares the size of a row with 1. -/
def sizeRule (operator : String) : Value :=
  .obj [("ifKey", .str "size"), ("op", .str operator), ("value", .int 1),
    ("action", .str "hide"), ("targets", .ofTexts ["note"])]

/-- A row whose size is the least integer without a double. -/
def largeRow : Obj :=
  [("size", .int overflowBound)]

theorem hasText_sizeRule (operator : String) : (sizeRule operator).HasText := by
  have hshort : (Value.int 1).IsShort := show (digitText 1).length ≤ maxIntegerDigits by decide
  simp [sizeRule, Value.ofTexts, Value.hasText_obj, Value.hasText_list, Value.hasText_int, hshort]

theorem hasText_largeRow : (Value.obj largeRow).HasText := by
  have hshort : (Value.int overflowBound).IsShort :=
    (length_digitText_le (by decide) overflowBound_lt).trans (by decide)
  exact Value.hasText_obj.mpr (List.forall_mem_singleton.mpr (Value.hasText_int.mpr hshort))

theorem ofValue?_sizeRule_gt : VisibilityRule.ofValue? (sizeRule "gt") =
    .ok (some ⟨"size", "gt", .int 1, .hide, ["note"]⟩) := by
  cbv

theorem overflows_sizeRule : Overflows (sizeRule "gt") largeRow :=
  ⟨_, ofValue?_sizeRule_gt, .inl rfl, .inl (Nat.le_refl overflowBound)⟩

/-- An inequality cannot be evaluated on an integer without a double, and an equality can. -/
theorem size_compared :
    VisibilityRule.holds (sizeRule "gt") largeRow = .error .tooLarge ∧
      (∃ found, VisibilityRule.holds (sizeRule "equals") largeRow = .ok found) ∧
      ∃ shown, visibilityOf [.str "note"] [sizeRule "equals", .null] largeRow = .ok shown := by
  have hread : VisibilityRule.ofValue? (sizeRule "equals") =
      .ok (some ⟨"size", "equals", .int 1, .hide, ["note"]⟩) := by
    cbv
  have hequality : ¬Overflows (sizeRule "equals") largeRow := by
    rintro ⟨rule, hrule, hinequality, -⟩
    rw [hread, Except.ok.injEq, Option.some.injEq] at hrule
    subst hrule
    simp [Comparison.IsInequality, Comparison.ofOperator] at hinequality
  have hnull : ¬Overflows .null largeRow := by
    rintro ⟨rule, hrule, -⟩
    cases hrule
  obtain ⟨hgreater, -⟩ := (@evaluation_fails_iff [sizeRule "gt"] [] largeRow
    (by simp [hasText_sizeRule]) (by simp) hasText_largeRow).1 _ (List.mem_singleton_self _)
  obtain ⟨hequals, -, hshown⟩ := @evaluation_fails_iff [sizeRule "equals", .null] [.str "note"]
    largeRow (by simp [hasText_sizeRule]) (by simp) hasText_largeRow
  exact ⟨hgreater.mpr overflows_sizeRule, (hequals _ List.mem_cons_self).2.mpr hequality,
    hshown.mpr (by simp [hequality, hnull])⟩

/-- A rule and a row that a document can hold, and no answer. -/
theorem large_size_not_compared :
    (sizeRule "gt").HasText ∧ (Value.obj largeRow).HasText ∧
      (¬∃ found, VisibilityRule.holds (sizeRule "gt") largeRow = .ok found) ∧
      ¬∃ shown, visibilityOf [.str "note"] [sizeRule "gt"] largeRow = .ok shown := by
  have hrule := hasText_sizeRule "gt"
  have hholds := (VisibilityRule.holds_spec hrule hasText_largeRow).1 overflows_sizeRule
  have hdeclared : declaredVisible [] [.str "note"] = .ok [("note", true)] :=
    Outcome.eq_ok_of_toOption (by decide +kernel)
  have hrules := (applyRules_failure (m := [("note", true)]) (by simpa using hrule)
    hasText_largeRow).1 ⟨_, List.mem_singleton_self _, overflows_sizeRule⟩
  rw [hholds, visibilityOf, hdeclared, Outcome.ok_bind, hrules]
  exact ⟨hrule, hasText_largeRow, nofun, nofun⟩

end ContentEngine
