import ContentEngine.Proofs.Title.Order
import ContentEngine.Proofs.Visibility.Failure

/-!
# Visibility and the order of keys

A rule compares one value of a row with a value of its own. What a comparison takes from a value is
whether it is empty, its text and its number (`Value.ComparedAlike`), and none of the three depends
on the order of keys in a JSON document with finite numbers: where an object is compared, its
canonical text is, in which the keys are sorted. So the order of keys in a row, or in what rules
compare with, has no effect on what is shown (`visibilityOf_of_sameDocument`).
-/

namespace ContentEngine

/-! ### Values that are compared -/

namespace Value

variable {v w : Value}

/-- Whether two values are compared alike: as empty or not, as texts, and as numbers. -/
structure ComparedAlike (v w : Value) : Prop where
  empty : v.isEmptyValue = w.isEmptyValue
  text : comparedText v = comparedText w
  number : v.toNumber = w.toNumber

theorem ComparedAlike.refl (v : Value) : v.ComparedAlike v := ⟨rfl, rfl, rfl⟩

theorem comparedTexts_congr {xs ys : List Value}
    (h : List.Forall₂ (fun x y => comparedText x = comparedText y) xs ys) :
    comparedTexts xs = comparedTexts ys := by
  induction h with
  | nil => rfl
  | cons hfirst _ ih => rw [comparedTexts, comparedTexts, hfirst, ih]

namespace SameDocument

/-- The literal that stands in for a canonical text would show the order of keys, but a document
that has no canonical text has no literal either. -/
theorem comparedObject_eq (h : v.SameDocument w) (hv : v.IsJson) (hw : w.IsJson) :
    comparedText.comparedObject v = comparedText.comparedObject w := by
  rw [comparedText.comparedObject, comparedText.comparedObject]
  obtain ⟨text, htext, htext'⟩ | ⟨e, f, he, hf, htext⟩ := h.canonicalText_cases hv hw
  · rw [htext, htext']
  · rw [he, hf]
    exact htext

theorem comparedText_eq (h : v.SameDocument w) (hv : v.IsJson) (hw : w.IsJson) :
    comparedText v = comparedText w := by
  induction h with
  | refl v => rfl
  | @list a b length items ih =>
    have hitems : List.Forall₂ (fun x y => comparedText x = comparedText y) a b := by
      refine List.forall₂_iff_get.mpr ⟨length, fun i hi hj => ?_⟩
      exact ih i hi hj (hv.item _ (List.getElem_mem hi)) (hw.item _ (List.getElem_mem hj))
    rw [comparedText, comparedText, comparedTexts_congr hitems]
  | obj has values _ =>
    rw [comparedText, comparedText]
    exact (SameDocument.obj has values).comparedObject_eq hv hw

theorem isEmpty_congr {α : Type} {xs ys : List α} (h : xs.length = ys.length) :
    xs.isEmpty = ys.isEmpty := by
  rw [Bool.eq_iff_iff, List.isEmpty_iff_length_eq_zero, List.isEmpty_iff_length_eq_zero, h]

theorem isEmptyValue_eq (h : v.SameDocument w) (hv : v.IsJson) (hw : w.IsJson) :
    v.isEmptyValue = w.isEmptyValue := by
  cases h with
  | refl => rfl
  | list length _ => exact isEmpty_congr length
  | obj has _ => exact isEmpty_congr (length_eq_of_has hv.nodup hw.nodup has)

theorem comparedAlike (h : v.SameDocument w) (hv : v.IsJson) (hw : w.IsJson) :
    v.ComparedAlike w where
  empty := h.isEmptyValue_eq hv hw
  text := h.comparedText_eq hv hw
  number := by cases h <;> rfl

end SameDocument

end Value

/-! ### Rules -/

theorem Comparison.holds_congr {actual actual' expected expected' : Value} (c : Comparison)
    (hactual : actual.ComparedAlike actual') (hexpected : expected.ComparedAlike expected') :
    c.holds actual expected = c.holds actual' expected' := by
  have hinequality : c.inequality actual expected = c.inequality actual' expected' := by
    rw [inequality, inequality, hactual.number, hexpected.number, hactual.text, hexpected.text]
  cases c <;> simp only [holds, hactual.empty, hactual.text, hexpected.text, hinequality]

namespace VisibilityRule

/-- The keys under which a rule may give what it compares with. -/
def valueKeys : List String := ["value", "comparisonValue"]

/-- What a rule, as it is given, compares with. -/
def valueOf (o : Obj) : Value :=
  Obj.getEither o "value" "comparisonValue"

/-- Whether two rules, as they are given, differ in nothing but the order of keys in what they
compare with. -/
inductive Reordered : Value → Value → Prop
  | refl (raw : Value) : Reordered raw raw
  | value {raw raw' : Value} {o o' : Obj} (asObj : raw.asObj? = some o)
      (asObj' : raw'.asObj? = some o')
      (rest : ∀ key, key ∉ valueKeys → Obj.get? o key = Obj.get? o' key)
      (isJson : (valueOf o).IsJson) (isJson' : (valueOf o').IsJson)
      (same : (valueOf o).SameDocument (valueOf o')) : Reordered raw raw'

/-- Whether two rules differ at most in what they compare with, and that is compared alike. -/
structure ReadAlike (r r' : VisibilityRule) : Prop where
  rest : r' = { r with value := r'.value }
  value : r.value.ComparedAlike r'.value

theorem ReadAlike.refl (r : VisibilityRule) : r.ReadAlike r := ⟨rfl, .refl _⟩

/-- Objects that agree beside what they compare with are read as rules that do. -/
theorem ofObj_congr {o o' : Obj} (h : ∀ key, key ∉ valueKeys → Obj.get? o key = Obj.get? o' key) :
    ofObj o' = (do return { (← ofObj o) with value := valueOf o' }) := by
  have hget (key : String) (hkey : key ∉ valueKeys) : Obj.get o' key = Obj.get o key := by
    rw [Obj.get, Obj.get, h key hkey]
  have heither (key other : String) (hkey : key ∉ valueKeys) (hother : other ∉ valueKeys) :
      Obj.getEither o' key other = Obj.getEither o key other := by
    rw [Obj.getEither, Obj.getEither, h key hkey, hget other hother]
  rw [ofObj, ofObj, hget "action" (by decide), heither "ifKey" "if_key" (by decide) (by decide),
    heither "op" "operator" (by decide) (by decide),
    heither "targets" "targetKeys" (by decide) (by decide)]
  simp only [bind_assoc, pure_bind]
  rfl

theorem value_of_ofObj {o : Obj} {r : VisibilityRule} (h : ofObj o = .ok r) :
    r.value = valueOf o := by
  simp only [ofObj, Outcome.bind_eq_ok_iff, Outcome.pure_eq_ok_iff] at h
  obtain ⟨_, -, _, -, _, -, _, -, rfl⟩ := h
  rfl

/-- Reordered rules are read alike: both are at fault in the same way, or no rules, or rules that
compare with values which are compared alike. -/
theorem Reordered.cases {raw raw' : Value} (h : Reordered raw raw') :
    (∃ fault, ofValue? raw = .error fault ∧ ofValue? raw' = .error fault) ∨
      (ofValue? raw = .ok none ∧ ofValue? raw' = .ok none) ∨
      ∃ r r', ofValue? raw = .ok (some r) ∧ ofValue? raw' = .ok (some r') ∧ r.ReadAlike r' := by
  cases h with
  | refl =>
    match hread : ofValue? raw with
    | .error fault => exact .inl ⟨fault, rfl, rfl⟩
    | .ok none => exact .inr (.inl ⟨rfl, rfl⟩)
    | .ok (some r) => exact .inr (.inr ⟨r, r, rfl, rfl, .refl r⟩)
  | value asObj asObj' rest isJson isJson' same =>
    rw [ofValue?, ofValue?, asObj, asObj']
    dsimp only
    rw [ofObj_congr rest]
    cases hread : ofObj _ with
    | error fault => exact .inl ⟨fault, rfl, rfl⟩
    | ok r =>
      refine .inr (.inr ⟨r, _, rfl, rfl, rfl, ?_⟩)
      rw [value_of_ofObj hread]
      exact same.comparedAlike isJson isJson'

variable {r r' : VisibilityRule} {row row' : Obj}

/-- Whether what a rule, as it is given, looks up in two rows is compared alike. -/
def SeesAlike (raw : Value) (row row' : Obj) : Prop :=
  ∀ r, ofValue? raw = .ok (some r) → r.ifKey ≠ "" →
    (Obj.get row r.ifKey).ComparedAlike (Obj.get row' r.ifKey)

theorem matchesRow_congr (h : r.ReadAlike r')
    (hrow : r.ifKey ≠ "" → (Obj.get row r.ifKey).ComparedAlike (Obj.get row' r.ifKey)) :
    r.matchesRow row = r'.matchesRow row' := by
  have hread : (r.readOf row).ComparedAlike (r'.readOf row') := by
    rw [h.rest, readOf, readOf]
    split
    · exact .refl _
    · next hne => exact hrow hne
  have hoperator : r'.operator = r.operator := by rw [h.rest]
  have hholds (r : VisibilityRule) (row : Obj) :
      r.matchesRow row = (Comparison.ofOperator r.operator).holds (r.readOf row) r.value := rfl
  rw [hholds, hholds, hoperator, Comparison.holds_congr _ hread h.value]

end VisibilityRule

/-! ### Rows -/

variable {raw raw' : Value} {rules rules' : List Value} {row row' : Obj}

theorem applyRule_congr (m : VisibilityMap) (h : VisibilityRule.Reordered raw raw')
    (hrow : VisibilityRule.SeesAlike raw row row') :
    applyRule m raw row = applyRule m raw' row' := by
  rw [applyRule, applyRule]
  obtain ⟨fault, h, h'⟩ | ⟨h, h'⟩ | ⟨r, r', h, h', halike⟩ := h.cases
  · rw [h, h']
    rfl
  · rw [h, h']
    rfl
  · rw [h, h', Outcome.ok_bind, Outcome.ok_bind]
    dsimp only
    rw [VisibilityRule.matchesRow_congr halike (hrow r h), halike.rest]

/-- Rules have the same effect if they are reordered ones and see alike what they look up. -/
theorem applyRules_congr (m : VisibilityMap) (h : List.Forall₂ (fun raw raw' =>
      VisibilityRule.Reordered raw raw' ∧ VisibilityRule.SeesAlike raw row row') rules rules') :
    applyRules m row rules = applyRules m row' rules' := by
  induction h generalizing m with
  | nil => rfl
  | cons hfirst _ ih =>
    rw [applyRules, applyRules, applyRule_congr m hfirst.1 hfirst.2]
    exact Outcome.bind_congr fun next _ => ih next

/-- What is shown of a row, and whether it can be told at all, does not depend on the order of keys,
be it in the row or in what the rules compare with. -/
theorem visibilityOf_of_sameDocument (subfields : List Value)
    (hrules : List.Forall₂ VisibilityRule.Reordered rules rules') (hrow : (Value.obj row).IsJson)
    (hrow' : (Value.obj row').IsJson) (h : (Value.obj row).SameDocument (.obj row')) :
    visibilityOf subfields rules row = visibilityOf subfields rules' row' := by
  have halike (raw : Value) : VisibilityRule.SeesAlike raw row row' := fun r _ _ =>
    h.get.comparedAlike (hrow.get r.ifKey) (hrow'.get r.ifKey)
  rw [visibilityOf, visibilityOf]
  exact Outcome.bind_congr fun first _ =>
    applyRules_congr first (hrules.imp fun raw _ hrule => ⟨hrule, halike raw⟩)

/-- A rule that hides the note of a row whose sizes are given ones. -/
def sizesRule (sizes : Obj) : Value :=
  .obj [("ifKey", .str "sizes"), ("op", .str "equals"), ("value", .obj sizes),
    ("action", .str "hide"), ("targets", .ofTexts ["note"])]

/-- Sizes in either order, in a row and in a rule. -/
theorem note_hidden_in_any_order :
    let sizes : Obj := [("wide", .int 4), ("tall", .int 3)]
    let sizes' : Obj := [("tall", .int 3), ("wide", .int 4)]
    let row : Obj := [("sizes", .obj sizes), ("note", .str "n")]
    let row' : Obj := [("note", .str "n"), ("sizes", .obj sizes')]
    visibilityOf [.str "note"] [sizesRule sizes, .null] row =
      visibilityOf [.str "note"] [sizesRule sizes', .null] row' := by
  intro sizes sizes' row row'
  have hsizes : (Value.obj sizes).IsJson := isJson_pair (by decide) (.int 4) (.int 3)
  have hsizes' : (Value.obj sizes').IsJson := isJson_pair (by decide) (.int 3) (.int 4)
  have hsame : (Value.obj sizes).SameDocument (.obj sizes') := sameDocument_swap (by decide) _ _
  have hrest (key : String) (hkey : key ∉ VisibilityRule.valueKeys) :
      Obj.get? (sizesRule sizes).members key = Obj.get? (sizesRule sizes').members key := by
    have hne : key ≠ "value" := fun heq => hkey (heq ▸ List.mem_cons_self)
    simp [sizesRule, Value.members, Value.asObj?, Obj.get?_cons, hne]
  have hjson : (Value.obj row).IsJson := isJson_pair (by decide) hsizes (.str _)
  have hjson' : (Value.obj row').IsJson := isJson_pair (by decide) (.str _) hsizes'
  have hnested : (Value.obj row).SameDocument (.obj [("sizes", .obj sizes'), ("note", .str "n")]) :=
    .obj_of_forall₂ (.cons ⟨rfl, hsame⟩ (.cons ⟨rfl, .refl _⟩ .nil))
  have hswap : (Value.obj [("sizes", .obj sizes'), ("note", .str "n")]).SameDocument (.obj row') :=
    sameDocument_swap (by decide) _ _
  exact visibilityOf_of_sameDocument [.str "note"]
    (.cons (.value rfl rfl hrest hsizes hsizes' hsame) (.cons (.refl _) .nil)) hjson hjson'
    (hnested.trans hswap)

end ContentEngine
