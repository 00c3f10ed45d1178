import ContentEngine.Title
import ContentEngine.Rule
import ContentEngine.Value.Number
/-!
# Visibility

Which values of a row are shown. Everything declared is shown at first; then the rules apply in
their order, and each rule that matches shows or hides its targets, so the last rule that matches
decides. Values are compared as numbers where the operator is an inequality and both sides have a
number, and as texts otherwise.
-/

namespace ContentEngine

/-- Whether a value is empty: null, a blank text, or a list or object without parts. -/
def Value.isEmptyValue : Value → Bool
  | .null => true
  | .str s => isBlankText s
  | .list items => items.isEmpty
  | .tuple items => items.isEmpty
  | .obj members => members.isEmpty
  | .table rows => rows.isEmpty
  | _ => false

mutual

/-- The text as which a value is compared. -/
def comparedText : Value → Outcome String
  | .list items => do return joinTexts "," (← comparedTexts items)
  | .tuple items => do return joinTexts "," (← comparedTexts items)
  | .obj members => comparedObject (.obj members)
  | .table rows => comparedObject (.table rows)
  | v => scalarLine v
where
  /-- The text as which an object is compared: canonical JSON, or a literal if JSON cannot hold
  it. -/
  comparedObject (v : Value) : Outcome String :=
    match v.canonicalText with
    | .ok text => .ok text
    | .error _ => v.text

/-- The texts as which the items of a list are compared. -/
def comparedTexts : List Value → Outcome (List String)
  | [] => .ok []
  | item :: rest => do
    let text ← comparedText item
    return text :: (← comparedTexts rest)

end

/-- The comparisons that a rule can make. -/
inductive Comparison where
  | equals
  | notEquals
  | contains
  | notContains
  | greater
  | atLeast
  | less
  | atMost
  | truthy
  | falsy
deriving Repr, DecidableEq

namespace Comparison

/-- The comparison that an operator names. Any other operator tests for equality. -/
def ofOperator (operator : String) : Comparison :=
  match operator with
  | "not_equals" => notEquals
  | "contains" => contains
  | "not_contains" => notContains
  | "gt" => greater
  | "gte" => atLeast
  | "lt" => less
  | "lte" => atMost
  | "truthy" => truthy
  | "falsy" => falsy
  | _ => equals

/-- Whether two things that are ordered stand in the relation of an inequality. Any comparison that
is no inequality counts as the last one. -/
def orders {α : Type} (lt le : α → α → Bool) (c : Comparison) (a b : α) : Bool :=
  match c with
  | greater => lt b a
  | atLeast => le b a
  | less => lt a b
  | _ => le a b

/-- Whether two values stand in the relation of an inequality: as numbers if both have one, and as
texts otherwise. -/
def inequality (c : Comparison) (actual expected : Value) : Outcome Bool := do
  let a ← actual.toNumber
  let b ← expected.toNumber
  match a, b with
  | some x, some y => return orders (fun x y => decide (x < y)) (fun x y => decide (x ≤ y)) c x y
  | _, _ =>
    let s ← comparedText actual
    let t ← comparedText expected
    return orders (fun s t => decide (s < t)) (fun s t => decide (s ≤ t)) c s t

/-- Whether a text occurs in another, in any case of letters. -/
def mentions (text part : String) : Bool :=
  occursIn (lower part.toList) (lower text.toList)

/-- Whether two values stand in the relation of a comparison. -/
def holds (c : Comparison) (actual expected : Value) : Outcome Bool :=
  match c with
  | truthy => .ok (!actual.isEmptyValue)
  | falsy => .ok actual.isEmptyValue
  | _ => do
    let s ← comparedText actual
    let t ← comparedText expected
    match c with
    | notEquals => return s != t
    | contains => return mentions s t
    | notContains => return !mentions s t
    | greater | atLeast | less | atMost => inequality c actual expected
    | _ => return s == t

end Comparison

namespace VisibilityRule

/-- Whether a rule matches a row. A rule that reads no key reads null. -/
def matchesRow (r : VisibilityRule) (row : Obj) : Outcome Bool :=
  let actual := if r.ifKey = "" then .null else Obj.get row r.ifKey
  (Comparison.ofOperator r.operator).holds actual r.value

/-- Whether what a value describes as a rule matches a row. What is no rule does not match. -/
def holds (raw : Value) (row : Obj) : Outcome Bool := do
  match ← ofValue? raw with
  | none => return false
  | some rule => rule.matchesRow row

end VisibilityRule

/-- The keys of a row that are shown, each with whether it is. -/
abbrev VisibilityMap := List (String × Bool)

namespace VisibilityMap

/-- Writes whether a key is shown, in place if the key is there and at the end otherwise. -/
def set (m : VisibilityMap) (key : String) (shown : Bool) : VisibilityMap :=
  match m with
  | [] => [(key, shown)]
  | (k, b) :: rest => if k = key then (k, shown) :: rest else (k, b) :: set rest key shown

/-- Writes whether some declared keys are shown. Keys that are not declared stay unknown. -/
def setDeclared (m : VisibilityMap) (keys : List String) (shown : Bool) : VisibilityMap :=
  m.map fun (key, before) => (key, if keys.contains key then shown else before)

/-- Whether a key is shown, if it is declared. -/
def get? (m : VisibilityMap) (key : String) : Option Bool :=
  List.lookup key m

/-- The map as a value. -/
def toValue (m : VisibilityMap) : Value :=
  .obj (m.map fun (key, shown) => (key, .bool shown))

end VisibilityMap

/-- The key that a declaration of a subfield names. -/
def declaredKey (subfield : Value) : Outcome String :=
  match subfield with
  | .str _ => subfield.snakeCase
  | _ =>
    match subfield.asObj? with
    | some o => (Obj.firstTruthy o ["key", "field_key"]).snakeCase
    | none => .ok ""

/-- The map in which every declared key is shown. -/
def declaredVisible (m : VisibilityMap) : List Value → Outcome VisibilityMap
  | [] => .ok m
  | subfield :: rest => do
    let key ← declaredKey subfield
    declaredVisible (if key = "" then m else m.set key true) rest

/-- A rule's effect on what is shown of a row. -/
def applyRule (m : VisibilityMap) (raw : Value) (row : Obj) : Outcome VisibilityMap := do
  match ← VisibilityRule.ofValue? raw with
  | none => return m
  | some rule =>
    if ← rule.matchesRow row then return m.setDeclared rule.targets (rule.action != .hide)
    else return m

/-- The effect of some rules, one after the other. -/
def applyRules (m : VisibilityMap) (row : Obj) : List Value → Outcome VisibilityMap
  | [] => .ok m
  | raw :: rest => do
    let m ← applyRule m raw row
    applyRules m row rest

/-- What is shown of a row, for the subfields that are declared and the rules that are given. -/
def visibilityOf (subfields rules : List Value) (row : Obj) : Outcome VisibilityMap := do
  applyRules (← declaredVisible [] subfields) row rules

end ContentEngine
