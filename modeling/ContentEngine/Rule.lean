import ContentEngine.Key
/-!
# Visibility rules

A rule of a repeater looks at one value of a row and, if that value compares with the rule's own
value in the right way, shows or hides some of the row's other values. Rules are written loosely; a
`VisibilityRule` is a rule in its one strict form.
-/

namespace ContentEngine

/-- What a rule does with its targets. -/
inductive RuleAction where
  | reveal
  | hide
deriving Repr, DecidableEq

/-- The name of an action. -/
def RuleAction.text : RuleAction → String
  | reveal => "show"
  | hide => "hide"

/-- A rule: the key it reads, the operator and the value it compares with, and what happens to which
keys. -/
structure VisibilityRule where
  ifKey : String
  operator : String
  value : Value
  action : RuleAction
  targets : List String

namespace VisibilityRule

/-- The keys that a list of targets names. Null and blank ones are left out. -/
def targetKeys : List Value → Outcome (List String)
  | [] => .ok []
  | target :: rest =>
    if target.isNull then targetKeys rest
    else do
      let key ← target.snakeCase
      let keys ← targetKeys rest
      return if key = "" then keys else key :: keys

/-- The rule that an object describes. -/
def ofObj (o : Obj) : Outcome VisibilityRule := do
  let action ← ((Obj.get o "action").orElse (.str "show")).text
  let ifKey ← (Obj.getEither o "ifKey" "if_key").snakeCase
  let operator ← ((Obj.getEither o "op" "operator").orElse (.str "equals")).text
  let targets :=
    match Obj.getEither o "targets" "targetKeys" with
    | .str key => [.str key]
    | other => other.asList?.getD []
  return {
    ifKey
    operator := trim operator
    value := Obj.getEither o "value" "comparisonValue"
    action := if lowerText (trim action) = "hide" then .hide else .reveal
    targets := ← targetKeys targets }

/-- The rule that a value describes. Only objects describe rules. -/
def ofValue? (raw : Value) : Outcome (Option VisibilityRule) :=
  match raw.asObj? with
  | some o => do return some (← ofObj o)
  | none => .ok none

/-- A rule as an object. -/
def toValue (r : VisibilityRule) : Value :=
  .obj [("ifKey", .str r.ifKey), ("op", .str r.operator), ("value", r.value),
    ("action", .str r.action.text), ("targets", .ofTexts r.targets)]

/-- The rules that a list describes. -/
def listOf (raw : List Value) : Outcome (List VisibilityRule) := do
  return (← raw.mapM ofValue?).filterMap id

end VisibilityRule

end ContentEngine
