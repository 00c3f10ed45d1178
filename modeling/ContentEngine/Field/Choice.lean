import ContentEngine.Value.Literal
/-!
# Choices

The options of a choice field. Editors write an option as a plain value or as an object under one of
many names; here it becomes a pair of texts, the value that is stored and the label that is shown.
-/

namespace ContentEngine

/-- An option of a choice field. -/
structure Choice where
  value : String
  label : String
deriving Repr, DecidableEq

namespace Choice

/-- The keys under which an option may carry its value. -/
def valueKeys : List String :=
  ["value", "slug", "id", "key", "code", "name", "title", "label"]

/-- The keys under which an option may carry its label. -/
def labelKeys : List String :=
  ["label", "title", "name", "value", "slug", "id", "code"]

/-- The first value under one of several keys that is not null. -/
def firstGiven? (o : Obj) (keys : List String) : Option Value :=
  (keys.map (Obj.get o)).find? (!·.isNull)

/-- The option that an object describes. Without a value it describes none. -/
def ofObj? (o : Obj) : Outcome (Option Choice) := do
  match firstGiven? o valueKeys with
  | none => return none
  | some value =>
    let label := (firstGiven? o labelKeys).getD value
    return some ⟨← value.text, ← label.text⟩

/-- The option that a value describes. -/
def ofValue? (item : Value) : Outcome (Option Choice) :=
  match item with
  | .str _ | .int _ | .float _ | .bool _ => do
    let text ← item.text
    return some ⟨text, text⟩
  | _ =>
    match item.asObj? with
    | some o => ofObj? o
    | none => .ok none

/-- An option as an object. -/
def toValue (c : Choice) : Value :=
  .obj [("value", .str c.value), ("label", .str c.label)]

/-- The options that a list describes. Items that describe none are left out, and anything but a
list describes no options. -/
def listOf (raw : Value) : Outcome (List Choice) := do
  return (← ((raw.asList?.getD []).mapM ofValue?)).filterMap id

end Choice

end ContentEngine
