import ContentEngine.Field.Reference
import ContentEngine.Visibility
import ContentEngine.Field.Definition
/-!
# Values as plain text

How the value of a field is shown in lists of entries: always as plain text on one line, whatever
the kind of field. Of a repeater the first rows are shown, of each of them the first values, and
repeaters inside are only counted below a depth.
-/

namespace ContentEngine

/-!
### Users in lists

How a user is shown where an entry refers to one: by name, by mail address, or by both.
-/

/-- The text of a value without the blanks at its ends. Null has no text. -/
def Value.plainText (v : Value) : Outcome String :=
  if v.isNull then .ok "" else do return trim (← v.text)

/-- The text of a value without the blanks at its ends. What does not count as present has none. -/
def Value.labelText (v : Value) : Outcome String := do
  return trim (← v.presentText)

/-- The first of two texts that is not empty. -/
def firstOf (a b : String) : String :=
  if a = "" then b else a

/-- The label of a user with a name and a mail address, either of which may be empty. -/
def UserDisplay.label (display : UserDisplay) (name email : String) : String :=
  match display with
  | .email => firstOf email name
  | .name => firstOf name email
  | .nameEmail => if name ≠ "" ∧ email ≠ "" then name ++ " — " ++ email else firstOf name email

/-- The label of a user. What is no user has none. -/
def userLabel (user : Value) (display : UserDisplay) : Outcome String := do
  match user.asObj? with
  | none => return ""
  | some o =>
    let name ← (Obj.get o "name").labelText
    let email ← (Obj.get o "email").labelText
    return display.label name email

/-! ### Values of fields -/

namespace Display

/-- What is known about the users that entries refer to: the settings of the fields that refer to
users, and the users. -/
structure UserContext where
  fields : Obj
  users : Obj

/-- The context in which nothing is known. -/
def UserContext.empty : UserContext := ⟨[], []⟩

/-- The context that a value describes. -/
def UserContext.ofValue (v : Value) : UserContext :=
  ⟨Obj.getObj v.members "userFields", Obj.getObj v.members "usersById"⟩

/-- The texts that are not empty, with a separator between two neighbours. -/
def joinPresent (separator : String) (texts : List String) : String :=
  joinTexts separator (texts.filter (· != ""))

/-- The parts of an object under some keys, with a separator between two neighbours. -/
def joinParts (separator : String) (o : Obj) (keys : List String) : Outcome String := do
  return joinPresent separator (← keys.mapM fun key => (Obj.get o key).plainText)

/-- The label of a user that is given by identifier. A user that is not known is shown by the
identifier. -/
def userText (users : Obj) (display : UserDisplay) (id : Value) : Outcome String := do
  let text ← id.plainText
  let label ← if id.isNull then pure "" else userLabel (Obj.get users text) display
  return firstOf label text

/-- The labels of the users that a field refers to. -/
def userTexts (context : UserContext) (field v : Value) : Outcome String := do
  let key := (Obj.get field.members "key").asText?.getD ""
  let settings := Obj.getObj context.fields key
  let display := UserDisplay.ofText ((Obj.get settings "display").asText?.getD "")
  let labels ← (v.asList?.getD [v]).mapM (userText context.users display)
  return joinPresent ", " labels

/-- The texts of a value of a field that takes several choices. A text lists them between commas. -/
def choiceTexts : Value → Outcome (List String)
  | .list items => items.mapM Value.plainText
  | .str s => .ok ((splitAtChar ',' s.toList).map fun part => String.ofList (trimBy isBlank part))
  | v => do return [← v.plainText]

/-- The texts of the records that a relation leads to. -/
def relationText : Value → Outcome String
  | .list items => do return joinTexts ", " (← items.mapM Value.text)
  | v => v.text

/-- The parts of an address. -/
def addressKeys : List String := ["line1", "line2", "city", "state", "postal", "country"]

/-- The parts of a name. -/
def nameKeys : List String := ["title", "first", "middle", "last", "suffix"]

/-- How an object is shown as the value of a kind of field that has a way of its own to show one. -/
def objectText? (kind : FieldKind) (o : Obj) : Option (Outcome String) :=
  match kind with
  | .datetime => some (Obj.get o "utc").plainText
  | .time => some (Obj.get o "time").plainText
  | .personName => some (joinParts " " o nameKeys)
  | .address => some (joinParts ", " o addressKeys)
  | .file | .image | .video =>
    some (((Obj.get o "name").orElse (Obj.get o "title")).orElse (Obj.get o "path")).plainText
  | .color => some (Obj.get o "hex").plainText
  | _ => none

/-- A document as the value of a field for documents. -/
def documentText (v : Value) : String :=
  match v with
  | .str s => s
  | v =>
    match v.canonicalText with
    | .ok text => text
    | .error _ => "[json]"

/-- A value that is shown by its text. -/
def scalarText : Value → Outcome String
  | .bool b => .ok (if b then "Yes" else "No")
  | v => scalarLine v

/-- How a value is shown that is no repeater's. -/
def plainValue (kind : FieldKind) (context : UserContext) (field v : Value) : Outcome String :=
  match kind with
  | .checkbox | .multiselect | .tags => do return joinPresent ", " (← choiceTexts v)
  | .relationUser => userTexts context field v
  | .relation => relationText v
  | .json => .ok (documentText v)
  | _ =>
    match v.asObj?.bind (objectText? kind) with
    | some shown => shown
    | none =>
      match kind with
      | .file | .image | .video => .ok ""
      | _ => scalarText v

/-! ### Repeaters -/

/-- How much of repeaters is shown: how deep rows are shown at all, and how many of them. -/
structure Extent where
  depth : Int
  maxDepth : Int
  limit : Int

/-- The usual extent. -/
def Extent.usual : Extent := ⟨1, 2, 3⟩

/-- The extent inside the rows of a repeater. -/
def Extent.inner (e : Extent) : Extent := ⟨e.depth + 1, e.maxDepth, 2⟩

/-- The number of rows that are shown, of so many. A negative limit leaves as many out at
the end. -/
def Extent.shownRows (e : Extent) (rows : Nat) : Nat :=
  (if 0 ≤ e.limit then min e.limit rows else rows + e.limit).toNat

/-- The key of a subfield. -/
def subfieldKey (sub : Value) : Outcome String :=
  match sub.asObj? with
  | some o => (Obj.firstTruthy o ["field_key", "key"]).snakeCase
  | none => .ok ""

/-- The subfields of a repeater that have a key, each with the key. -/
def subfieldsOf (field : Value) : Outcome (List (String × Value)) := do
  let keyed ← (Obj.getList (fieldConfig field) "subfields").mapM fun sub => do
    return (← subfieldKey sub, sub)
  return keyed.filter fun entry => entry.1 != ""

/-- The rows of a repeater as text: the labels of those that are shown, and how many more
there are. -/
def rowsText (labels : List String) (rows : Nat) : String :=
  let text := joinTexts " | " labels
  if labels.length < rows then text ++ " | +" ++ paddedText 1 (rows - labels.length) ++ " more"
  else text

/-- The label of a row of which some parts are shown. `index` is the place of the row. -/
def rowText (index : Nat) (parts : List String) : String :=
  if parts.isEmpty then "Row " ++ paddedText 1 (index + 1) else joinTexts " · " parts

mutual

/-- How the value of a field is shown. -/
def valueText (context : UserContext) (e : Extent) (field v : Value) : Outcome String :=
  if v.isEmptyValue then .ok ""
  else do
    match ← FieldKind.ofValue (Obj.get field.members "type") with
    | .repeater =>
      match v with
      | .list rows =>
        if e.maxDepth < e.depth then return "(" ++ paddedText 1 rows.length ++ " rows)"
        else
          let subfields ← subfieldsOf field
          return rowsText (← rowTexts e subfields 0 (e.shownRows rows.length) rows) rows.length
      | _ => return ""
    | kind => plainValue kind context field v
termination_by (v.weight, 1)
decreasing_by
  apply Prod.Lex.left
  simp only [Value.weight]
  omega

/-- The labels of the first so many of some rows, of which the first has the given place. -/
def rowTexts (e : Extent) (subfields : List (String × Value)) (index count : Nat) :
    List Value → Outcome (List String)
  | [] => .ok []
  | row :: rest =>
    match count with
    | 0 => .ok []
    | more + 1 => do
      let parts ← rowParts e row.members 2 subfields
      return rowText index parts :: (← rowTexts e subfields (index + 1) more rest)
termination_by rows => (Value.itemsWeight rows, 0)
decreasing_by
  · have := Value.membersWeight_members_le row
    apply Prod.Lex.left
    simp only [Value.itemsWeight]
    omega
  · apply Prod.Lex.left
    simp only [Value.itemsWeight]
    omega

/-- The first values of a row that are shown at all, no more than `room` of them. -/
def rowParts (e : Extent) (row : Obj) (room : Nat) :
    List (String × Value) → Outcome (List String)
  | [] => .ok []
  | (key, sub) :: rest =>
    match room with
    | 0 => .ok []
    | more + 1 => do
      let piece ← valueText .empty e.inner sub (Obj.get row key)
      if piece = "" then rowParts e row (more + 1) rest
      else return piece :: (← rowParts e row more rest)
termination_by subfields => (Value.membersWeight row, subfields.length + 2)
decreasing_by
  · rcases Nat.lt_or_eq_of_le (Value.weight_get_le row key) with h | h
    · exact Prod.Lex.left _ _ h
    · rw [h]
      exact Prod.Lex.right _ (by simp only [List.length_cons]; omega)
  all_goals exact Prod.Lex.right _ (by simp only [List.length_cons]; omega)

end

/-- How the values of an entry's fields are shown, under the keys of the fields. -/
def entryTexts (context : UserContext) (data : Obj) : List Obj → Outcome Obj
  | fields => do
    let shown ← (fields.filter fun f => (Obj.get f "key").truthy).mapM fun f => do
      let key := (Obj.get f "key").asText?.getD ""
      return (key, Value.str (← valueText context .usual (.obj f) (Obj.get data key)))
    return Obj.ofMembers shown

end Display

end ContentEngine
