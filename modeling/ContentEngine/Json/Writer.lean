import ContentEngine.Value.Literal
/-!
# Writing JSON

Two forms of a document as JSON text. The canonical form sorts the keys of every object by code
point and has no blanks, so two documents that differ in the order of keys alone have one canonical
form. The stored form keeps the order of keys and puts a blank after each comma and colon. Both
escape only the quote, the backslash and the control characters of ASCII.
-/

namespace ContentEngine

/-!
### Plain values

A value is plain if it is JSON: null, booleans, integers, finite doubles, texts, and lists and
objects of plain values. A database hands out more than that, and `Value.plain` brings it to plain
form or says where in the document something has no such form. Places are written as `$.key[index]`.
-/

namespace Value

/-- The kind of a value, as messages name it. -/
def kindName : Value → String
  | null => "NoneType"
  | bool _ => "bool"
  | int _ => "int"
  | float _ => "float"
  | str _ => "str"
  | list _ => "list"
  | obj _ | table _ => "dict"
  | bytes _ => "bytes"
  | identifier _ => "UUID"
  | moment _ => "datetime"
  | day _ => "date"
  | decimal _ => "Decimal"
  | tuple _ => "tuple"
  | set _ => "set"

/-- The plain form of a decimal: an integer if it is equal to one, the nearest double otherwise. -/
def plainDecimal (path : String) (d : Decimal) : Outcome Value :=
  if d.isFinite then
    match d.toInt? with
    | some n => .ok (.int n)
    | none => .ok (.float d.toFloat)
  else .error (.nonFinite "decimal" path (callText "Decimal" [quoted d.text]))

mutual

/-- The plain form of a value that stands at a place of a document. -/
def plain (path : String) : Value → Outcome Value
  | null => .ok null
  | bool b => .ok (bool b)
  | int n => .ok (int n)
  | str s => .ok (str s)
  | float x =>
    if isFiniteFloat x then .ok (float x) else .error (.nonFinite "float" path (floatText x))
  | list items => do return list (← plainItems path 0 items)
  | tuple items => do return list (← plainItems path 0 items)
  | obj members => do return obj (← plainMembers path members)
  | table rows => do return obj (← plainRows path rows)
  | identifier u => .ok (str u.text)
  | moment m => .ok (str m.text)
  | day d => .ok (str d.text)
  | decimal d => plainDecimal path d
  | bytes data => .error (.unsupportedValue path (kindName (bytes data)))
  | set items => .error (.unsupportedValue path (kindName (set items)))

/-- The plain forms of items, of which the first has the given index. -/
def plainItems (path : String) (index : Nat) : List Value → Outcome (List Value)
  | [] => .ok []
  | item :: rest => do
    let first ← plain (path ++ "[" ++ paddedText 1 index ++ "]") item
    return first :: (← plainItems path (index + 1) rest)

/-- The plain forms of the members of an object. -/
def plainMembers (path : String) : List (String × Value) → Outcome (List (String × Value))
  | [] => .ok []
  | (key, value) :: rest => do
    let first ← plain (path ++ "." ++ key) value
    return (key, first) :: (← plainMembers path rest)

/-- The plain forms of the rows of a table. A key that is no text has none. -/
def plainRows (path : String) : List (Value × Value) → Outcome (List (String × Value))
  | [] => .ok []
  | (key, value) :: rest =>
    match key with
    | .str name => do
      let first ← plain (path ++ "." ++ name) value
      return (name, first) :: (← plainRows path rest)
    | other => .error (.unsupportedKey path other.kindName)

end

end Value

/-! ### Styles -/

/-- The ways to write a document. -/
structure JsonStyle where
  itemSeparator : List Char
  keySeparator : List Char
  sortKeys : Bool

/-- The canonical way: sorted keys and no blanks. -/
def JsonStyle.canonical : JsonStyle := ⟨[','], [':'], true⟩

/-- The stored way: keys in their order, and a blank after a separator. -/
def JsonStyle.stored : JsonStyle := ⟨[',', ' '], [':', ' '], false⟩

/-- A character as it stands in a JSON text. -/
def jsonChar (c : Char) : List Char :=
  if c = '"' ∨ c = '\\' then ['\\', c]
  else if c = '\n' then ['\\', 'n']
  else if c = '\r' then ['\\', 'r']
  else if c = '\t' then ['\\', 't']
  else if c = '\x08' then ['\\', 'b']
  else if c = '\x0c' then ['\\', 'f']
  else if c.toNat < 32 then '\\' :: 'u' :: hexText 4 c.toNat
  else [c]

/-- A text as a JSON string. -/
def jsonString (text : String) : List Char :=
  '"' :: (text.toList.flatMap jsonChar ++ ['"'])

/-- Written items between brackets. -/
def bracketed (opening closing : Char) (separator : List Char) (items : List (List Char)) :
    List Char :=
  opening :: (List.intercalate separator items ++ [closing])

/-- Members in the order of their keys. -/
def sortMembers {α : Type} (members : List (String × α)) : List (String × α) :=
  members.mergeSort fun a b => decide (a.1 ≤ b.1)

namespace Value

mutual

/-- A plain value as JSON text. -/
def writeJson (style : JsonStyle) : Value → Outcome (List Char)
  | null => .ok "null".toList
  | bool b => .ok (if b then "true".toList else "false".toList)
  | int n => do return (← integerText n).toList
  | float x => if isFiniteFloat x then .ok (floatText x).toList else .error .unwritable
  | str s => .ok (jsonString s)
  | list items => do
    return bracketed '[' ']' style.itemSeparator (← writeJsonItems style items)
  | obj members => do
    let written ← writeJsonMembers style members
    let ordered := if style.sortKeys then sortMembers written else written
    return bracketed '\x7b' '\x7d' style.itemSeparator
      (ordered.map fun member => jsonString member.1 ++ style.keySeparator ++ member.2)
  | _ => .error .unwritable

/-- Plain values as JSON texts. -/
def writeJsonItems (style : JsonStyle) : List Value → Outcome (List (List Char))
  | [] => .ok []
  | item :: rest => do
    let first ← writeJson style item
    return first :: (← writeJsonItems style rest)

/-- The values of the members of an object as JSON texts. -/
def writeJsonMembers (style : JsonStyle) :
    List (String × Value) → Outcome (List (String × List Char))
  | [] => .ok []
  | (key, value) :: rest => do
    let first ← writeJson style value
    return (key, first) :: (← writeJsonMembers style rest)

end

/-- A value in the given JSON form. -/
def jsonText (style : JsonStyle) (v : Value) : Outcome String := do
  return String.ofList (← writeJson style (← plain "$" v))

/-- The canonical JSON text of a value. -/
def canonicalText (v : Value) : Outcome String :=
  v.jsonText .canonical

/-- The JSON text in which a value is stored. -/
def storedText (v : Value) : Outcome String :=
  v.jsonText .stored

end Value

end ContentEngine
