import ContentEngine.Text.Printable
import ContentEngine.Number.Identifier
import ContentEngine.Fault
/-!
# The text of a value

Any value can be shown as text. A text is shown as it is; anything else as a literal: `None`,
`True`, `[1, 'a']`, `{'k': 1.0}`, in which texts are quoted and objects keep their order. Only an
integer with too many digits has no text.
-/

namespace ContentEngine

/-!
### Quoted text

Texts inside messages and literals stand between quotes: single ones, unless the text holds a single
quote and no double one. The backslash, the quote itself and every character that does not print as
itself are escaped.
-/

/-- The quote that a text is put between. -/
def quoteFor (text : List Char) : Char :=
  if text.contains '\'' && !text.contains '"' then '"' else '\''

/-- An escape with the code of a character: two, four or eight hexadecimal digits. -/
def codeEscape (c : Char) : List Char :=
  let n := c.toNat
  if n < 0x100 then '\\' :: 'x' :: hexText 2 n
  else if n < 0x10000 then '\\' :: 'u' :: hexText 4 n
  else '\\' :: 'U' :: hexText 8 n

/-- A character as it stands between quotes. -/
def quotedChar (quote c : Char) : List Char :=
  if c = quote ∨ c = '\\' then ['\\', c]
  else if c = '\t' then ['\\', 't']
  else if c = '\n' then ['\\', 'n']
  else if c = '\r' then ['\\', 'r']
  else if isPrintable c then [c]
  else codeEscape c

/-- A text between quotes. -/
def quoted (text : String) : String :=
  let quote := quoteFor text.toList
  String.ofList (quote :: (text.toList.flatMap (quotedChar quote) ++ [quote]))

/-- Bytes between quotes. Only the printable characters of ASCII stand for themselves. -/
def quotedBytes (data : List UInt8) : String :=
  let chars := data.map fun b => Char.ofNat b.toNat
  let quote := quoteFor chars
  let shown := chars.flatMap fun c => if c.toNat < 127 then quotedChar quote c else codeEscape c
  String.ofList ('b' :: quote :: (shown ++ [quote]))

/-! ### Literals and texts -/

/-- The text of an integer. -/
def integerText (n : Int) : Outcome String :=
  match integerText? n with
  | some text => .ok text
  | none => .error .badInteger

/-- A call with its arguments, as literals of calendar values show one. -/
def callText (name : String) (arguments : List String) : String :=
  name ++ "(" ++ joinTexts ", " arguments ++ ")"

/-- The literal of a distance from universal time. -/
def offsetLiteral (offset : Int) : String :=
  if offset = 0 then "datetime.timezone.utc"
  else
    let days := offset / 86400
    let seconds := offset % 86400
    callText "datetime.timezone" [callText "datetime.timedelta"
      ((if days = 0 then [] else ["days=" ++ (integerText? days).getD ""])
        ++ ["seconds=" ++ (integerText? seconds).getD ""])]

/-- The literal of a day. -/
def Day.literal (d : Day) : String :=
  callText "datetime.date" [paddedText 1 d.year, paddedText 1 d.month, paddedText 1 d.day]

/-- The literal of a moment. Seconds and microseconds are left out from the end if they are zero. -/
def Moment.literal (m : Moment) : String :=
  let base := [m.day.year, m.day.month, m.day.day, m.hour, m.minute]
  let fine :=
    if m.micro ≠ 0 then [m.second, m.micro] else if m.second ≠ 0 then [m.second] else []
  callText "datetime.datetime" ((base ++ fine).map (paddedText 1)
    ++ (m.offset?.map fun offset => "tzinfo=" ++ offsetLiteral offset).toList)

namespace Value

mutual

/-- The literal of a value. -/
def literal : Value → Outcome String
  | null => .ok "None"
  | bool b => .ok (if b then "True" else "False")
  | int n => integerText n
  | float x => .ok (floatText x)
  | str text => .ok (quoted text)
  | list items => do return "[" ++ joinTexts ", " (← literalItems items) ++ "]"
  | obj members => do return "\x7b" ++ joinTexts ", " (← literalMembers members) ++ "\x7d"
  | bytes data => .ok (quotedBytes data)
  | identifier u => .ok (callText "UUID" [quoted u.text])
  | moment m => .ok m.literal
  | day d => .ok d.literal
  | decimal d => .ok (callText "Decimal" [quoted d.text])
  | tuple items => do
    match ← literalItems items with
    | [item] => return "(" ++ item ++ ",)"
    | texts => return "(" ++ joinTexts ", " texts ++ ")"
  | set items => do
    match ← literalItems items with
    | [] => return "set()"
    | texts => return "\x7b" ++ joinTexts ", " texts ++ "\x7d"
  | table rows => do return "\x7b" ++ joinTexts ", " (← literalRows rows) ++ "\x7d"

/-- The literals of some values. -/
def literalItems : List Value → Outcome (List String)
  | [] => .ok []
  | item :: rest => do
    let first ← literal item
    return first :: (← literalItems rest)

/-- The literals of the members of an object. -/
def literalMembers : List (String × Value) → Outcome (List String)
  | [] => .ok []
  | (key, value) :: rest => do
    let first ← literal value
    return (quoted key ++ ": " ++ first) :: (← literalMembers rest)

/-- The literals of the rows of a table. -/
def literalRows : List (Value × Value) → Outcome (List String)
  | [] => .ok []
  | (key, value) :: rest => do
    let left ← literal key
    let right ← literal value
    return (left ++ ": " ++ right) :: (← literalRows rest)

end

/-- The text of a value. -/
def text : Value → Outcome String
  | str s => .ok s
  | identifier u => .ok u.text
  | moment m => .ok (m.textWith " ")
  | day d => .ok d.text
  | decimal d => .ok d.text
  | v => v.literal

/-- The text of a value that counts as present, and the empty text otherwise. -/
def presentText (v : Value) : Outcome String :=
  if v.truthy then v.text else .ok ""

end Value

end ContentEngine
