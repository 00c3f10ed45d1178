import ContentEngine.Template
import ContentEngine.Path
import ContentEngine.Key
import ContentEngine.Json.Writer
/-!
# Titles

An entry's title is typed in, or it is derived from the entry's data by a template whose tokens are
paths into the data. A derived title is one line of text: lists are joined by commas, names are put
together from their parts, and other objects are shown as canonical JSON. A token that leads nowhere
leaves nothing behind.
-/

namespace ContentEngine

/-- Whether a value is null or the empty text. -/
def Value.isVoid : Value → Bool
  | .null => true
  | .str s => s == ""
  | _ => false

/-- The parts of a person's name. -/
def nameParts : List String := ["first", "middle", "last", "title", "suffix"]

/-- The texts of the values under some keys of an object, where there are any. -/
def voidlessTexts (o : Obj) : List String → Outcome (List String)
  | [] => .ok []
  | key :: keys =>
    if (Obj.get o key).isVoid then voidlessTexts o keys
    else do
      let text ← (Obj.get o key).text
      return text :: (← voidlessTexts o keys)

/-- A person's name on one line. -/
def nameLine (o : Obj) : Outcome String := do
  let base := trim (joinTexts " " (← voidlessTexts o ["title", "first", "middle", "last"]))
  let suffix := Obj.get o "suffix"
  if suffix.isVoid then return collapse base
  else return collapse (trim (base ++ " " ++ (← suffix.text)))

/-- An object on one line: a name if it has a part of one, canonical JSON otherwise, or a literal if
JSON cannot hold it. -/
def objectLine (v : Value) (o : Obj) : Outcome String :=
  if nameParts.any (Obj.has o) then nameLine o
  else
    match v.canonicalText with
    | .ok text => .ok text
    | .error _ => v.text

/-- A value without parts on one line. Doubles that are integers are written as such. -/
def scalarLine : Value → Outcome String
  | .null => .ok ""
  | .bool b => .ok (if b then "true" else "false")
  | .float x =>
    match integerOfFloat? x with
    | some n => integerText n
    | none => .ok (floatText x)
  | v => v.text

mutual

/-- A value on one line. -/
def inlineText : Value → Outcome String
  | .list items => do return joinTexts ", " (← inlineItems items)
  | .tuple items => do return joinTexts ", " (← inlineItems items)
  | .obj members => objectLine (.obj members) members
  | .table rows => objectLine (.table rows) (Value.textRows rows)
  | v => scalarLine v

/-- The items of a list on one line each. Items that leave nothing are dropped. -/
def inlineItems : List Value → Outcome (List String)
  | [] => .ok []
  | item :: rest => do
    let text ← inlineText item
    let texts ← inlineItems rest
    return if text = "" then texts else text :: texts

end

/-- What a token of a title template stands for. -/
def titleToken (data : Value) (content : String) : Outcome String := do
  let path := trim content
  if path = "" then return ""
  inlineText (← data.atPath (.str path) .null)

/-- The title that a template gives for some data. -/
def deriveTitle (template data : Value) : Outcome String := do
  let text ← template.presentText
  if isBlankText text then return ""
  return collapse (String.ofList (← Template.render (titleToken data) (Template.pieces text)))

/-- Whether the settings of a view ask for titles from a template. -/
def wantsTemplate (core : Obj) : Outcome Bool := do
  return lowerText (trim (← (Obj.get core "titleMode").presentText)) == "template"

/-- The title under which an entry is stored: the derived one if one is asked for and there is one,
the one that was typed in otherwise. -/
def chosenTitle (core : Obj) (title data : Value) : Outcome Value := do
  if ← wantsTemplate core then
    let derived ← deriveTitle (Obj.get core "titleTemplate") (.obj data.members)
    return if derived = "" then title else .str derived
  else return title

/-- A text without the blanks at its ends. What is no text counts as empty. -/
def Value.trimmedText (v : Value) : String :=
  trim (v.asText?.getD "")

/-- The title and the slug under which an entry is stored. A blank slug is derived from
the title. -/
def titleAndSlug (core : Obj) (title slug data : Value) : Outcome (String × String) := do
  let title := (← chosenTitle core title data).trimmedText
  if title = "" then throw (.validation "Title is required" (some "title") .null)
  let slug := if slug.trimmedText = "" then slugify title else slug.trimmedText
  if slug = "" then
    throw (.validation "Slug could not be derived from title" (some "slug") .null)
  return (title, slug)

end ContentEngine
