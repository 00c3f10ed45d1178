import ContentEngine.Text.Blank
import ContentEngine.Text.Case
import ContentEngine.Value.Literal
/-!
# Kinds of field

The closed list of kinds that a field of a content type can have, with the facts about a kind that
other modules need: whether it offers choices, and which parts its value has.
-/

namespace ContentEngine

/-- The kinds of field. -/
inductive FieldKind where
  | text
  | textarea
  | number
  | boolean
  | date
  | datetime
  | time
  | daterange
  | email
  | phone
  | url
  | address
  | personName
  | richText
  | image
  | file
  | video
  | color
  | tags
  | radio
  | dropdown
  | multiselect
  | checkbox
  | relation
  | relationUser
  | taxonomy
  | repeater
  | json
  | embeds
  | price
  | videoEmbed
  | iframeEmbed
deriving Repr, DecidableEq

namespace FieldKind

/-- The name of a kind. -/
def name : FieldKind → String
  | text => "text"
  | textarea => "textarea"
  | number => "number"
  | boolean => "boolean"
  | date => "date"
  | datetime => "datetime"
  | time => "time"
  | daterange => "daterange"
  | email => "email"
  | phone => "phone"
  | url => "url"
  | address => "address"
  | personName => "name"
  | richText => "rich_text"
  | image => "image"
  | file => "file"
  | video => "video"
  | color => "color"
  | tags => "tags"
  | radio => "radio"
  | dropdown => "dropdown"
  | multiselect => "multiselect"
  | checkbox => "checkbox"
  | relation => "relation"
  | relationUser => "relation_user"
  | taxonomy => "taxonomy"
  | repeater => "repeater"
  | json => "json"
  | embeds => "embeds"
  | price => "price"
  | videoEmbed => "video_embed"
  | iframeEmbed => "iframe_embed"

/-- All kinds. -/
def all : List FieldKind :=
  [.text, .textarea, .number, .boolean, .date, .datetime, .time, .daterange, .email, .phone,
   .url, .address, .personName, .richText, .image, .file, .video, .color, .tags, .radio, .dropdown,
   .multiselect, .checkbox, .relation, .relationUser, .taxonomy, .repeater, .json, .embeds,
   .price, .videoEmbed, .iframeEmbed]

/-- The kind with a name. -/
def ofName? (name : String) : Option FieldKind :=
  all.find? fun kind => kind.name == name

/-- The kind that a name or one of the older names stands for. Any other name stands for
plain text. -/
def ofAnyName (name : String) : FieldKind :=
  if name = "select" then dropdown
  else if name = "relationship" then relation
  else (ofName? name).getD text

/-- The kind that a value names, in any case of letters. -/
def ofValue (raw : Value) : Outcome FieldKind := do
  let name ← (raw.orElse (.str "text")).text
  return ofAnyName (lowerText (trim name))

/-- Whether a field of this kind offers choices. -/
def hasChoices : FieldKind → Bool
  | radio | dropdown | multiselect | checkbox | tags => true
  | _ => false

/-- The parts of a value of this kind, with their usual labels. -/
def parts : FieldKind → List (String × String)
  | personName =>
    [("title", "Title"), ("first", "First"), ("middle", "Middle"), ("last", "Last"),
      ("suffix", "Suffix")]
  | address =>
    [("line1", "Address line 1"), ("line2", "Address line 2"), ("city", "City"),
      ("state", "State / Province"), ("postal", "ZIP / Postal"), ("country", "Country")]
  | image =>
    [("alt", "Alt text"), ("title", "Title"), ("caption", "Caption"), ("credit", "Credit")]
  | file | video => [("title", "Title"), ("caption", "Caption"), ("credit", "Credit")]
  | _ => []

end FieldKind

end ContentEngine
