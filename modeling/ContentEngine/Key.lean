import ContentEngine.Text.Blank
import ContentEngine.Text.Case
import ContentEngine.Value.Literal
/-!
# Keys and slugs

Fields are addressed by keys such as `first_name`: words of the letters `a` to `z` and of digits,
joined by single underscores. Editors may write a key as `firstName`, `First Name` or `first-name`;
`snakeCase` brings all spellings to the one form, and `camelCase` gives the alias under which forms
send a value. Slugs follow the same grammar, with a separator of their own.
-/

namespace ContentEngine

/-- Whether a character may stand in a word of a key. -/
def isWordChar (c : Char) : Bool :=
  isAsciiLower c || isAsciiDigit c

/-- A text with a separator in front of each capital letter that follows a small letter or a digit.
`previous` is the character before the text. -/
def breakCapitals (previous : Char) : List Char → List Char
  | [] => []
  | c :: rest =>
    if isAsciiUpper c && isWordChar previous then '_' :: c :: breakCapitals c rest
    else c :: breakCapitals c rest

/-- The words of a text, joined by single separators. Everything that cannot stand in a word
separates words. -/
def joinWords (separator : Char) (text : List Char) : List Char :=
  trimBy (· == separator) (replaceRuns (fun c => !isWordChar c) separator text)

/-- The key that a text spells. -/
def snakeCase (text : String) : String :=
  String.ofList (joinWords '_' (lower (breakCapitals ' ' (trimBy isBlank text.toList))))

/-- A text in which each underscore before a small letter or a digit is dropped and the letter
becomes a capital. -/
def camelChars : List Char → List Char
  | [] => []
  | '_' :: c :: rest =>
    if isWordChar c then upperChar c ++ camelChars rest else '_' :: camelChars (c :: rest)
  | c :: rest => c :: camelChars rest

/-- The alias of a key. -/
def camelCase (key : String) : String :=
  String.ofList (camelChars key.toList)

/-- The slug that a text spells, with a separator between its words. -/
def slugOf (separator : Char) (text : String) : String :=
  String.ofList (joinWords separator (lower (trimBy isBlank text.toList)))

/-- The slug of an entry or a view. -/
def slugify (text : String) : String :=
  slugOf '-' text

/-- The slug of a content type. -/
def typeSlug (text : String) : String :=
  slugOf '_' text

namespace Value

/-- The key that a value spells. A value that does not count as present spells none. -/
def snakeCase (v : Value) : Outcome String := do
  return ContentEngine.snakeCase (← v.presentText)

/-- The alias that a value spells. -/
def camelCase (v : Value) : Outcome String := do
  return ContentEngine.camelCase (← v.presentText)

/-- The slug of an entry or a view that a value spells. -/
def slugify (v : Value) : Outcome String := do
  return ContentEngine.slugify (← v.presentText)

/-- The slug of a content type that a value spells. -/
def typeSlug (v : Value) : Outcome String := do
  return ContentEngine.typeSlug (← v.presentText)

end Value

end ContentEngine
