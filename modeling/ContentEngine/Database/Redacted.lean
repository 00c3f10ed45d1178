import ContentEngine.Value.Basic
import ContentEngine.Calendar
/-!
# Parameters in a log

The parameters of statements go into a log in a short form, so that it shows neither bytes nor long
texts.
-/

namespace ContentEngine

namespace Database

/-- The greatest length of a text that is shown as it is. -/
def shownLength : Nat := 80

/-- The start and the end of a long text. -/
def shortened (text : String) : String :=
  let chars := text.toList
  if chars.length ≤ shownLength then text
  else
    String.ofList (chars.take 40) ++ "..." ++ String.ofList (chars.drop (chars.length - 10))

/-- A parameter as it goes into a log. -/
def redacted : Value → Value
  | .bytes data => .str ("<bytes:" ++ paddedText 1 data.length ++ ">")
  | .str text => .str (shortened text)
  | v => v

end Database

end ContentEngine
