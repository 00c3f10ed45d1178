import ContentEngine.Title
/-!
# Telephone numbers

The canonical form of a telephone number is a plus sign and its digits, the country's code included.
A number that is written without the plus sign is read as a national number of a region.
-/

namespace ContentEngine

namespace Format

/-- Whether a field has been left empty: null or a blank text. -/
def isBlankValue : Value → Bool
  | .null => true
  | .str s => isBlankText s
  | _ => false

/-- The region of telephone numbers that are written without a country. -/
def homeRegion : String := "US"

/-- The country code of a region. -/
def countryCode? (region : String) : Option Char :=
  if region = "US" ∨ region = "CA" then some '1' else none

/-- A national number with its country code: ten digits, or eleven of which the first is
the code. -/
def withCode? (code : Char) (digits : List Char) : Option (List Char) :=
  if digits.length = 10 then some (code :: digits)
  else if digits.length = 11 ∧ digits.head? = some code then some digits
  else none

/-- The fault of a value that does not follow its format. -/
def malformed (what : String) (v : Value) : Outcome Value := do
  throw (.malformed what (← v.literal))

/-- The canonical form of a telephone number that is given as text or as an integer. -/
def phoneOf (v : Value) (text region : String) : Outcome Value :=
  let chars := trimBy isBlank text.toList
  let digits := chars.filter isDecimalDigit
  if chars.head? = some '+' then
    if 8 ≤ digits.length ∧ digits.length ≤ 15 then .ok (.str (String.ofList ('+' :: digits)))
    else malformed "international phone" v
  else
    let region := upperText (trim (if region = "" then homeRegion else region))
    match countryCode? region with
    | none => .error (.unsupportedRegion region)
    | some code =>
      match withCode? code digits with
      | some digits => .ok (.str (String.ofList ('+' :: digits)))
      | none => malformed "phone" v

/-- The canonical form of a telephone number. An empty field stays as it is. -/
def canonicalPhone (v : Value) (region : String) : Outcome Value :=
  match v with
  | .str s => if isBlankText s then .ok v else phoneOf v s region
  | .int n => do phoneOf v (← integerText n) region
  | .null => .ok v
  | _ => .error (.wrongKind .phone)

end Format

end ContentEngine
