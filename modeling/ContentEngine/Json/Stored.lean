import ContentEngine.Fault
import ContentEngine.Json.Reader
/-!
# Stored payloads

A database may hand a stored document back as it is, as JSON text, or as the bytes of such a text.
A text that is no JSON counts as an empty object.
-/

namespace ContentEngine

/-- The value that a JSON text denotes. A byte order mark is no part of JSON. -/
def parseJson (text : String) : Option Value :=
  match text.toList with
  | '\ufeff' :: _ => none
  | chars => readJson chars

/-- The text that some bytes encode. -/
def decodeBytes (data : List UInt8) : Outcome String :=
  match String.fromUTF8? (ByteArray.mk data.toArray) with
  | some text => .ok text
  | none => .error .badEncoding

/-- The document that a stored text denotes. -/
def Value.ofStoredText (text : String) : Value :=
  (parseJson text).getD (.obj [])

/-- The document that a stored payload denotes. -/
def Value.ofStored : Value → Outcome Value
  | .bytes data => do return ofStoredText (← decodeBytes data)
  | .str text => .ok (ofStoredText text)
  | v => .ok v

end ContentEngine
