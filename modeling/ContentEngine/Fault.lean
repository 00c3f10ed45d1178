import ContentEngine.Value.Basic
/-!
# What can go wrong

An `Issue` is an error that the engine reports to its caller: a code, a message, the place in the
request that is at fault, and details. A `Fault` is an issue or one of the causes for which a value
has no canonical form, no text or no order. The wording of each cause is in `Fault.message?`; a
cause without a wording of its own has none.
-/

namespace ContentEngine

/-- The kinds of issue. -/
inductive IssueCode where
  | validation
  | conflict
  | notFound
  | transientStore
deriving Repr, DecidableEq

/-- The code as it is written in answers. -/
def IssueCode.text : IssueCode → String
  | validation => "VALIDATION_ERROR"
  | conflict => "CONFLICT"
  | notFound => "NOT_FOUND"
  | transientStore => "TRANSIENT_STORE_ERROR"

/-- The status of a response that reports an issue of this kind. -/
def IssueCode.status : IssueCode → Nat
  | validation => 400
  | conflict => 409
  | notFound => 404
  | transientStore => 503

/-- An error that is reported to the caller. -/
structure Issue where
  code : IssueCode
  message : String
  path : Option String
  detail : Value

namespace Issue

/-- The issue as one line of text. An empty path is not shown. -/
def line (i : Issue) : String :=
  let base := i.code.text ++ ": " ++ i.message
  match i.path with
  | none => base
  | some path => if path = "" then base else base ++ " (path=" ++ path ++ ")"

/-- The issue as an entry of a response's list of errors. -/
def toObj (i : Issue) : Obj :=
  [("code", .str i.code.text), ("message", .str i.message), ("path", .ofText? i.path),
    ("detail", i.detail)]

end Issue

/-- The kinds of field value that have a canonical form. -/
inductive Format where
  | email
  | phone
  | url
  | address
deriving Repr, DecidableEq

/-- What a value of a format has to be. -/
def Format.requirement : Format → String
  | .email => "email must be a string"
  | .phone => "phone must be a string"
  | .url => "url must be a string"
  | .address => "address must be an object"

/-- The causes for which an operation gives no result. -/
inductive Fault where
  /-- An error that is reported to the caller. -/
  | issue (i : Issue)
  /-- A number in a document that JSON cannot hold; `what` is its kind and `shown` its text. -/
  | nonFinite (what path shown : String)
  /-- A value in a document that JSON has no form for. -/
  | unsupportedValue (path kind : String)
  /-- A key in a document that is no text. -/
  | unsupportedKey (path kind : String)
  /-- A field value that is not of the kind its format is written in. -/
  | wrongKind (format : Format)
  /-- A field value that does not follow its format; `what` names the format. -/
  | malformed (what shown : String)
  /-- A region whose telephone numbers are not known. -/
  | unsupportedRegion (region : String)
  /-- A text that looks like an integer and is none, or an integer with too many digits. -/
  | badInteger
  /-- A network address whose port or brackets are wrong. -/
  | badAuthority
  /-- A number that JSON cannot hold, met while writing. -/
  | unwritable
  /-- An integer that is out of the range of doubles. -/
  | tooLarge
  /-- A value that cannot be looked up in a set. -/
  | unhashable
  /-- Two values that have no order. -/
  | incomparable
  /-- A value that is no number and no text of one. -/
  | noNumber
  /-- Bytes that are no UTF-8. -/
  | badEncoding
  /-- A statement that returned no row where one is needed. -/
  | noRow
  /-- A database statement that failed; `text` is what the database says. -/
  | statement (unique : Bool) (text : String)

namespace Fault

/-- A request that is not acceptable. -/
def validation (message : String) (path : Option String) (detail : Value) : Fault :=
  .issue ⟨.validation, message, path, detail⟩

/-- A request that another record stands against. -/
def conflict (message : String) (path : Option String) (detail : Value) : Fault :=
  .issue ⟨.conflict, message, path, detail⟩

/-- A request for a record that is not there. -/
def notFound (message : String) (path : Option String) (detail : Value) : Fault :=
  .issue ⟨.notFound, message, path, detail⟩

/-- The wording of a fault, if it has one. -/
def message? : Fault → Option String
  | issue i => some i.message
  | nonFinite what path shown => some ("Non-finite " ++ what ++ " at " ++ path ++ ": " ++ shown)
  | unsupportedValue path kind => some ("Unsupported type at " ++ path ++ ": " ++ kind)
  | unsupportedKey path kind => some ("Unsupported key type at " ++ path ++ ": " ++ kind)
  | wrongKind format => some format.requirement
  | malformed what shown => some ("invalid " ++ what ++ ": " ++ shown)
  | unsupportedRegion region => some ("unsupported phone region: " ++ region)
  | _ => none

end Fault

/-- The outcome of an operation that may fail. -/
abbrev Outcome := Except Fault

end ContentEngine
