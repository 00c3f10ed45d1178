import ContentEngine.Format.Phone
import ContentEngine.Domain.Name
import ContentEngine.Format.Url
import ContentEngine.Field.Definition
/-!
# Canonical values

The canonical form of a value of a format. When an entry is stored, a value that does not follow the
format of its field is kept as it was sent. All of it goes by a reader of mail addresses, `mail`.
-/

namespace ContentEngine

/-!
### Mail addresses

The canonical form of a mail address is all in small letters, its local part is in the shortest
spelling, and its domain is shown in the letters of its own script. Addresses whose local part is
quoted, that carry a display name, or that name a machine by its number are refused. What is done
with an address besides goes by any reader of addresses.
-/

namespace Format

/-- Whether a character may stand in a word of a local part. -/
def isLocalChar (c : Char) : Bool :=
  isAsciiUpper c || isAsciiLower c || isAsciiDigit c || 128 ≤ c.toNat
    || "_!#$%&'*+-/=?^\x60\x7b|\x7d~".toList.contains c

/-- Whether a text is a local part: words between dots. -/
def isLocalPart (text : List Char) : Bool :=
  (splitAtChar '.' text).all (fun word => !word.isEmpty && word.all isLocalChar)
    && (Domain.isAscii text || isSafeText text)

/-- The most bytes that an address may have. -/
def maxAddressBytes : Nat := 254

/-- Whether an address is not too long. -/
def isShortAddress (localPart domain : List Char) : Bool :=
  (String.ofList (localPart ++ '@' :: domain)).utf8ByteSize ≤ maxAddressBytes

/-- A way to read mail addresses: the usual spelling of an address, if a text is one. -/
abbrev MailReader := List Char → Option (List Char)

/-- The usual spelling of a mail address, if the text is one. -/
def readEmail? : MailReader := fun text => do
  let (localPart, domain) := cutAtFirst '@' text
  let domain ← domain
  let plain := composed localPart
  let name ← Domain.Name.ofText? domain
  if isLocalPart localPart && isLocalPart plain && isShortAddress localPart domain
      && isShortAddress plain name.shown && isShortAddress plain name.exchanged then
    some (plain ++ '@' :: name.shown)
  else none

/-- The canonical form of a mail address that goes by a reader. An empty field stays as it is. -/
def canonicalEmailWith (mail : MailReader) (v : Value) : Outcome Value :=
  match v with
  | .str s =>
    if isBlankText s then .ok v
    else
      match mail (trimBy isBlank s.toList) with
      | some found => .ok (.str (String.ofList (lower found)))
      | none => malformed "email" v
  | .null => .ok v
  | _ => .error (.wrongKind .email)

/-- The canonical form of a mail address. -/
def canonicalEmail (v : Value) : Outcome Value :=
  canonicalEmailWith readEmail? v

/-!
### Postal addresses

The canonical form of an address has the known parts in their usual order, each on one line, and
abbreviations of states and countries in capitals.
-/

/-- The parts of an address. -/
def addressParts : List String := ["line1", "line2", "city", "state", "postal", "country"]

/-- The canonical text of a part of an address. -/
def addressPart (key text : String) : String :=
  let line := collapse text
  if (key = "state" ∨ key = "country") ∧ line.toList.length = 2 then upperText line else line

/-- The canonical forms of some parts of an address. A part that is null is left out. -/
def addressMembers (o : Obj) : List String → Outcome Obj
  | [] => .ok []
  | key :: keys =>
    if (Obj.get o key).isNull then addressMembers o keys
    else do
      let text ← (Obj.get o key).text
      return (key, .str (addressPart key text)) :: (← addressMembers o keys)

/-- The canonical form of an address. Null stays as it is. -/
def canonicalAddress (v : Value) : Outcome Value :=
  if v.isNull then .ok v
  else
    match v.asObj? with
    | some o => do return .obj (← addressMembers o addressParts)
    | none => .error (.wrongKind .address)

/-! ### Values of any format -/

/-- The format that the values of a kind of field follow. -/
def ofKind? : FieldKind → Option Format
  | .email => some .email
  | .phone => some .phone
  | .url => some .url
  | .address => some .address
  | _ => none

/-- The canonical form of a value. -/
def canonical (mail : MailReader) (format : Format) (v : Value) : Outcome Value :=
  match format with
  | .email => canonicalEmailWith mail v
  | .phone => canonicalPhone v ""
  | .url => canonicalUrl v
  | .address => canonicalAddress v

/-- The canonical form of a value, or the value itself if it does not follow the format. -/
def canonicalOrGiven (mail : MailReader) (format : Format) (v : Value) : Value :=
  match canonical mail format v with
  | .ok w => w
  | .error _ => v

end Format

namespace FieldKind

/-- What is stored for a value of a kind of field. -/
def canonicalValue (mail : Format.MailReader) (kind : FieldKind) (v : Value) : Value :=
  match Format.ofKind? kind with
  | some format => Format.canonicalOrGiven mail format v
  | none => v

/-- What is stored for a value of a kind of field that is given by its name. -/
def canonicalValueFor (kind v : Value) : Outcome Value :=
  if !kind.isHashable then .error .unhashable
  else
    match kind.asText?.bind ofName? with
    | some kind => .ok (kind.canonicalValue Format.readEmail? v)
    | none => .ok v

end FieldKind

end ContentEngine
