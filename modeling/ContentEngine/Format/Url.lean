import ContentEngine.Format.Phone
import ContentEngine.Url.Basic
/-!
# Web addresses

The canonical form of a web address has a scheme, a host in small letters, and no port if it is the
usual one of the scheme. An address that is written without a scheme is a secure one.
-/

namespace ContentEngine

namespace Format

/-- Whether a text starts with a scheme and two slashes. -/
def hasScheme (text : List Char) : Bool :=
  match Url.takeScheme? text with
  | some (_, '/' :: '/' :: _) => true
  | _ => false

/-- A text with a scheme in front, unless it has one. -/
def withScheme (text : List Char) : List Char :=
  if "//".toList.isPrefixOf text then "https:".toList ++ text
  else if hasScheme text then text
  else "https://".toList ++ text

/-- The usual port of a scheme. -/
def usualPort? (scheme : List Char) : Option Nat :=
  if scheme = "http".toList then some 80
  else if scheme = "https".toList then some 443
  else none

/-- The port as it is written after a host. -/
def portText (scheme : List Char) : Option Nat → List Char
  | none => []
  | some port => if usualPort? scheme = some port then [] else ':' :: digitText port

/-- The user with the password, as they are written before a host. Without a user there
is neither. -/
def userText (user password : List Char) : List Char :=
  if user.isEmpty then [] else user ++ Url.delimited ':' password ++ ['@']

/-- A host as it is written. A host with colons stands in brackets. -/
def shownHost (host : List Char) : List Char :=
  if host.contains ':' then '[' :: (host ++ [']']) else host

/-- The canonical form of an authority whose port has been read. -/
def canonicalAuthority (scheme authority : List Char) (port : Option Nat) : List Char :=
  let (user, password) := Url.userPassword authority
  userText user password ++ shownHost (lower (Url.hostPort authority).1) ++ portText scheme port

/-- The canonical form of an address that has been split. It must have a host. -/
def canonicalParts? (u : Url) : Outcome (Option Url) := do
  let (host, port) := Url.hostPort u.authority
  if host.isEmpty then return none
  let port ← Url.readPort port
  return some { u with authority := canonicalAuthority u.scheme u.authority port }

/-- The canonical form of a web address that is given as text. -/
def urlOf (v : Value) (text : List Char) : Outcome Value :=
  if text.contains ' ' then malformed "url" v
  else do
    match ← canonicalParts? (← Url.ofText (withScheme text)) with
    | some u => return .str (String.ofList u.text)
    | none => malformed "url" v

/-- The canonical form of a web address. An empty field stays as it is. -/
def canonicalUrl (v : Value) : Outcome Value :=
  match v with
  | .str s => if isBlankText s then .ok v else urlOf v (trimBy isBlank s.toList)
  | .null => .ok v
  | _ => .error (.wrongKind .url)

end Format

end ContentEngine
