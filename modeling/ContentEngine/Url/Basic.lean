import ContentEngine.Number.Reading
import ContentEngine.Text.Search
import ContentEngine.Fault
import ContentEngine.Text.Case
/-!
# Network addresses

The parts of a network address: scheme, authority, path, query and fragment, and the parts of the
authority in turn. Splitting never looks at more than the delimiters, so most texts have parts; an
authority whose brackets enclose anything but a numeric host has none, and neither has one with a
character that stands for a delimiter in compatibility form (`℀` is `a/c`), which would let it pass
for another authority.
-/

namespace ContentEngine

/-!
### Numeric hosts

The hosts that may stand in the brackets of an authority. Such a host is an address of eight groups
of hexadecimal digits, or one of a version that is still to come. One run of groups that are zero
may be left out between two colons, the last two groups may be written as four decimal numbers with
dots between them, and a zone may follow after a percent sign.
-/

namespace Url

/-- Whether a character is a hexadecimal digit. -/
def isHexDigit (c : Char) : Bool :=
  (baseDigit? 16 c).isSome

/-- Whether a text is a group of an address: up to four hexadecimal digits. -/
def isGroup (text : List Char) : Bool :=
  !text.isEmpty && text.length ≤ 4 && text.all isHexDigit

/-- Whether a text is one of the four decimal numbers: no more than 255, and without needless
zeros. -/
def isOctet (text : List Char) : Bool :=
  !text.isEmpty && text.length ≤ 3 && text.all isAsciiDigit
    && (text == ['0'] || text.head? != some '0') && digitsValue text ≤ 255

/-- Whether a text is four decimal numbers with dots between them. -/
def isDotted (text : List Char) : Bool :=
  (splitAtChar '.' text).length == 4 && (splitAtChar '.' text).all isOctet

/-- A text before the first two colons in a row and after them, if there are any. -/
def cutAtGap? : List Char → Option (List Char × List Char)
  | ':' :: ':' :: rest => some ([], rest)
  | c :: rest => (cutAtGap? rest).map fun (before, after) => (c :: before, after)
  | [] => none

/-- How many groups a run of groups stands for. `atEnd` says whether the run ends the address, so
that decimal numbers may stand for its last two groups. -/
def groupCount? (atEnd : Bool) (run : List Char) : Option Nat :=
  let groups := if run.isEmpty then [] else splitAtChar ':' run
  if groups.all isGroup then some groups.length
  else if atEnd && groups.dropLast.all isGroup && groups.getLast?.any isDotted then
    some (groups.length + 1)
  else none

/-- Whether a text stands for eight groups. What is left out is at least one of them. -/
def isGroupAddress (text : List Char) : Bool :=
  match cutAtGap? text with
  | none => groupCount? true text == some 8
  | some (before, after) =>
    match groupCount? false before, groupCount? true after with
    | some m, some n => m + n < 8
    | _, _ => false

/-- Whether what follows the first percent sign of a host, if there is one, is a zone. -/
def isZone : Option (List Char) → Bool
  | none => true
  | some zone => !zone.isEmpty && !zone.contains '%'

/-- Whether a text is an address of a version to come: a small `v` with the hexadecimal number of
the version, a dot, and anything. -/
def isFutureAddress : List Char → Bool
  | 'v' :: rest =>
    !(rest.takeWhile isHexDigit).isEmpty
      && (match rest.dropWhile isHexDigit with
        | '.' :: address => !address.isEmpty
        | _ => false)
  | _ => false

/-- Whether a text is a numeric host. -/
def isNumericHost (text : List Char) : Bool :=
  isFutureAddress text
    || (isGroupAddress (cutAtFirst '%' text).1 && isZone (cutAtFirst '%' text).2)

example : isNumericHost "fe80::1%eth0".toList = true := by decide
example : isNumericHost "::ffff:192.0.2.1".toList = true := by decide
example : isNumericHost "1:2:3:4:5:6:7::8".toList = false := by decide
example : isNumericHost "127.0.0.1".toList = false := by decide
example : isNumericHost "v1.a:b".toList = true := by decide

end Url

/-! ### Addresses -/

/-- A network address. Delimiters are no part of the parts, save for the slash at the start of the
path. -/
structure Url where
  scheme : List Char
  authority : List Char
  path : List Char
  query : List Char
  fragment : List Char
deriving Repr, DecidableEq

namespace Url

/-- Whether a character is an ASCII letter. -/
def isAsciiLetter (c : Char) : Bool :=
  isAsciiUpper c || isAsciiLower c

/-- Whether a character may stand in a scheme. -/
def isSchemeChar (c : Char) : Bool :=
  isAsciiLetter c || isAsciiDigit c || c == '+' || c == '-' || c == '.'

/-- The scheme at the start of a text, and what follows its colon. -/
def takeScheme? (text : List Char) : Option (List Char × List Char) :=
  match cutAtFirst ':' text with
  | (scheme, some rest) =>
    if (scheme.head?.any isAsciiLetter) && scheme.all isSchemeChar then some (scheme, rest)
    else none
  | _ => none

/-- Whether a character ends the authority. -/
def endsAuthority (c : Char) : Bool :=
  c == '/' || c == '?' || c == '#'

/-- The authority at the start of a text, if two slashes announce one, and what follows it. -/
def takeAuthority (text : List Char) : List Char × List Char :=
  match text with
  | '/' :: '/' :: rest => (rest.takeWhile (!endsAuthority ·), rest.dropWhile (!endsAuthority ·))
  | _ => ([], text)

/-- The characters whose compatibility form holds a delimiter. -/
def disguisedDelimiters : List Char :=
  ['\u2047', '\u2048', '\u2049', '\u2100', '\u2101', '\u2105', '\u2106', '\u2a74', '\ufe13',
   '\ufe16', '\ufe55', '\ufe56', '\ufe5f', '\ufe6b', '\uff03', '\uff0f', '\uff1a', '\uff1f',
   '\uff20']

/-- The place in an authority: the host with the port, without a user. -/
def placeOf (authority : List Char) : List Char :=
  ((cutAtLast? '@' authority).map (·.2)).getD authority

/-- Whether a place that belongs to an authority with brackets has a numeric host. Brackets in it
enclose the whole host, so that only a port may follow them. -/
def hasNumericHost (place : List Char) : Bool :=
  match cutAtFirst '[' place with
  | (_, none) => isNumericHost (cutAtFirst ':' place).1
  | (before, some bracketed) =>
    let (host, rest) := cutAtFirst ']' bracketed
    before.isEmpty && (rest.getD []).head?.all (· == ':') && isNumericHost host

/-- Whether the brackets of an authority come in pairs and stand around a numeric host. -/
def hasSoundBrackets (authority : List Char) : Bool :=
  match authority.contains '[', authority.contains ']' with
  | false, false => true
  | true, true => hasNumericHost (placeOf authority)
  | _, _ => false

/-- Whether an authority can be told apart from its surroundings. -/
def isSoundAuthority (authority : List Char) : Bool :=
  hasSoundBrackets authority && authority.all fun c => !disguisedDelimiters.contains c

/-- Whether a character is dropped from a network address wherever it stands. -/
def isDropped (c : Char) : Bool :=
  c == '\t' || c == '\r' || c == '\n'

/-- The parts of a network address. -/
def ofText (text : List Char) : Outcome Url :=
  let text := text.filter (!isDropped ·)
  let (scheme, rest) := (takeScheme? text).getD ([], text)
  let (authority, rest) := takeAuthority rest
  let (rest, fragment) := cutAtFirst '#' rest
  let (path, query) := cutAtFirst '?' rest
  if isSoundAuthority authority then
    .ok ⟨lower scheme, authority, path, query.getD [], fragment.getD []⟩
  else .error .badAuthority

/-- A part with the delimiter in front of it. An empty part leaves nothing. -/
def delimited (delimiter : Char) (part : List Char) : List Char :=
  if part.isEmpty then [] else delimiter :: part

/-- The text of an address that has an authority. -/
def text (u : Url) : List Char :=
  u.scheme ++ ':' :: '/' :: '/' :: (u.authority ++ u.path ++ delimited '?' u.query
    ++ delimited '#' u.fragment)

/-! ### Authorities -/

/-- The host of an authority with the text of its port. A host may stand in brackets. -/
def hostPort (authority : List Char) : List Char × List Char :=
  match cutAtFirst '[' (placeOf authority) with
  | (_, some bracketed) =>
    let (host, rest) := cutAtFirst ']' bracketed
    (host, ((cutAtFirst ':' (rest.getD [])).2).getD [])
  | (_, none) =>
    let (host, port) := cutAtFirst ':' (placeOf authority)
    (host, port.getD [])

/-- The user of an authority with the password. What is not given is empty. -/
def userPassword (authority : List Char) : List Char × List Char :=
  match cutAtLast? '@' authority with
  | some (user, _) => ((cutAtFirst ':' user).1, ((cutAtFirst ':' user).2).getD [])
  | none => ([], [])

/-- The port that a text gives, if it is not empty. Zeros in front count as digits. -/
def readPort (text : List Char) : Outcome (Option Nat) :=
  if text.isEmpty then .ok none
  else if text.all isAsciiDigit ∧ text.length ≤ maxIntegerDigits ∧ digitsValue text ≤ 65535 then
    .ok (some (digitsValue text))
  else .error .badAuthority

end Url

end ContentEngine
