import ContentEngine.Value.Basic
/-!
# Reading JSON

A reader for JSON text. A reader of a part answers with the part and with what follows it. Besides
JSON proper the names `NaN`, `Infinity` and `-Infinity` are numbers. Of two members with one key the
last gives the value. A number with a fraction or an exponent is a double; one without is an
integer, which may not have more digits than the reader allows. A half of a surrogate pair on its
own becomes U+FFFD.
-/

namespace ContentEngine

/-- Whether a character is a blank of JSON. -/
def isJsonBlank (c : Char) : Bool :=
  c == ' ' || c == '\t' || c == '\n' || c == '\r'

/-- A text without the blanks at its start. -/
def skipJsonBlanks (text : List Char) : List Char :=
  text.dropWhile isJsonBlank

/-- The number that four hexadecimal digits denote. -/
def hexCode? (a b c d : Char) : Option Nat := do
  let a ← baseDigit? 16 a
  let b ← baseDigit? 16 b
  let c ← baseDigit? 16 c
  let d ← baseDigit? 16 d
  return 4096 * a + 256 * b + 16 * c + d

/-- The character that a one-letter escape stands for. -/
def shortEscape? (c : Char) : Option Char :=
  if c = '"' ∨ c = '\\' ∨ c = '/' then some c
  else if c = 'b' then some '\x08'
  else if c = 'f' then some '\x0c'
  else if c = 'n' then some '\n'
  else if c = 'r' then some '\r'
  else if c = 't' then some '\t'
  else none

/-- The character with a code. The halves of surrogate pairs have none of their own. -/
def charOfCode (n : Nat) : Char :=
  if 0xd800 ≤ n ∧ n < 0xe000 then '\ufffd' else Char.ofNat n

/-- What an escape with a code leaves for the next one. `pending` is the first half of a surrogate
pair that has been read and waits for its second half. -/
structure EscapeStep where
  written : List Char
  pending : Option Nat

/-- Takes the code of an escape into account, after another half of a pair perhaps. -/
def EscapeStep.of (pending : Option Nat) (code : Nat) : EscapeStep :=
  match pending with
  | some high =>
    if 0xdc00 ≤ code ∧ code < 0xe000 then
      ⟨[Char.ofNat (0x10000 + (high - 0xd800) * 1024 + (code - 0xdc00))], none⟩
    else if 0xd800 ≤ code ∧ code < 0xdc00 then ⟨['\ufffd'], some code⟩
    else ⟨['\ufffd', charOfCode code], none⟩
  | none =>
    if 0xd800 ≤ code ∧ code < 0xdc00 then ⟨[], some code⟩ else ⟨[charOfCode code], none⟩

/-- The sign that stands for a first half that found no second one. -/
def lonePending (pending : Option Nat) : List Char :=
  if pending.isSome then ['\ufffd'] else []

/-- The rest of a string after its opening quote, and what follows the string. -/
def readStringFrom (pending : Option Nat) : List Char → Option (List Char × List Char)
  | [] => none
  | '"' :: rest => some (lonePending pending, rest)
  | '\\' :: 'u' :: a :: b :: c :: d :: rest =>
    match hexCode? a b c d with
    | none => none
    | some code =>
      let step := EscapeStep.of pending code
      (readStringFrom step.pending rest).map fun (text, after) => (step.written ++ text, after)
  | '\\' :: c :: rest =>
    match shortEscape? c with
    | none => none
    | some plain =>
      (readStringFrom none rest).map fun (text, after) =>
        (lonePending pending ++ plain :: text, after)
  | c :: rest =>
    if c.toNat < 32 then none
    else
      (readStringFrom none rest).map fun (text, after) => (lonePending pending ++ c :: text, after)

/-- A string after its opening quote, and what follows it. -/
def readString (text : List Char) : Option (String × List Char) :=
  (readStringFrom none text).map fun (chars, rest) => (String.ofList chars, rest)

/-- The digits of a whole number at the start of a text: a zero, or digits that start with another
one. -/
def takeWhole? : List Char → Option (List Char × List Char)
  | [] => none
  | c :: rest =>
    if c = '0' then some (['0'], rest)
    else if isAsciiDigit c then
      some (c :: rest.takeWhile isAsciiDigit, rest.dropWhile isAsciiDigit)
    else none

/-- A fraction at the start of a text: a point with digits. -/
def takeFraction? : List Char → Option (List Char × List Char)
  | '.' :: rest =>
    if (rest.takeWhile isAsciiDigit).isEmpty then none
    else some (rest.takeWhile isAsciiDigit, rest.dropWhile isAsciiDigit)
  | _ => none

/-- An exponent at the start of a text: a mark, perhaps a sign, and digits. -/
def takeExponent? : List Char → Option (Int × List Char)
  | mark :: rest =>
    if mark = 'e' ∨ mark = 'E' then
      let (negative, body) := cutSign rest
      let digits := body.takeWhile isAsciiDigit
      if digits.isEmpty then none
      else some (signed negative (digitsValue digits), body.dropWhile isAsciiDigit)
    else none
  | [] => none

/-- A number after its sign, and what follows it. An integer may have `limit` digits. -/
def readNumber (limit : Nat) (negative : Bool) (text : List Char) : Option (Value × List Char) :=
  match takeWhole? text with
  | none => none
  | some (whole, rest) =>
    match takeFraction? rest, takeExponent? rest with
    | none, none =>
      if whole.length ≤ limit then
        some (.int (signed negative (digitsValue whole)), rest)
      else none
    | none, some (exponent, after) =>
      some (.float (nearestFloat negative (digitsValue whole) exponent), after)
    | some (part, after), _ =>
      let (exponent, after) := (takeExponent? after).getD (0, after)
      some (.float (nearestFloat negative (digitsValue (whole ++ part)) (exponent - part.length)),
        after)

/-- What follows a word at the start of a text. -/
def dropPrefix? (word text : List Char) : Option (List Char) :=
  if word.isPrefixOf text then some (text.drop word.length) else none

/-- The names of values, with what they stand for. -/
def namedValues : List (List Char × Value) :=
  [("null".toList, .null), ("true".toList, .bool true), ("false".toList, .bool false),
    ("NaN".toList, .float (0.0 / 0.0)), ("Infinity".toList, .float (1.0 / 0.0)),
    ("-Infinity".toList, .float (-1.0 / 0.0))]

/-- A value without parts other than a string, and what follows it. -/
def readScalar (limit : Nat) (text : List Char) : Option (Value × List Char) :=
  match namedValues.findSome? fun (word, value) => (dropPrefix? word text).map (value, ·) with
  | some found => some found
  | none =>
    match text with
    | '-' :: rest => readNumber limit true rest
    | _ => readNumber limit false text

mutual

/-- A value at the start of a text, and what follows it. The fuel bounds the number of parts. -/
def readValue (limit : Nat) : Nat → List Char → Option (Value × List Char)
  | 0, _ => none
  | fuel + 1, text =>
    match text with
    | '"' :: rest => (readString rest).map fun (s, after) => (.str s, after)
    | '[' :: rest =>
      match skipJsonBlanks rest with
      | ']' :: after => some (.list [], after)
      | items => (readItems limit fuel items).map fun (values, after) => (.list values, after)
    | '\x7b' :: rest =>
      match skipJsonBlanks rest with
      | '\x7d' :: after => some (.obj [], after)
      | members =>
        (readMembers limit fuel members).map fun (pairs, after) =>
          (.obj (Obj.ofMembers pairs), after)
    | _ => readScalar limit text

/-- The items of a list up to its closing bracket, and what follows that. -/
def readItems (limit : Nat) : Nat → List Char → Option (List Value × List Char)
  | 0, _ => none
  | fuel + 1, text =>
    match readValue limit fuel text with
    | none => none
    | some (value, rest) =>
      match skipJsonBlanks rest with
      | ']' :: after => some ([value], after)
      | ',' :: more =>
        (readItems limit fuel (skipJsonBlanks more)).map fun (values, after) =>
          (value :: values, after)
      | _ => none

/-- The members of an object up to its closing brace, and what follows that. -/
def readMembers (limit : Nat) : Nat → List Char → Option (List (String × Value) × List Char)
  | 0, _ => none
  | fuel + 1, text =>
    match text with
    | '"' :: quotedKey =>
      match readString quotedKey with
      | none => none
      | some (key, rest) =>
        match skipJsonBlanks rest with
        | ':' :: valueText =>
          match readValue limit fuel (skipJsonBlanks valueText) with
          | none => none
          | some (value, rest) =>
            match skipJsonBlanks rest with
            | '\x7d' :: after => some ([(key, value)], after)
            | ',' :: more =>
              (readMembers limit fuel (skipJsonBlanks more)).map fun (pairs, after) =>
                ((key, value) :: pairs, after)
            | _ => none
        | _ => none
    | _ => none

end

/-- The value that a JSON text denotes, if it is one and its integers have at most
`limit` digits. -/
def readJsonWithin (limit : Nat) (text : List Char) : Option Value :=
  match readValue limit (text.length + 1) (skipJsonBlanks text) with
  | some (value, rest) => if (skipJsonBlanks rest).isEmpty then some value else none
  | none => none

/-- The value that a JSON text denotes, if it is one. -/
def readJson (text : List Char) : Option Value :=
  readJsonWithin maxIntegerDigits text

end ContentEngine
