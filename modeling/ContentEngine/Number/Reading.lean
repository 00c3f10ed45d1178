import ContentEngine.Text.Ranges
import ContentEngine.Text.Blank
import ContentEngine.Text.Case
import ContentEngine.Number.Text
/-!
# Reading numbers

People type numbers with blanks around them, with single underscores between digits, and in the
digits of their script. The readers below first bring a text to ASCII and then follow a fixed
grammar; a text of the grammar denotes an integer exactly, and a decimal is rounded to the nearest
double.
-/

namespace ContentEngine

/-!
### Digits

A decimal digit is a character that stands for one of the numbers 0 to 9 in a positional system. In
every script the ten of them follow each other, so the value of a digit is its distance from the
start of its group modulo ten. Superscripts, circled numbers and their like are digits, but no
decimal digits: a text of such signs looks like a number without being one.
-/

/-- The groups of decimal digits outside ASCII. Each range has a multiple of ten characters, the
first of which stands for 0. -/
def decimalDigits : CodeRanges :=
  [⟨0x660, 0x669⟩, ⟨0x6f0, 0x6f9⟩, ⟨0x7c0, 0x7c9⟩, ⟨0x966, 0x96f⟩, ⟨0x9e6, 0x9ef⟩, ⟨0xa66, 0xa6f⟩,
   ⟨0xae6, 0xaef⟩, ⟨0xb66, 0xb6f⟩, ⟨0xbe6, 0xbef⟩, ⟨0xc66, 0xc6f⟩, ⟨0xce6, 0xcef⟩, ⟨0xd66, 0xd6f⟩,
   ⟨0xde6, 0xdef⟩, ⟨0xe50, 0xe59⟩, ⟨0xed0, 0xed9⟩, ⟨0xf20, 0xf29⟩, ⟨0x1040, 0x1049⟩,
   ⟨0x1090, 0x1099⟩, ⟨0x17e0, 0x17e9⟩, ⟨0x1810, 0x1819⟩, ⟨0x1946, 0x194f⟩, ⟨0x19d0, 0x19d9⟩,
   ⟨0x1a80, 0x1a89⟩, ⟨0x1a90, 0x1a99⟩, ⟨0x1b50, 0x1b59⟩, ⟨0x1bb0, 0x1bb9⟩, ⟨0x1c40, 0x1c49⟩,
   ⟨0x1c50, 0x1c59⟩, ⟨0xa620, 0xa629⟩, ⟨0xa8d0, 0xa8d9⟩, ⟨0xa900, 0xa909⟩, ⟨0xa9d0, 0xa9d9⟩,
   ⟨0xa9f0, 0xa9f9⟩, ⟨0xaa50, 0xaa59⟩, ⟨0xabf0, 0xabf9⟩, ⟨0xff10, 0xff19⟩, ⟨0x104a0, 0x104a9⟩,
   ⟨0x10d30, 0x10d39⟩, ⟨0x11066, 0x1106f⟩, ⟨0x110f0, 0x110f9⟩, ⟨0x11136, 0x1113f⟩,
   ⟨0x111d0, 0x111d9⟩, ⟨0x112f0, 0x112f9⟩, ⟨0x11450, 0x11459⟩, ⟨0x114d0, 0x114d9⟩,
   ⟨0x11650, 0x11659⟩, ⟨0x116c0, 0x116c9⟩, ⟨0x11730, 0x11739⟩, ⟨0x118e0, 0x118e9⟩,
   ⟨0x11950, 0x11959⟩, ⟨0x11c50, 0x11c59⟩, ⟨0x11d50, 0x11d59⟩, ⟨0x11da0, 0x11da9⟩,
   ⟨0x16a60, 0x16a69⟩, ⟨0x16ac0, 0x16ac9⟩, ⟨0x16b50, 0x16b59⟩, ⟨0x1d7ce, 0x1d7ff⟩,
   ⟨0x1e140, 0x1e149⟩, ⟨0x1e2f0, 0x1e2f9⟩, ⟨0x1e950, 0x1e959⟩, ⟨0x1fbf0, 0x1fbf9⟩]

/-- The digits that are no decimal digits. -/
def signDigits : CodeRanges := .ofText
  ("b2-b3 b9 1369-1371 19da 2070 2074-2079 2080-2089 2460-2468 2474-247c 2488-2490 24ea " ++
   "24f5-24fd 24ff 2776-277e 2780-2788 278a-2792 10a40-10a43 10e60-10e68 11052-1105a 1f100-1f10a")

/-- The number that a decimal digit stands for. -/
def digitValue? (c : Char) : Option Nat :=
  if c.toNat < 128 then
    if '0' ≤ c ∧ c ≤ '9' then some (c.toNat - 48) else none
  else
    (decimalDigits.find? fun r => r.first ≤ c.toNat && c.toNat ≤ r.last).map
      fun r => (c.toNat - r.first) % 10

/-- Whether a character is a decimal digit of some script. -/
def isDecimalDigit (c : Char) : Bool :=
  (digitValue? c).isSome

/-- Whether a text consists of digits, decimal or not, and has at least one. -/
def isDigitText (text : List Char) : Bool :=
  !text.isEmpty && text.all fun c => isDecimalDigit c || signDigits.contains c

/-! ### Integers and decimals -/

/-- Whether a character is one of the blanks of ASCII. -/
def isAsciiBlank (c : Char) : Bool :=
  (9 ≤ c.toNat && c.toNat ≤ 13) || c == ' '

/-- The ASCII form of a character in a number: a decimal digit of any script becomes the ASCII
digit, a blank a space. A character that no number holds becomes a question mark. -/
def asciiNumberChar (c : Char) : Char :=
  if c.toNat < 128 then c
  else if isBlank c then ' '
  else
    match digitValue? c with
    | some d => Char.ofNat (48 + d)
    | none => '?'

/-- The ASCII form of a text that may hold a number, without the blanks around it. -/
def asciiNumber (text : List Char) : List Char :=
  trimBy isAsciiBlank (text.map asciiNumberChar)

/-- The value of an ASCII digit in bases up to sixteen. -/
def baseDigit? (base : Nat) (c : Char) : Option Nat :=
  let value? :=
    if isAsciiDigit c then some (c.toNat - 48)
    else if 'a' ≤ c ∧ c ≤ 'f' then some (c.toNat - 87)
    else if 'A' ≤ c ∧ c ≤ 'F' then some (c.toNat - 55)
    else none
  value?.filter (· < base)

/-- Reads digits with single underscores between them to the end of a text. `afterDigit` says
whether a digit precedes, so that an underscore may stand here and the text may end. The answer is
the value and the number of digits. -/
def readDigits (base : Nat) (afterDigit : Bool) (value count : Nat) :
    List Char → Option (Nat × Nat)
  | [] => if afterDigit then some (value, count) else none
  | c :: rest =>
    match baseDigit? base c with
    | some d => readDigits base true (base * value + d) (count + 1) rest
    | none => if c = '_' ∧ afterDigit then readDigits base false value count rest else none

/-- A sign at the start of a text, and what follows it. -/
def cutSign : List Char → Bool × List Char
  | '-' :: rest => (true, rest)
  | '+' :: rest => (false, rest)
  | text => (false, text)

/-- An integer with a sign. -/
def signed (negative : Bool) (n : Nat) : Int :=
  if negative then -(n : Int) else n

/-- The integer that a text denotes in decimal notation. None if the text is no integer or if it has
too many digits. -/
def readInteger? (text : List Char) : Option Int :=
  let (negative, body) := cutSign (asciiNumber text)
  match readDigits 10 false 0 0 body with
  | some (n, count) => if count ≤ maxIntegerDigits then some (signed negative n) else none
  | none => none

/-- The integer that a text denotes in hexadecimal notation, with or without `0x`. An underscore may
follow that mark. -/
def readHexInteger? (text : List Char) : Option Int :=
  let (negative, body) := cutSign (asciiNumber text)
  let digits :=
    match body with
    | '0' :: x :: rest =>
      if x = 'x' ∨ x = 'X' then
        match rest with
        | '_' :: more => more
        | _ => rest
      else body
    | _ => body
  (readDigits 16 false 0 0 digits).map fun (n, _) => signed negative n

/-- The double nearest to `± digits · 10 ^ exponent`. -/
def nearestFloat (negative : Bool) (digits : Nat) (exponent : Int) : Float :=
  let size : Int := exponent + (digitText digits).length
  let magnitude : Float :=
    if digits = 0 ∨ size < -330 then 0.0
    else if 311 < size then 1.0 / 0.0
    else Float.ofScientific digits (decide (exponent < 0)) exponent.natAbs
  if negative then -magnitude else magnitude

/-- The double nearest to an integer. It is infinite if the integer is out of range. -/
def floatOfInt (n : Int) : Float :=
  nearestFloat (decide (n < 0)) n.natAbs 0

/-- The number that a run of ASCII digits denotes. -/
def digitsValue (digits : List Char) : Nat :=
  digits.foldl (fun n c => 10 * n + (c.toNat - 48)) 0

/-- An exponent mark with its exponent, up to the end of the text. No text means no exponent. -/
def readExponent? : List Char → Option Int
  | [] => some 0
  | mark :: rest =>
    if mark = 'e' ∨ mark = 'E' then
      let (negative, digits) := cutSign rest
      if digits.isEmpty ∨ ¬ digits.all isAsciiDigit then none
      else some (signed negative (digitsValue digits))
    else none

/-- The double that an unsigned decimal denotes: digits, a point with more digits, and an exponent.
Either run of digits may be missing, but not both. -/
def readUnsignedFloat? (negative : Bool) (text : List Char) : Option Float :=
  let whole := text.takeWhile isAsciiDigit
  let afterWhole := text.dropWhile isAsciiDigit
  let (part, rest) :=
    match afterWhole with
    | '.' :: more => (more.takeWhile isAsciiDigit, more.dropWhile isAsciiDigit)
    | _ => ([], afterWhole)
  if whole.isEmpty ∧ part.isEmpty then none
  else
    (readExponent? rest).map fun e =>
      nearestFloat negative (digitsValue (whole ++ part)) (e - part.length)

/-- A text without its underscores, each of which must stand between two digits. `previous` is the
character before the text. -/
def dropUnderscores? (previous : Char) : List Char → Option (List Char)
  | [] => if previous = '_' then none else some []
  | c :: rest =>
    if c = '_' then
      if isAsciiDigit previous then dropUnderscores? c rest else none
    else if previous = '_' ∧ ¬ isAsciiDigit c then none
    else (dropUnderscores? c rest).map (c :: ·)

/-- The double that a text denotes: a decimal, or a name of infinity or of no number in any case. -/
def readFloat? (text : List Char) : Option Float :=
  match dropUnderscores? ' ' (asciiNumber text) with
  | none => none
  | some plain =>
    let (negative, body) := cutSign plain
    let name := String.ofList (lower body)
    if name = "inf" ∨ name = "infinity" then
      some (if negative then -1.0 / 0.0 else 1.0 / 0.0)
    else if name = "nan" then some (0.0 / 0.0)
    else readUnsignedFloat? negative body

end ContentEngine
