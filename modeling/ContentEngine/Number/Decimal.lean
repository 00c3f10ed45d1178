import ContentEngine.Number.Reading
/-!
# Decimal numbers

The exact decimals that a database hands out. A decimal keeps its digits as they were written, so
`3.0` and `3` are different decimals of the same value; besides numbers there are infinities and
signs of an undefined result.
-/

namespace ContentEngine

/-- An exact decimal: `± digits · 10 ^ exponent`, an infinity, or no number. -/
inductive Decimal where
  | finite (negative : Bool) (digits : Nat) (exponent : Int)
  | infinite (negative : Bool)
  | undefinedResult (negative signaling : Bool) (payload : String)
deriving Repr, DecidableEq

/-- Whether a decimal is a number. -/
def Decimal.isFinite : Decimal → Bool
  | .finite .. => true
  | _ => false

/-- Whether a decimal is the number zero. -/
def Decimal.isZero : Decimal → Bool
  | .finite _ digits _ => digits == 0
  | _ => false

/-- The integer that a decimal is equal to, if there is one. -/
def Decimal.toInt? : Decimal → Option Int
  | .finite negative digits exponent =>
    if 0 ≤ exponent then some (signed negative (digits * Nat.pow 10 exponent.toNat))
    else if digits = 0 then some 0
    else if (digitText digits).length < (-exponent).toNat then none
    else if digits % Nat.pow 10 (-exponent).toNat = 0 then
      some (signed negative (digits / Nat.pow 10 (-exponent).toNat))
    else none
  | _ => none

/-- The whole part of a decimal that is a number. -/
def Decimal.wholePart? : Decimal → Option Int
  | .finite negative digits exponent =>
    if 0 ≤ exponent then some (signed negative (digits * Nat.pow 10 exponent.toNat))
    else if (digitText digits).length ≤ (-exponent).toNat then some 0
    else some (signed negative (digits / Nat.pow 10 (-exponent).toNat))
  | _ => none

/-- The double nearest to a decimal. -/
def Decimal.toFloat : Decimal → Float
  | .finite negative digits exponent => nearestFloat negative digits exponent
  | .infinite negative => if negative then -1.0 / 0.0 else 1.0 / 0.0
  | .undefinedResult .. => 0.0 / 0.0

/-- The text of the digits of a decimal: positional as long as that shows the exponent, and with an
exponent mark otherwise. -/
def decimalDigitsText (digits : Nat) (exponent : Int) : List Char :=
  let ds := digitText digits
  let leading : Int := exponent + ds.length - 1
  if exponent ≤ 0 ∧ -6 ≤ leading then
    let places := (-exponent).toNat
    if places = 0 then ds
    else if places < ds.length then
      ds.take (ds.length - places) ++ '.' :: ds.drop (ds.length - places)
    else '0' :: '.' :: (List.replicate (places - ds.length) '0' ++ ds)
  else
    match ds with
    | [] => []
    | first :: rest =>
      first :: ((if rest.isEmpty then [] else '.' :: rest)
        ++ 'E' :: (if leading < 0 then '-' else '+') :: digitText leading.natAbs)

/-- The text of a decimal. -/
def Decimal.text : Decimal → String
  | .finite negative digits exponent =>
    let body := decimalDigitsText digits exponent
    String.ofList (if negative then '-' :: body else body)
  | .infinite negative => if negative then "-Infinity" else "Infinity"
  | .undefinedResult negative signaling payload =>
    (if negative then "-" else "") ++ (if signaling then "sNaN" else "NaN") ++ payload

/-- The payload of an undefined result: digits without leading zeros. -/
def readPayload? (text : List Char) : Option String :=
  if text.all isAsciiDigit then some (String.ofList (text.dropWhile (· == '0'))) else none

/-- What follows a word at the start of a text, in any case of letters. -/
def dropWord? (word : String) (text : List Char) : Option (List Char) :=
  if (lower (text.take word.length)) = word.toList then some (text.drop word.length) else none

/-- The decimal that an unsigned text denotes. -/
def readUnsignedDecimal? (negative : Bool) (text : List Char) : Option Decimal :=
  if dropWord? "infinity" text = some [] ∨ dropWord? "inf" text = some [] then
    some (.infinite negative)
  else
    match dropWord? "snan" text, dropWord? "nan" text with
    | some rest, _ => (readPayload? rest).map (.undefinedResult negative true)
    | none, some rest => (readPayload? rest).map (.undefinedResult negative false)
    | none, none =>
      let whole := text.takeWhile isAsciiDigit
      let afterWhole := text.dropWhile isAsciiDigit
      let (part, rest) :=
        match afterWhole with
        | '.' :: more => (more.takeWhile isAsciiDigit, more.dropWhile isAsciiDigit)
        | _ => ([], afterWhole)
      if whole.isEmpty ∧ part.isEmpty then none
      else
        (readExponent? rest).map fun e =>
          .finite negative (digitsValue (whole ++ part)) (e - part.length)

/-- The decimal that a text denotes. Blanks around it and underscores in it do not count. -/
def Decimal.ofText? (text : String) : Option Decimal :=
  let plain := ((trimBy isBlank text.toList).filter (· ≠ '_')).map asciiNumberChar
  let (negative, body) := cutSign plain
  readUnsignedDecimal? negative body

end ContentEngine
