import ContentEngine.Text.Search
import ContentEngine.Number.Reading
/-!
# Universally unique identifiers

An identifier is a number of 128 bits. It is written as 32 hexadecimal digits in five groups; the
reader takes several older spellings as well, with a scheme, with braces or with other dashes, and
what is left must be 32 characters that denote a hexadecimal number.
-/

namespace ContentEngine

/-- An identifier of 128 bits. -/
structure Identifier where
  number : Nat
deriving Repr, DecidableEq

/-- The hexadecimal digit of a number below sixteen. -/
def hexDigit (n : Nat) : Char :=
  if n < 10 then Char.ofNat (48 + n) else Char.ofNat (87 + n)

/-- The last `width` hexadecimal digits of a number. -/
def hexText : Nat → Nat → List Char
  | 0, _ => []
  | width + 1, n => hexText width (n / 16) ++ [hexDigit (n % 16)]

/-- The dashed lower-case form of an identifier. -/
def Identifier.text (u : Identifier) : String :=
  let digits := hexText 32 u.number
  String.ofList (digits.take 8 ++ '-' :: (digits.drop 8).take 4 ++ '-' :: (digits.drop 12).take 4
    ++ '-' :: (digits.drop 16).take 4 ++ '-' :: digits.drop 20)

/-- The hexadecimal digits in a spelling of an identifier: without its scheme, its braces and its
dashes. -/
def identifierDigits (text : List Char) : List Char :=
  let plain := replaceAll "uuid:".toList [] (replaceAll "urn:".toList [] text)
  (trimBy (fun c => c == '\x7b' || c == '\x7d') plain).filter (· ≠ '-')

/-- The identifier that a text spells. -/
def Identifier.ofText? (text : String) : Option Identifier :=
  let digits := identifierDigits text.toList
  if digits.length = 32 then
    match readHexInteger? digits with
    | some (.ofNat n) => if n < Nat.pow 2 128 then some ⟨n⟩ else none
    | _ => none
  else none

end ContentEngine
