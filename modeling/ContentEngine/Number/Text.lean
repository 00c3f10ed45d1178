/-!
# The text of a number

Integers are written in plain decimal, up to a limit on their length. A double is written with its
shortest digits: positionally, and then always with a point, if its leading digit stands between the
fourth place after the point and the sixteenth before it, and with an exponent of at least two
digits otherwise.
-/

namespace ContentEngine

/-!
### The number that a double denotes

A double is not a number, infinite, or a dyadic number `± m · 2 ^ q` in which `m` has at most 53
bits. All exact work on doubles starts from that reading.
-/

/-- What a double denotes. -/
inductive BinaryValue where
  | notANumber
  | infinite (negative : Bool)
  | finite (negative : Bool) (mantissa : Nat) (exponent : Int)
deriving Repr, DecidableEq

/-- The reading of the 64 bits of a double: sign, eleven bits of exponent, 52 of mantissa. Exponent
0 has no hidden bit, and exponent 2047 is kept for the values that are no number. -/
def BinaryValue.ofBits (bits : Nat) : BinaryValue :=
  let negative := bits / Nat.pow 2 63 % 2 == 1
  let exponent : Nat := bits / Nat.pow 2 52 % Nat.pow 2 11
  let fraction : Nat := bits % Nat.pow 2 52
  if exponent = 2047 then
    if fraction = 0 then .infinite negative else .notANumber
  else if exponent = 0 then .finite negative fraction (-1074)
  else .finite negative (Nat.pow 2 52 + fraction) ((exponent : Int) - 1075)

/-- What a double denotes. -/
def BinaryValue.ofFloat (x : Float) : BinaryValue :=
  .ofBits x.toBits.toNat

/-- The integer that a double denotes, if it denotes one. -/
def BinaryValue.toInt? : BinaryValue → Option Int
  | .finite negative mantissa exponent =>
    let magnitude : Option Nat :=
      if 0 ≤ exponent then some (mantissa * Nat.pow 2 exponent.toNat)
      else if mantissa % Nat.pow 2 (-exponent).toNat = 0 then
        some (mantissa / Nat.pow 2 (-exponent).toNat)
      else none
    magnitude.map fun n => if negative then -(n : Int) else n
  | _ => none

/-- The whole part of the number that a double denotes, if it denotes one. -/
def BinaryValue.wholePart? : BinaryValue → Option Int
  | .finite negative mantissa exponent =>
    let n : Nat :=
      if 0 ≤ exponent then mantissa * Nat.pow 2 exponent.toNat
      else mantissa / Nat.pow 2 (-exponent).toNat
    some (if negative then -(n : Int) else n)
  | _ => none

/-- The least integer that is not below the number that a double denotes. -/
def BinaryValue.ceiling? : BinaryValue → Option Int
  | .finite negative mantissa exponent =>
    let n : Int := if negative then -(mantissa : Int) else mantissa
    some (if 0 ≤ exponent then n * (Nat.pow 2 exponent.toNat : Nat)
      else -(-n / (Nat.pow 2 (-exponent).toNat : Nat)))
  | _ => none

/-- The greatest integer that is not above the number that a double denotes. -/
def BinaryValue.floor? : BinaryValue → Option Int
  | .finite negative mantissa exponent =>
    let n : Int := if negative then -(mantissa : Int) else mantissa
    some (if 0 ≤ exponent then n * (Nat.pow 2 exponent.toNat : Nat)
      else n / (Nat.pow 2 (-exponent).toNat : Nat))
  | _ => none

/-- Whether a double denotes a number. -/
def BinaryValue.isFinite : BinaryValue → Bool
  | .finite .. => true
  | _ => false

/-- The integer that a double denotes, if it denotes one. -/
def integerOfFloat? (x : Float) : Option Int :=
  (BinaryValue.ofFloat x).toInt?

/-- Whether a double denotes a number. -/
def isFiniteFloat (x : Float) : Bool :=
  (BinaryValue.ofFloat x).isFinite

/-!
### The shortest decimal that reads back

Every double is written with the fewest significant digits that single it out. The reals that round
to `m · 2 ^ q` form an interval, whose ends belong to it if `m` is even. For one digit, two digits,
and so on up to seventeen, the two decimals next to the value are tried; the first count of digits
for which one of them lies in the interval is the answer, of two such decimals the nearer one, and
at equal distance the even one. Seventeen digits always suffice.
-/

/-- The number `digits · 10 ^ exponent`. -/
structure DecimalDigits where
  digits : Nat
  exponent : Int
deriving Repr, DecidableEq

/-- The decimal digits of a number, most significant first. -/
def digitText (n : Nat) : List Char :=
  Nat.toDigits 10 n

/-- Whether `10 ^ e ≤ num / den`. -/
def reachesPower (num den : Nat) (e : Int) : Bool :=
  if 0 ≤ e then den * Nat.pow 10 e.toNat ≤ num else den ≤ num * Nat.pow 10 (-e).toNat

/-- The greatest of the exponents `start`, `start - 1`, … whose power of ten does not exceed
`num / den`, as far down as `steps` allow. -/
def descendPower (num den : Nat) (start : Int) : Nat → Int
  | 0 => start
  | steps + 1 =>
    if reachesPower num den start then start else descendPower num den (start - 1) steps

/-- The exponent of the leading decimal digit of a positive fraction. The counts of digits of
numerator and denominator leave two candidates. -/
def leadingExponent (num den : Nat) : Int :=
  descendPower num den ((digitText num).length - (digitText den).length) 2

/-- The reals that round to a positive double, all over one denominator: the double itself and the
ends of the interval. -/
structure RoundingInterval where
  value : Nat
  lower : Nat
  upper : Nat
  den : Nat
  closed : Bool

/-- The interval that rounds to `mantissa · 2 ^ exponent`. The gap below a power of two is half the
gap above it. -/
def RoundingInterval.of (mantissa : Nat) (exponent : Int) : RoundingInterval :=
  let scale := if 2 ≤ exponent then Nat.pow 2 (exponent - 2).toNat else 1
  let den := if 2 ≤ exponent then 1 else Nat.pow 2 (2 - exponent).toNat
  let below := if mantissa = Nat.pow 2 52 ∧ -1074 < exponent then 1 else 2
  ⟨4 * mantissa * scale, (4 * mantissa - below) * scale, (4 * mantissa + 2) * scale, den,
    mantissa % 2 == 0⟩

/-- Whether `digits · 10 ^ k` lies in an interval. -/
def RoundingInterval.contains (i : RoundingInterval) (digits : Nat) (k : Int) : Bool :=
  let point := digits * Nat.pow 10 k.toNat * i.den
  let scale := Nat.pow 10 (-k).toNat
  if i.closed then i.lower * scale ≤ point && point ≤ i.upper * scale
  else i.lower * scale < point && point < i.upper * scale

/-- The decimal on the grid `10 ^ k` that stands for the interval's value, if one of the value's two
neighbours on that grid lies in the interval. -/
def RoundingInterval.onGrid? (i : RoundingInterval) (k : Int) : Option DecimalDigits :=
  let step := Nat.pow 10 k.toNat * i.den
  let scaled := i.value * Nat.pow 10 (-k).toNat
  let below := scaled / step
  let rest := scaled - below * step
  match i.contains below k, i.contains (below + 1) k with
  | true, true =>
    if 2 * rest < step ∨ (2 * rest = step ∧ below % 2 = 0) then some ⟨below, k⟩
    else some ⟨below + 1, k⟩
  | true, false => some ⟨below, k⟩
  | false, true => some ⟨below + 1, k⟩
  | false, false => none

/-- The first hit on the grids that leave `count`, `count + 1`, … significant digits. -/
def RoundingInterval.search (i : RoundingInterval) (leading : Int) (count : Nat) :
    Nat → Option DecimalDigits
  | 0 => none
  | tries + 1 =>
    match i.onGrid? (leading - count + 1) with
    | some hit => some hit
    | none => i.search leading (count + 1) tries

/-- Takes the zeros off the end of the digits. `steps` bounds their number. -/
def DecimalDigits.strip (d : DecimalDigits) : Nat → DecimalDigits
  | 0 => d
  | steps + 1 =>
    if d.digits ≠ 0 ∧ d.digits % 10 = 0 then strip ⟨d.digits / 10, d.exponent + 1⟩ steps else d

/-- The shortest decimal that reads back as the positive double `mantissa · 2 ^ exponent`. -/
def shortestDecimal (mantissa : Nat) (exponent : Int) : DecimalDigits :=
  let i := RoundingInterval.of mantissa exponent
  match i.search (leadingExponent i.value i.den) 1 17 with
  | some d => d.strip 17
  | none => ⟨0, 0⟩

/-! ### Texts -/

/-- The most decimal digits that an integer may have in a text, written or read. -/
def maxIntegerDigits : Nat := 4300

/-- The text of an integer, unless it is too long. -/
def integerText? (n : Int) : Option String :=
  let digits := digitText n.natAbs
  if digits.length ≤ maxIntegerDigits then
    some (String.ofList (if n < 0 then '-' :: digits else digits))
  else none

/-- How doubles are laid out: the exponents of the leading digit that are written positionally. -/
structure FloatLayout where
  lowest : Int
  highest : Int

/-- The layout of doubles in all texts of the engine. -/
def floatLayout : FloatLayout := ⟨-4, 15⟩

/-- An exponent with its sign, and with at least two digits. -/
def exponentText (e : Int) : List Char :=
  let digits := digitText e.natAbs
  (if e < 0 then '-' else '+') :: (if digits.length < 2 then '0' :: digits else digits)

/-- The text of a positive decimal number. -/
def FloatLayout.lay (layout : FloatLayout) (d : DecimalDigits) : List Char :=
  let digits := digitText d.digits
  let leading : Int := d.exponent + digits.length - 1
  if layout.lowest ≤ leading ∧ leading ≤ layout.highest then
    if leading < 0 then
      '0' :: '.' :: (List.replicate (-leading - 1).toNat '0' ++ digits)
    else if 0 ≤ d.exponent then
      digits ++ List.replicate d.exponent.toNat '0' ++ ['.', '0']
    else
      digits.take (leading.toNat + 1) ++ '.' :: digits.drop (leading.toNat + 1)
  else
    match digits with
    | [] => []
    | first :: rest =>
      first :: ((if rest.isEmpty then [] else '.' :: rest) ++ 'e' :: exponentText leading)

/-- The text of what a double denotes. -/
def BinaryValue.text : BinaryValue → String
  | .notANumber => "nan"
  | .infinite negative => if negative then "-inf" else "inf"
  | .finite negative mantissa exponent =>
    let body :=
      if mantissa = 0 then ['0', '.', '0']
      else floatLayout.lay (shortestDecimal mantissa exponent)
    String.ofList (if negative then '-' :: body else body)

/-- The text of a double. -/
def floatText (x : Float) : String :=
  (BinaryValue.ofFloat x).text

end ContentEngine
