import ContentEngine.Fault
import ContentEngine.Number.Reading
import ContentEngine.Number.Decimal
/-!
# Values as numbers

Editors send numbers as numbers or as texts. A value has an integer if it is one, if it is a double
that is equal to one, or if it is a text of digits; it has a number if it is one or a text that
denotes one, and if that number is finite. Booleans have neither. Where a number is all that can be
meant, the whole part of whatever is given is taken.
-/

namespace ContentEngine

namespace Value

/-- The integer of a value, if it has one. A text that consists of digits and dashes without
denoting an integer is at fault. -/
def toInteger : Value → Outcome (Option Int)
  | int n => .ok (some n)
  | float x => .ok (integerOfFloat? x)
  | str s =>
    let text := trimBy isBlank s.toList
    if isDigitText (text.dropWhile (· == '-')) then
      match readInteger? text with
      | some n => .ok (some n)
      | none => .error .badInteger
    else .ok none
  | _ => .ok none

/-- A double, unless it is infinite or no number. -/
def finite? (x : Float) : Option Float :=
  if isFiniteFloat x then some x else none

/-- The number of a value, if it has one. An integer that is out of range is at fault. -/
def toNumber : Value → Outcome (Option Float)
  | int n =>
    match finite? (floatOfInt n) with
    | some x => .ok (some x)
    | none => .error .tooLarge
  | float x => .ok (finite? x)
  | str s =>
    let text := trimBy isBlank s.toList
    .ok (if text.isEmpty then none else (readFloat? text).bind finite?)
  | _ => .ok none

/-- The least integer that is not below a number. An integer is less than the number exactly if it
is less than that one. -/
def ceiling? : Value → Option Int
  | float x => (BinaryValue.ofFloat x).ceiling?
  | v => v.asIndex?

/-- The greatest integer that is not above a number. An integer is greater than the number exactly
if it is greater than that one. -/
def floor? : Value → Option Int
  | float x => (BinaryValue.ofFloat x).floor?
  | v => v.asIndex?

/-- The whole part of a value: that of a number, or the integer that a text denotes. The two
booleans count as 0 and 1. -/
def wholePart : Value → Outcome Int
  | int n => .ok n
  | bool b => .ok (if b then 1 else 0)
  | float x =>
    match BinaryValue.ofFloat x with
    | .notANumber => .error .badInteger
    | b => b.wholePart?.elim (.error .tooLarge) .ok
  | decimal d =>
    match d with
    | .undefinedResult .. => .error .badInteger
    | d => d.wholePart?.elim (.error .tooLarge) .ok
  | str s => (readInteger? (trimBy isBlank s.toList)).elim (.error .badInteger) .ok
  | _ => .error .noNumber

end Value

end ContentEngine
