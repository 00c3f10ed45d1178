import ContentEngine.Value.Basic
/-!
# Equality and order of values

Numbers are compared by what they denote: the integer 1, the double 1.0 and the boolean `true` are
the same, and a double that is no number differs from itself. Objects are the same if they have the
same keys with the same values, in whatever order; lists are compared item by item.
-/

namespace ContentEngine

/-- What a number denotes: a fraction, an infinity, or nothing. -/
inductive Magnitude where
  | fraction (numerator : Int) (denominator : Nat)
  | infinite (negative : Bool)
  | undefinedResult

namespace Magnitude

/-- The magnitude of `± digits · base ^ exponent`. -/
def ofScaled (negative : Bool) (digits base : Nat) (exponent : Int) : Magnitude :=
  .fraction (signed negative (digits * Nat.pow base exponent.toNat))
    (Nat.pow base (-exponent).toNat)

/-- The magnitude of a double. -/
def ofFloat (x : Float) : Magnitude :=
  match BinaryValue.ofFloat x with
  | .notANumber => undefinedResult
  | .infinite negative => infinite negative
  | .finite negative mantissa exponent => ofScaled negative mantissa 2 exponent

/-- Whether one magnitude is less than another. -/
def lt : Magnitude → Magnitude → Bool
  | .fraction a b, .fraction c d => a * d < c * b
  | .infinite true, .fraction .. | .infinite true, .infinite false => true
  | .fraction .., .infinite false => true
  | _, _ => false

/-- Whether two magnitudes are equal. -/
def eq : Magnitude → Magnitude → Bool
  | .fraction a b, .fraction c d => a * d == c * b
  | .infinite a, .infinite b => a == b
  | _, _ => false

end Magnitude

namespace Value

/-- What a value denotes as a number. Booleans are 0 and 1. -/
def magnitude? : Value → Option Magnitude
  | bool b => some (.fraction (if b then 1 else 0) 1)
  | int n => some (.fraction n 1)
  | float x => some (.ofFloat x)
  | decimal (.finite negative digits exponent) => some (.ofScaled negative digits 10 exponent)
  | decimal (.infinite negative) => some (.infinite negative)
  | decimal (.undefinedResult ..) => some .undefinedResult
  | _ => none

/-- Whether two values without parts are the same. -/
def sameScalar : Value → Value → Bool
  | null, null => true
  | str a, str b => a == b
  | bytes a, bytes b => a == b
  | identifier a, identifier b => a == b
  | moment a, moment b => a == b
  | day a, day b => a == b
  | x, y =>
    match x.magnitude?, y.magnitude? with
    | some a, some b => a.eq b
    | _, _ => false

mutual

/-- Whether two values are the same. -/
def same : Value → Value → Bool
  | list a, other =>
    match other with
    | list b => sameItems a b
    | _ => false
  | tuple a, other =>
    match other with
    | tuple b => sameItems a b
    | _ => false
  | set a, other =>
    match other with
    | set b => sameItems a b
    | _ => false
  | obj a, other =>
    match other with
    | obj b => a.length == b.length && sameMembers a b
    | _ => false
  | table a, other =>
    match other with
    | table b => a.length == b.length && sameRows a b
    | _ => false
  | x, y => sameScalar x y

/-- Whether two lists of values are the same item by item. -/
def sameItems : List Value → List Value → Bool
  | [], [] => true
  | x :: xs, y :: ys => same x y && sameItems xs ys
  | _, _ => false

/-- Whether an object has all of some members. -/
def sameMembers : List (String × Value) → List (String × Value) → Bool
  | [], _ => true
  | (key, value) :: rest, other =>
    (match Obj.get? other key with
      | some found => same value found
      | none => false)
    && sameMembers rest other

/-- Whether two tables agree row by row. -/
def sameRows : List (Value × Value) → List (Value × Value) → Bool
  | [], [] => true
  | (key, value) :: rest, (key', value') :: rest' =>
    same key key' && same value value' && sameRows rest rest'
  | _, _ => false

end

/-- Whether a value comes before another: numbers by size, texts by code points. Other values have
no order. -/
def before? (x y : Value) : Option Bool :=
  match x, y with
  | str a, str b => some (decide (a < b))
  | _, _ =>
    match x.magnitude?, y.magnitude? with
    | some a, some b => some (a.lt b)
    | _, _ => none

/-- Whether a value is a given text. -/
def isText (v : Value) (text : String) : Bool :=
  match v with
  | str s => s == text
  | _ => false

/-- Writes a value under a key of a table: in place if a row has the same key, at the end
otherwise. -/
def setRow (key value : Value) : List (Value × Value) → List (Value × Value)
  | [] => [(key, value)]
  | (k, v) :: rest => if k.same key then (k, value) :: rest else (k, v) :: setRow key value rest

/-- The mapping that some rows make up. Of rows with one key the last gives the value, and the first
the key and the place. -/
def ofRows (rows : List (Value × Value)) : Value :=
  match rows.mapM fun row => row.1.asText?.map fun key => (key, row.2) with
  | some members => .obj (Obj.ofMembers members)
  | none => .table (rows.foldl (fun table row => setRow row.1 row.2 table) [])

end Value

end ContentEngine
