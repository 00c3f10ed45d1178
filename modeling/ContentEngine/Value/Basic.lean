import ContentEngine.Calendar
import ContentEngine.Number.Identifier
import ContentEngine.Number.Decimal
import ContentEngine.Table
/-!
# Documents

The engine stores what editors send it, so its data is loosely typed: a `Value` is a JSON document,
in which an integer and a double are different things, together with the few kinds of value that
only a database hands out (bytes, identifiers, moments, days, exact decimals, tuples).

An object keeps its members in the order in which their keys were first written. `Obj` is that list
of members, and the functions of this module are the only way the library looks into one: reading a
missing key gives `null`, writing a key that is there keeps its place, and a new key goes to the
end. A mapping in which some key is not text is a value of its own kind, a `table`.
-/

namespace ContentEngine

/-- A document. -/
inductive Value where
  | null
  | bool (b : Bool)
  | int (n : Int)
  | float (x : Float)
  | str (text : String)
  | list (items : List Value)
  | obj (members : List (String × Value))
  | bytes (data : List UInt8)
  | identifier (u : Identifier)
  | moment (m : Moment)
  | day (d : Day)
  | decimal (d : Decimal)
  | tuple (items : List Value)
  | set (items : List Value)
  | table (rows : List (Value × Value))

instance : Inhabited Value := ⟨.null⟩

/-- An object: its members in order, with distinct keys. -/
abbrev Obj := Table Value

namespace Obj

/-- The value under a key, if the key is there. -/
def get? (o : Obj) (key : String) : Option Value :=
  Table.get? o key

/-- The value under a key. A missing key reads as null. -/
def get (o : Obj) (key : String) : Value :=
  (get? o key).getD .null

/-- Whether a key is there. -/
def has (o : Obj) (key : String) : Bool :=
  Table.has o key

/-- The keys in order. -/
def keys (o : Obj) : List String :=
  Table.keys o

/-- Writes a value under a key: in place if the key is there, at the end otherwise. -/
def set (o : Obj) (key : String) (value : Value) : Obj :=
  Table.set o key value

/-- Takes a key out. -/
def erase (o : Obj) (key : String) : Obj :=
  Table.erase o key

/-- Writes a value under a key that is not there yet. -/
def setDefault (o : Obj) (key : String) (value : Value) : Obj :=
  if has o key then o else set o key value

/-- Writes all members of another object. -/
def merge (o other : Obj) : Obj :=
  other.foldl (fun acc member => set acc member.1 member.2) o

/-- The object that some members make up. Of members with one key the last gives the value, and the
first the place. -/
def ofMembers (members : List (String × Value)) : Obj :=
  merge [] members

/-! ### What an object holds -/

@[simp] theorem get?_nil (key : String) : get? [] key = none := rfl

theorem get?_cons (k : String) (v : Value) (o : Obj) (key : String) :
    get? ((k, v) :: o) key = if key = k then some v else get? o key :=
  Table.get?_cons k v o key

theorem get?_set (o : Obj) (key : String) (v : Value) (k : String) :
    get? (set o key v) k = if k = key then some v else get? o k :=
  Table.get?_set o key v k

theorem get?_erase (o : Obj) (key k : String) :
    get? (erase o key) k = if k = key then none else get? o k :=
  Table.get?_erase o key k

theorem has_eq_isSome (o : Obj) (key : String) : has o key = (get? o key).isSome := rfl

theorem get?_setDefault (o : Obj) (key : String) (v : Value) (k : String) :
    get? (setDefault o key v) k = if k = key then some ((get? o key).getD v) else get? o k := by
  rw [setDefault, has_eq_isSome]
  cases h : get? o key with
  | none => simp [get?_set]
  | some old => by_cases hk : k = key <;> simp [hk, h]

@[simp] theorem has_set (o : Obj) (key : String) (v : Value) (k : String) :
    has (set o key v) k = (k == key || has o k) :=
  Table.has_set o key v k

@[simp] theorem has_erase (o : Obj) (key k : String) :
    has (erase o key) k = (k != key && has o k) :=
  Table.has_erase o key k

theorem has_of_get?_eq_some {o : Obj} {key : String} {v : Value} (h : get? o key = some v) :
    has o key = true := by
  rw [has_eq_isSome, h, Option.isSome_some]

theorem has_of_get?_eq_none {o : Obj} {key : String} (h : get? o key = none) :
    has o key = false := by
  rw [has_eq_isSome, h, Option.isSome_none]

theorem get_of_get?_eq_some {o : Obj} {key : String} {v : Value} (h : get? o key = some v) :
    get o key = v := by
  rw [get, h, Option.getD_some]

theorem get?_eq_some_get {o : Obj} {key : String} (h : has o key = true) :
    get? o key = some (get o key) := by
  obtain ⟨v, hv⟩ := Option.isSome_iff_exists.mp h
  have hget : get? o key = some v := hv
  simp [get, hget]

@[simp] theorem get_set_self (o : Obj) (key : String) (v : Value) :
    get (set o key v) key = v := by
  simp [get, get?_set]

/-- Of members with distinct keys each is what the merged object holds under its key. -/
theorem get?_merge (o : Obj) {other : Obj} (h : (keys other).Nodup) (k : String) :
    get? (merge o other) k = (get? other k).or (get? o k) := by
  induction other generalizing o with
  | nil => simp [merge]
  | cons member rest ih =>
    obtain ⟨key, v⟩ := member
    have hnodup : key ∉ keys rest ∧ (keys rest).Nodup := List.nodup_cons.mp h
    have hmerge : merge o ((key, v) :: rest) = merge (set o key v) rest := rfl
    rw [hmerge, ih _ hnodup.2, get?_cons, get?_set]
    by_cases hk : k = key
    · subst hk
      have hnone : get? rest k = none := by
        rw [← Option.not_isSome_iff_eq_none]
        exact fun hhas => hnodup.1 (Table.mem_keys_iff.mpr hhas)
      simp [hnone]
    · simp [hk]

end Obj

namespace Value

/-- The rows of a table whose key is text. -/
def textRows : List (Value × Value) → Obj
  | [] => []
  | (str key, value) :: rest => (key, value) :: textRows rest
  | _ :: rest => textRows rest

/-- The members of an object. Of a table they are the rows whose key is text. -/
def asObj? : Value → Option Obj
  | obj members => some members
  | table rows => some (textRows rows)
  | _ => none

/-- Whether a value is a mapping. -/
def isObj (v : Value) : Bool :=
  v.asObj?.isSome

/-- The members of an object, and none of anything else. -/
def members (v : Value) : Obj :=
  v.asObj?.getD []

/-- The items of a list. -/
def asList? : Value → Option (List Value)
  | list items => some items
  | _ => none

/-- The items of a list or a tuple. -/
def asItems? : Value → Option (List Value)
  | list items => some items
  | tuple items => some items
  | _ => none

/-- The text of a string. -/
def asText? : Value → Option String
  | str text => some text
  | _ => none

/-- Whether a value is null. -/
def isNull : Value → Bool
  | null => true
  | _ => false

/-- Whether a value is the boolean `false` itself. -/
def isFalse : Value → Bool
  | bool false => true
  | _ => false

/-- Whether a value is a number equal to zero. -/
def isZero : Value → Bool
  | int n => n == 0
  | float x => x == 0.0
  | decimal d => d.isZero
  | _ => false

/-- Whether a value counts as present: null, false, zero and everything empty do not. -/
def truthy : Value → Bool
  | null => false
  | bool b => b
  | int n => n != 0
  | float x => x != 0.0
  | str text => text != ""
  | list items => !items.isEmpty
  | obj members => !members.isEmpty
  | bytes data => !data.isEmpty
  | decimal d => !d.isZero
  | tuple items => !items.isEmpty
  | set items => !items.isEmpty
  | table rows => !rows.isEmpty
  | identifier _ | moment _ | day _ => true

/-- The first of two values that counts as present, or the second one. -/
def orElse (v other : Value) : Value :=
  if v.truthy then v else other

/-- The value unless it is null, in which case another one. -/
def orIfNull (v other : Value) : Value :=
  if v.isNull then other else v

/-- A text, or null for none. -/
def ofText? : Option String → Value
  | some text => .str text
  | none => .null

/-- An integer, or null for none. -/
def ofInt? : Option Int → Value
  | some n => .int n
  | none => .null

/-- A list of texts. -/
def ofTexts (texts : List String) : Value :=
  .list (texts.map .str)

/-- The integer of a value that is one. The two booleans count as 0 and 1. -/
def asIndex? : Value → Option Int
  | int n => some n
  | bool b => some (if b then 1 else 0)
  | _ => none

end Value

/-- The first value under one of several keys that counts as present, or null. -/
def Obj.firstTruthy (o : Obj) : List String → Value
  | [] => .null
  | key :: keys => if (Obj.get o key).truthy then Obj.get o key else Obj.firstTruthy o keys

/-- The value under a key if the key is there, and under another key otherwise. -/
def Obj.getEither (o : Obj) (key other : String) : Value :=
  match Obj.get? o key with
  | some value => value
  | none => Obj.get o other

/-- The members of the object under a key, and none if there is no object. -/
def Obj.getObj (o : Obj) (key : String) : Obj :=
  (Obj.get o key).members

/-- The items of the list under a key, and none if there is no list. -/
def Obj.getList (o : Obj) (key : String) : List Value :=
  (Obj.get o key).asList?.getD []

end ContentEngine
