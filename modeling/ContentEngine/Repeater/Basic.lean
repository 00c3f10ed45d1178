import ContentEngine.Field.Definition
import ContentEngine.Value.Equal
import ContentEngine.Value.Weight
/-!
# Repeaters

What the engine reads off the configuration of a repeater when it works on rows: how many rows there
may be, how deep repeaters may nest, how a row is labelled, the subfields, and the rules. A row is
an object; whatever else stands in a list of rows counts as an empty row.
-/

namespace ContentEngine

/-- A subfield as the rows see it. -/
structure Subfield where
  key : String
  type : Value
  label : Value
  config : Value

/-- A repeater as its rows see it. -/
structure Repeater where
  minRows : Option Int
  maxRows : Option Int
  maxDepth : Int
  labelTemplate : Value
  subfields : List Subfield
  rules : List Value

/-- The subfield that a value describes. It must have a key. -/
def Subfield.ofValue? (v : Value) : Option Subfield := do
  let o ← v.asObj?
  let key ← (Obj.get o "key").asText?
  return ⟨key, Obj.get o "type", Obj.get o "label", Obj.get o "config"⟩

/-- Whether a subfield is a repeater itself. -/
def Subfield.isRepeater (s : Subfield) : Bool :=
  s.type.isText "repeater"

namespace Repeater

/-- The repeater that a configuration describes. The configuration is taken as it stands; one that
says nothing about nesting allows none. -/
def ofConfig (config : Obj) : Repeater where
  minRows := (Obj.get config "minRows").floor?
  maxRows := (Obj.get config "maxRows").ceiling?
  maxDepth := ((Obj.get? config "maxDepth").getD (.int 1)).ceiling?.getD 1
  labelTemplate := Obj.get config "rowLabelTemplate"
  subfields := (Obj.getList config "subfields").filterMap Subfield.ofValue?
  rules := Obj.getList config "rules"

/-- The strict configuration of the repeater that a value describes: a repeater field with a
configuration, or a configuration. -/
def configOf (source : Value) : Outcome Obj :=
  let o := source.members
  if (Obj.get o "type").isText "repeater" && Obj.has o "config" then
    FieldDef.repeaterConfigOf (Obj.get o "config").toConfig
  else FieldDef.repeaterConfigOf o

/-- Whether repeaters may nest in the rows at a depth. -/
def canNest (r : Repeater) (depth : Int) : Bool :=
  depth < r.maxDepth

/-- Whether a subfield is a repeater that is too deep to be used. -/
def isInert (r : Repeater) (depth : Int) (s : Subfield) : Bool :=
  s.isRepeater && !r.canNest depth

/-- Whether one more row may be added to so many. -/
def canAdd (r : Repeater) (rows : Nat) : Bool :=
  match r.maxRows with
  | none => true
  | some limit => (rows : Int) < limit

/-- Whether one of so many rows may be removed. -/
def canRemove (r : Repeater) (rows : Nat) : Bool :=
  match r.minRows with
  | none => true
  | some limit => limit < (rows : Int)

end Repeater

/-- The rows of a value. What is no list has no rows. -/
def rowsOf (v : Value) : List Obj :=
  (v.asList?.getD []).map Value.members

/-- A row with the value under an alias moved to the key that the alias stands for. A value that is
under the key already wins. -/
def alignKey (row : Obj) (key : String) : Obj :=
  let camel := camelCase key
  if camel != key && Obj.has row camel then
    Obj.setDefault (Obj.erase row camel) key (Obj.get row camel)
  else row

/-- A row in which every subfield's value stands under the subfield's key. -/
def alignRow (subfields : List Subfield) (row : Obj) : Obj :=
  subfields.foldl (fun row s => alignKey row s.key) row

/-!
### The weight of rows

Repeaters nest, and what bounds the nesting is the weight of the rows: reading the rows of a value,
and moving the values of a row to the keys of its subfields, makes nothing heavier.
-/

/-- The weight of some rows, each of which counts as a part. -/
def rowsWeight : List Obj → Nat
  | [] => 0
  | row :: rest => Value.membersWeight row + 1 + rowsWeight rest

/-- The rows of some values weigh no more than the values. -/
theorem rowsWeight_map_members_le (items : List Value) :
    rowsWeight (items.map Value.members) ≤ Value.itemsWeight items := by
  induction items with
  | nil => simp [rowsWeight]
  | cons item rest ih =>
    have := Value.membersWeight_members_le item
    simp only [List.map_cons, rowsWeight, Value.itemsWeight]
    omega

/-- The rows of a value weigh no more than the value. -/
theorem rowsWeight_rowsOf_le (v : Value) : rowsWeight (rowsOf v) ≤ v.weight :=
  Nat.le_trans (rowsWeight_map_members_le _) (Value.itemsWeight_asList_le v)

/-- Taking a key out of an object adds nothing. -/
theorem membersWeight_erase_le (o : Obj) (key : String) :
    Value.membersWeight (Obj.erase o key) ≤ Value.membersWeight o := by
  unfold Obj.erase Table.erase
  induction o with
  | nil => simp
  | cons member rest ih =>
    simp only [List.filter_cons]
    split <;> simp only [Value.membersWeight] <;> omega

/-- Taking a key out of an object takes the weight of its value off. -/
theorem membersWeight_erase_add_le (o : Obj) (key : String) (h : Obj.has o key) :
    Value.membersWeight (Obj.erase o key) + (Obj.get o key).weight + 1 ≤ Value.membersWeight o := by
  induction o with
  | nil => simp [Obj.has, Table.has] at h
  | cons member rest ih =>
    obtain ⟨k, v⟩ := member
    by_cases hk : key = k
    · subst hk
      have hrest := membersWeight_erase_le rest key
      have herase : Obj.erase ((key, v) :: rest) key = Obj.erase rest key := by
        simp [Obj.erase, Table.erase]
      rw [herase]
      simp only [Obj.get, Obj.get?_cons, if_true, Option.getD_some, Value.membersWeight]
      omega
    · have hne : (k != key) = true := by simpa using fun e => hk e.symm
      have herase : Obj.erase ((k, v) :: rest) key = (k, v) :: Obj.erase rest key := by
        simp [Obj.erase, Table.erase, hne]
      simp only [Obj.has_eq_isSome, Obj.get?_cons, if_neg hk] at h
      have hrest := ih h
      rw [herase]
      simp only [Obj.get, Obj.get?_cons, if_neg hk, Value.membersWeight] at hrest ⊢
      omega

/-- A row whose value is moved from an alias to its key weighs no more. -/
theorem membersWeight_alignKey_le (row : Obj) (key : String) :
    Value.membersWeight (alignKey row key) ≤ Value.membersWeight row := by
  simp only [alignKey]
  split
  · rename_i h
    simp only [Bool.and_eq_true] at h
    have herase := membersWeight_erase_add_le row (camelCase key) h.2
    have hset := Value.membersWeight_set_le (Obj.erase row (camelCase key)) key
      (Obj.get row (camelCase key))
    simp only [Obj.setDefault]
    split <;> omega
  · exact Nat.le_refl _

/-- A row whose values are moved to the keys of the subfields weighs no more. -/
theorem membersWeight_alignRow_le (subfields : List Subfield) (row : Obj) :
    Value.membersWeight (alignRow subfields row) ≤ Value.membersWeight row := by
  unfold alignRow
  induction subfields generalizing row with
  | nil => exact Nat.le_refl _
  | cons s rest ih => exact Nat.le_trans (ih _) (membersWeight_alignKey_le row s.key)

end ContentEngine
