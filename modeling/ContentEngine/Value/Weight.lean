import ContentEngine.Value.Basic
/-!
# The weight of a value

Configurations nest, and a configuration may be given as JSON text inside another one. What bounds
the nesting is the weight of a value: the number of its parts and of the characters of its texts. A
part weighs less than the whole, and the value that a JSON text denotes weighs no more than the text
has characters (`ContentEngine.Json.Weight`).
-/

namespace ContentEngine

namespace Value

mutual

/-- The number of parts of a value, with the characters of its texts. -/
def weight : Value → Nat
  | str s => s.length + 1
  | list items => itemsWeight items + 1
  | tuple items => itemsWeight items + 1
  | set items => itemsWeight items + 1
  | obj members => membersWeight members + 1
  | table rows => rowsWeight rows + 1
  | _ => 0

/-- The weight of some values, each of which counts as a part. -/
def itemsWeight : List Value → Nat
  | [] => 0
  | item :: rest => weight item + 1 + itemsWeight rest

/-- The weight of the members of an object. -/
def membersWeight : List (String × Value) → Nat
  | [] => 0
  | (_, value) :: rest => weight value + 1 + membersWeight rest

/-- The weight of the rows of a table. -/
def rowsWeight : List (Value × Value) → Nat
  | [] => 0
  | (_, value) :: rest => weight value + 1 + rowsWeight rest

end

/-- What a key of an object leads to weighs less than the object. -/
theorem weight_get_le (o : Obj) (key : String) : (Obj.get o key).weight ≤ membersWeight o := by
  unfold Obj.get
  induction o with
  | nil => simp [weight]
  | cons member rest ih =>
    obtain ⟨k, v⟩ := member
    simp only [Obj.get?_cons, membersWeight]
    split
    · simp only [Option.getD_some]; omega
    · omega

/-- Writing a member adds no more than its weight. -/
theorem membersWeight_set_le (o : Obj) (key : String) (value : Value) :
    membersWeight (Obj.set o key value) ≤ membersWeight o + value.weight + 1 := by
  unfold Obj.set
  induction o with
  | nil => simp [Table.set, membersWeight]
  | cons member rest ih =>
    obtain ⟨k, v⟩ := member
    simp only [Table.set, membersWeight]
    split <;> simp only [membersWeight] <;> omega

/-- Writing all members of an object adds no more than their weight. -/
theorem membersWeight_merge_le (o other : Obj) :
    membersWeight (Obj.merge o other) ≤ membersWeight o + membersWeight other := by
  unfold Obj.merge
  induction other generalizing o with
  | nil => simp [membersWeight]
  | cons member rest ih =>
    obtain ⟨k, v⟩ := member
    simp only [List.foldl_cons, membersWeight]
    have := ih (Obj.set o k v)
    have := membersWeight_set_le o k v
    omega

/-- The members that survive the removal of duplicates weigh no more than all of them. -/
theorem membersWeight_ofMembers_le (members : List (String × Value)) :
    membersWeight (Obj.ofMembers members) ≤ membersWeight members := by
  have := membersWeight_merge_le [] members
  simpa [Obj.ofMembers, membersWeight] using this

/-- The rows of a table whose key is text weigh no more than all of them. -/
theorem membersWeight_textRows_le (rows : List (Value × Value)) :
    membersWeight (textRows rows) ≤ rowsWeight rows := by
  fun_induction textRows rows with
  | case1 => simp [membersWeight]
  | case2 key value rest ih => simp only [membersWeight, rowsWeight]; omega
  | case3 row rest _ ih => obtain ⟨_, value⟩ := row; simp only [rowsWeight]; omega

/-- The members of an object weigh less than the object. -/
theorem membersWeight_asObj_lt {v : Value} {o : Obj} (h : v.asObj? = some o) :
    membersWeight o < v.weight := by
  cases v with
  | obj members => simp only [asObj?, Option.some.injEq] at h; subst h; simp [weight]
  | table rows =>
    simp only [asObj?, Option.some.injEq] at h
    subst h
    have := membersWeight_textRows_le rows
    simp only [weight]
    omega
  | _ => simp [asObj?] at h

/-- The members of a value weigh no more than the value. -/
theorem membersWeight_members_le (v : Value) : membersWeight v.members ≤ v.weight := by
  unfold members
  cases h : v.asObj? with
  | none => simp [membersWeight]
  | some o => exact Nat.le_of_lt (membersWeight_asObj_lt h)

/-- The items of a list weigh no more than the list. -/
theorem itemsWeight_asList_le (v : Value) : itemsWeight (v.asList?.getD []) ≤ v.weight := by
  cases v <;> simp [asList?, itemsWeight, weight]

/-- The list under a key of an object weighs no more than the object. -/
theorem itemsWeight_getList_le (o : Obj) (key : String) :
    itemsWeight (Obj.getList o key) ≤ membersWeight o :=
  Nat.le_trans (itemsWeight_asList_le _) (weight_get_le o key)

end Value

end ContentEngine
