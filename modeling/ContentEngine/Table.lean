/-!
# Tables

A table keeps values under texts, its keys. Its rows stand in the order in which the keys were first
written: writing a key that is there keeps its row in place, and a new key goes to the end. What a
table holds is told by `get?`, and every operation has one equation for it; which keys there are,
and that they stay distinct, is told by `keys`.
-/

namespace ContentEngine

/-- A table: its rows in order, with distinct keys. -/
abbrev Table (α : Type) := List (String × α)

namespace Table

variable {α : Type}

/-- The value under a key, if the key is there. -/
def get? (t : Table α) (key : String) : Option α :=
  List.lookup key t

/-- Whether a key is there. -/
def has (t : Table α) (key : String) : Bool :=
  (get? t key).isSome

/-- The keys in order. -/
def keys (t : Table α) : List String :=
  t.map (·.1)

/-- The values in order. -/
def values (t : Table α) : List α :=
  t.map (·.2)

/-- Writes a value under a key: in place if the key is there, at the end otherwise. -/
def set (t : Table α) (key : String) (a : α) : Table α :=
  match t with
  | [] => [(key, a)]
  | (k, old) :: rest => if k = key then (k, a) :: rest else (k, old) :: set rest key a

/-- Takes a key out. -/
def erase (t : Table α) (key : String) : Table α :=
  t.filter fun row => row.1 != key

/-! ### What a table holds -/

@[simp] theorem get?_nil (key : String) : get? ([] : Table α) key = none := rfl

theorem get?_cons (k : String) (a : α) (t : Table α) (key : String) :
    get? ((k, a) :: t) key = if key = k then some a else get? t key := by
  by_cases h : key = k
  · simp [get?, h]
  · have hne : (key == k) = false := by simpa using h
    simp [get?, List.lookup_cons, h, hne]

theorem get?_set (t : Table α) (key : String) (a : α) (k : String) :
    get? (set t key a) k = if k = key then some a else get? t k := by
  induction t with
  | nil => simp [set, get?_cons]
  | cons row rest ih =>
    obtain ⟨k', old⟩ := row
    by_cases h : k' = key
    · subst h
      by_cases hk : k = k' <;> simp [set, get?_cons, hk]
    · by_cases hk : k = k'
      · subst hk
        simp [set, get?_cons, h]
      · simp [set, get?_cons, h, hk, ih]

theorem get?_erase (t : Table α) (key k : String) :
    get? (erase t key) k = if k = key then none else get? t k := by
  induction t with
  | nil => simp [erase]
  | cons row rest ih =>
    obtain ⟨k', old⟩ := row
    simp only [erase] at ih
    by_cases h : k' = key
    · subst h
      by_cases hk : k = k'
      · subst hk
        simpa [erase] using ih
      · simpa [erase, get?_cons, hk] using ih
    · have hne : (k' != key) = true := by simpa using h
      by_cases hk : k = k'
      · subst hk
        simp [erase, hne, get?_cons, h]
      · simp [erase, hne, get?_cons, hk, ih]

@[simp] theorem get?_set_self (t : Table α) (key : String) (a : α) :
    get? (set t key a) key = some a := by
  simp [get?_set]

@[simp] theorem get?_erase_self (t : Table α) (key : String) : get? (erase t key) key = none := by
  simp [get?_erase]

@[simp] theorem has_set (t : Table α) (key : String) (a : α) (k : String) :
    has (set t key a) k = (k == key || has t k) := by
  by_cases h : k = key <;> simp [has, get?_set, h]

@[simp] theorem has_erase (t : Table α) (key k : String) :
    has (erase t key) k = (k != key && has t k) := by
  by_cases h : k = key <;> simp [has, get?_erase, h]

/-- Writing what is there already changes nothing. -/
theorem set_of_get? {t : Table α} {key : String} {a : α} (h : get? t key = some a) :
    set t key a = t := by
  induction t with
  | nil => simp at h
  | cons row rest ih =>
    obtain ⟨k, old⟩ := row
    rw [get?_cons] at h
    by_cases hk : key = k
    · subst hk
      simp only [if_true, Option.some.injEq] at h
      simp [set, h]
    · rw [if_neg hk] at h
      simp [set, Ne.symm hk, ih h]

/-- Taking out a key that is not there changes nothing. -/
theorem erase_of_get? {t : Table α} {key : String} (h : get? t key = none) : erase t key = t := by
  induction t with
  | nil => rfl
  | cons row rest ih =>
    obtain ⟨k, old⟩ := row
    rw [get?_cons] at h
    by_cases hk : key = k
    · simp [hk] at h
    · rw [if_neg hk] at h
      have hne : (k != key) = true := by simpa using fun e => hk e.symm
      have hrest : rest.filter (fun row => row.1 != key) = rest := ih h
      simp [erase, hne, hrest]

/-! ### The keys -/

theorem mem_keys_iff {t : Table α} {key : String} : key ∈ keys t ↔ has t key = true := by
  induction t with
  | nil => simp [keys, has]
  | cons row rest ih =>
    obtain ⟨k, old⟩ := row
    have hrest : key ∈ rest.map (·.1) ↔ has rest key = true := ih
    by_cases h : key = k
    · simp [keys, has, get?_cons, h]
    · simpa [keys, has, get?_cons, h] using hrest

theorem keys_set_of_has {t : Table α} {key : String} (a : α) (h : has t key = true) :
    keys (set t key a) = keys t := by
  induction t with
  | nil => simp [has] at h
  | cons row rest ih =>
    obtain ⟨k, old⟩ := row
    by_cases hk : k = key
    · simp [set, hk, keys]
    · have hrest : has rest key = true := by
        simpa [has, get?_cons, Ne.symm hk] using h
      simpa [set, hk, keys] using ih hrest

theorem set_of_not_has {t : Table α} {key : String} (a : α) (h : has t key = false) :
    set t key a = t ++ [(key, a)] := by
  induction t with
  | nil => rfl
  | cons row rest ih =>
    obtain ⟨k, old⟩ := row
    by_cases hk : key = k
    · simp [has, get?_cons, hk] at h
    · have hrest : has rest key = false := by simpa [has, get?_cons, hk] using h
      simp [set, Ne.symm hk, ih hrest]

theorem keys_set_of_not_has {t : Table α} {key : String} (a : α) (h : has t key = false) :
    keys (set t key a) = keys t ++ [key] := by
  simp [set_of_not_has a h, keys]

theorem values_set_of_not_has {t : Table α} {key : String} (a : α) (h : has t key = false) :
    values (set t key a) = values t ++ [a] := by
  simp [set_of_not_has a h, values]

theorem values_erase_sublist (t : Table α) (key : String) :
    (values (erase t key)).Sublist (values t) := by
  unfold values erase
  exact List.filter_sublist.map _

theorem keys_erase (t : Table α) (key : String) :
    keys (erase t key) = (keys t).filter (· != key) := by
  simp only [keys, erase, List.filter_map]
  rfl

theorem nodup_keys_set {t : Table α} (key : String) (a : α) (h : (keys t).Nodup) :
    (keys (set t key a)).Nodup := by
  cases hk : has t key with
  | true => rwa [keys_set_of_has a hk]
  | false =>
    have hnot : key ∉ keys t := fun hmem => by simp [mem_keys_iff.mp hmem] at hk
    rw [keys_set_of_not_has a hk]
    exact List.nodup_append.mpr ⟨h, by simp, fun x hx y hy he => hnot (by simp_all)⟩

theorem nodup_keys_erase {t : Table α} (key : String) (h : (keys t).Nodup) :
    (keys (erase t key)).Nodup := by
  rw [keys_erase]
  exact h.filter _

/-- The rows of a table with distinct keys are what can be read from it. -/
theorem mem_iff_get? {t : Table α} (h : (keys t).Nodup) {key : String} {a : α} :
    (key, a) ∈ t ↔ get? t key = some a := by
  induction t with
  | nil => simp
  | cons row rest ih =>
    obtain ⟨k, old⟩ := row
    simp only [keys, List.map_cons, List.nodup_cons] at h
    have ih : (key, a) ∈ rest ↔ get? rest key = some a := ih h.2
    rw [get?_cons, List.mem_cons, ih]
    by_cases hk : key = k
    · subst hk
      have hnone : get? rest key = none := by
        cases hget : get? rest key with
        | none => rfl
        | some b => exact absurd (mem_keys_iff.mpr (by simp [has, hget])) h.1
      simp [hnone, eq_comm]
    · simp [hk]

/-- The values of a table with distinct keys are what can be read from it under some key. -/
theorem mem_values_iff {t : Table α} (h : (keys t).Nodup) {a : α} :
    a ∈ values t ↔ ∃ key, get? t key = some a := by
  simp only [values, List.mem_map, Prod.exists, exists_eq_right, mem_iff_get? h]

end Table

end ContentEngine
