import ContentEngine.Entry.Normal
import ContentEngine.Proofs.Repeater.Align

/-!
# Data under the keys of its fields

At the top level of an entry a value moves from an alias only if its key is free, so that
`moveAlias` is `alignKey` behind that condition (`moveAlias_eq`). Once all aliases have been moved
there is nothing left to move (`isSettled_foldl_moveAlias`). A value that stands under a key stays
there, unless the key is the alias of another key that is free (`get?_foldl_moveAlias`).
-/

namespace ContentEngine

namespace Entry

variable {keys : List String} {data : Obj} {key k : String}

/-! ### One key -/

theorem moveAlias_eq (data : Obj) (key : String) :
    moveAlias data key = if Obj.has data key = true then data else alignKey data key := by
  -- without an alias of its own, a key is left alone by both
  cases halias : hasAlias key with
  | false =>
    have hsame : camelCase key = key := by
      by_contra hne
      rw [hasAlias_iff.mpr hne] at halias
      contradiction
    have hmove : moveAlias data key = data := by
      rw [moveAlias]
      exact if_neg (by simp [hsame])
    have halign : alignKey data key = data := alignKey_eq_self (by simp [halias])
    rw [hmove, halign, ite_self]
  | true =>
    have hne := hasAlias_iff.mp halias
    have hkey : key ≠ "" := by
      rintro rfl
      exact hne (by decide)
    cases hhas : Obj.has data key with
    | true =>
      rw [if_pos rfl, moveAlias]
      exact if_neg (by simp [hhas])
    | false =>
      have hfree : Obj.has (Obj.erase data (camelCase key)) key = false := by
        rw [Obj.has_erase, hhas, Bool.and_false]
      rw [if_neg (by decide), moveAlias, alignKey, Obj.setDefault, hfree]
      simp [hne, hkey, hhas]

/-- Whether there is nothing to move from the alias of a key: the alias is not there, or the key is
taken. -/
def IsSettled (data : Obj) (key : String) : Prop :=
  hasAlias key = true → Obj.has data key = true ∨ Obj.has data (camelCase key) = false

theorem moveAlias_eq_self (h : IsSettled data key) : moveAlias data key = data := by
  rw [moveAlias_eq]
  split
  · rfl
  · next hhas =>
    refine alignKey_eq_self fun halias => ?_
    rcases h halias with htrue | hfalse
    · exact absurd htrue hhas
    · exact hfalse

theorem isSettled_moveAlias (data : Obj) (key : String) : IsSettled (moveAlias data key) key := by
  intro halias
  rw [moveAlias_eq]
  split
  · next hhas => exact .inl hhas
  · right
    exact Obj.has_of_get?_eq_none (get?_alignKey_camelCase data halias)

theorem get?_moveAlias_eq_none (hk : hasAlias k = false ∨ k ≠ key)
    (hnone : Obj.get? data k = none) : Obj.get? (moveAlias data key) k = none := by
  rw [moveAlias_eq]
  split
  · exact hnone
  · exact get?_alignKey_eq_none hk hnone

theorem get?_moveAlias_of_some {v : Value} (hne : hasAlias key = true → k ≠ camelCase key)
    (hk : Obj.get? data k = some v) : Obj.get? (moveAlias data key) k = some v := by
  rw [moveAlias_eq]
  split
  · exact hk
  · exact get?_alignKey_of_some hne hk

/-- A key that is neither the one nor its alias is not touched. -/
theorem has_moveAlias_of_ne (hne : k ≠ key) (halias : hasAlias key = true → k ≠ camelCase key) :
    Obj.has (moveAlias data key) k = Obj.has data k := by
  rw [Obj.has_eq_isSome, Obj.has_eq_isSome]
  cases hk : Obj.get? data k with
  | none => rw [get?_moveAlias_eq_none (.inr hne) hk]
  | some v => rw [get?_moveAlias_of_some halias hk]

/-- Whether another key with an alias is taken does not change. -/
theorem has_moveAlias_of_hasAlias (hkey : IsKey key) (halias : hasAlias k = true) (hne : k ≠ key) :
    Obj.has (moveAlias data key) k = Obj.has data k :=
  has_moveAlias_of_ne hne fun _ => ne_camelCase_of_hasAlias halias hkey

/-- A value stays unless the key takes it from under its alias. -/
theorem get?_moveAlias_of_not_taken
    (hnot : ¬(key ≠ k ∧ camelCase key = k ∧ Obj.has data key = false)) {v : Value}
    (hv : Obj.get? data k = some v) : Obj.get? (moveAlias data key) k = some v := by
  rw [moveAlias_eq]
  split
  · exact hv
  · next hfree =>
    refine get?_alignKey_of_some (fun halias heq => hnot ⟨?_, heq.symm, ?_⟩) hv
    · rw [heq]
      exact Ne.symm (hasAlias_iff.mp halias)
    · simpa using hfree

/-- What is settled for a key stays settled when another key is looked at. -/
theorem IsSettled.moveAlias (h : IsSettled data k) (hk : IsKey k) (hkey : IsKey key) :
    IsSettled (moveAlias data key) k := by
  intro halias
  rcases h halias with htrue | hfalse
  · left
    exact Obj.has_of_get?_eq_some (get?_moveAlias_of_some
      (fun _ => ne_camelCase_of_hasAlias halias hkey) (Obj.get?_eq_some_get htrue))
  · have hnone : Obj.get? data (camelCase k) = none := by simpa [Obj.has_eq_isSome] using hfalse
    right
    exact Obj.has_of_get?_eq_none (get?_moveAlias_eq_none (.inl (hasAlias_camelCase hk)) hnone)

/-! ### All keys -/

theorem IsSettled.foldl_moveAlias (hkeys : ∀ key ∈ keys, IsKey key) (hk : IsKey k)
    (h : IsSettled data k) : IsSettled (keys.foldl Entry.moveAlias data) k := by
  induction keys generalizing data with
  | nil => exact h
  | cons key rest ih =>
    exact ih (fun t ht => hkeys t (List.mem_cons_of_mem key ht))
      (h.moveAlias hk (hkeys key List.mem_cons_self))

/-- Once all aliases have been moved, nothing is left to move. -/
theorem isSettled_foldl_moveAlias (hkeys : ∀ key ∈ keys, IsKey key) (data : Obj) (hk : k ∈ keys) :
    IsSettled (keys.foldl moveAlias data) k := by
  induction keys generalizing data with
  | nil => simp at hk
  | cons key rest ih =>
    have hrest : ∀ t ∈ rest, IsKey t := fun t ht => hkeys t (List.mem_cons_of_mem key ht)
    rw [List.foldl_cons]
    rcases List.mem_cons.mp hk with rfl | hk
    · -- its own step settles the key, and the later ones keep it settled
      exact (isSettled_moveAlias data k).foldl_moveAlias hrest (hkeys k List.mem_cons_self)
    · exact ih hrest _ hk

theorem foldl_moveAlias_eq_self (h : ∀ key ∈ keys, IsSettled data key) :
    keys.foldl moveAlias data = data := by
  induction keys with
  | nil => rfl
  | cons key rest ih =>
    rw [List.foldl_cons, moveAlias_eq_self (h key List.mem_cons_self)]
    exact ih fun t ht => h t (List.mem_cons_of_mem key ht)

/-- An alias that is not there does not come back. -/
theorem get?_foldl_moveAlias_eq_none (hk : hasAlias k = false) (hnone : Obj.get? data k = none) :
    Obj.get? (keys.foldl moveAlias data) k = none := by
  induction keys generalizing data with
  | nil => exact hnone
  | cons key rest ih => exact ih (get?_moveAlias_eq_none (.inl hk) hnone)

/-- Whether a key is the alias of another one of some keys, under which data holds nothing. -/
def HasFreeRival (keys : List String) (data : Obj) (key : String) : Prop :=
  ∃ other ∈ keys, other ≠ key ∧ camelCase other = key ∧ Obj.has data other = false

instance (keys : List String) (data : Obj) (key : String) :
    Decidable (HasFreeRival keys data key) :=
  inferInstanceAs (Decidable
    (∃ other ∈ keys, other ≠ key ∧ camelCase other = key ∧ Obj.has data other = false))

/-- Moving an alias that is not the key leaves the other rivals of the key as they are. -/
theorem hasFreeRival_moveAlias_iff (hkey : IsKey key) (hnot : key ∉ keys)
    (hother : ¬(key ≠ k ∧ camelCase key = k ∧ Obj.has data key = false)) :
    HasFreeRival keys (moveAlias data key) k ↔ HasFreeRival (key :: keys) data k := by
  have hsame {other : String} (hmem : other ∈ keys) (hne : other ≠ k)
      (hcamel : camelCase other = k) :
      Obj.has (moveAlias data key) other = Obj.has data other :=
    has_moveAlias_of_hasAlias hkey (hasAlias_iff.mpr (hcamel.trans_ne hne.symm))
      fun heq => hnot (heq ▸ hmem)
  constructor
  · rintro ⟨other, hmem, hne, hcamel, hfree⟩
    rw [hsame hmem hne hcamel] at hfree
    exact ⟨other, List.mem_cons_of_mem key hmem, hne, hcamel, hfree⟩
  · rintro ⟨other, hmem, hne, hcamel, hfree⟩
    rcases List.mem_cons.mp hmem with rfl | hmem
    · exact absurd ⟨hne, hcamel, hfree⟩ hother
    · exact ⟨other, hmem, hne, hcamel, (hsame hmem hne hcamel).trans hfree⟩

/-- What is held, after all aliases have been moved, under a key that has been there: the value that
was there, or nothing if the key is the alias of another key that was free. -/
theorem get?_foldl_moveAlias (hkeys : ∀ key ∈ keys, IsKey key) (hnodup : keys.Nodup)
    (hk : Obj.has data k = true) :
    Obj.get? (keys.foldl moveAlias data) k =
      if HasFreeRival keys data k then none else Obj.get? data k := by
  induction keys generalizing data with
  | nil => simp [HasFreeRival]
  | cons key rest ih =>
    have hrest : ∀ t ∈ rest, IsKey t := fun t ht => hkeys t (List.mem_cons_of_mem key ht)
    have hkey := hkeys key List.mem_cons_self
    obtain ⟨hnot, hnodup⟩ := List.nodup_cons.mp hnodup
    obtain ⟨v, hv⟩ : ∃ v, Obj.get? data k = some v := ⟨_, Obj.get?_eq_some_get hk⟩
    rw [List.foldl_cons]
    by_cases htaken : key ≠ k ∧ camelCase key = k ∧ Obj.has data key = false
    · -- the value moves away with this key, and nothing comes in its place
      obtain ⟨hne, rfl, hfree⟩ := htaken
      have hgone : Obj.get? (moveAlias data key) (camelCase key) = none := by
        rw [moveAlias_eq, hfree, if_neg (by decide)]
        exact get?_alignKey_camelCase data (hasAlias_iff.mpr hne.symm)
      rw [get?_foldl_moveAlias_eq_none (hasAlias_camelCase hkey) hgone,
        if_pos ⟨key, List.mem_cons_self, hne, rfl, hfree⟩]
    · -- the value stays for now, and the other keys are the rivals that are left
      have hkept := get?_moveAlias_of_not_taken htaken hv
      rw [ih hrest hnodup (Obj.has_of_get?_eq_some hkept), hkept, hv]
      simp only [hasFreeRival_moveAlias_iff hkey hnot htaken]

end Entry

end ContentEngine
