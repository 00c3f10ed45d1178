import ContentEngine.Memory.EntryStore
import Mathlib.Tactic.Common

/-!
# The store of entries keeps its tables in step

`EntryStore.Sound` says what holds of a store between two calls: every entry stands under its own
identifier, no two entries of a type share a slug, places are given out once, and nothing is kept
for an entry that is not there. The empty store is sound, and adding, replacing and dropping an
entry keep it sound; adding asks for an identifier that is not in use, and adding and replacing ask
for a slug that `slugTaken` finds free.

`slugTaken_iff` reads the search for a slug off the stored entries, and `get?_deleteType` says what
is left when the entries of a type have been taken out one by one.
-/

namespace ContentEngine

namespace EntryStore

/-- What holds of a store of entries between two calls. -/
structure Sound (s : EntryStore) : Prop where
  nodup_keys : s.entries.keys.Nodup
  id_eq : ∀ {id e}, s.entries.get? id = some e → e.id = id
  slug_unique : ∀ {i j a b}, s.entries.get? i = some a → s.entries.get? j = some b →
    a.typeId = b.typeId → a.values.slug = b.values.slug → i = j
  keys_places : s.places.keys = s.entries.keys
  nodup_places : s.places.values.Nodup
  place_lt : ∀ n ∈ s.places.values, n < s.nextPlace
  has_of_versions : ∀ {id}, s.versions.has id = true → s.entries.has id = true

/-! ### Looking -/

variable {s : EntryStore}

theorem find?_eq_some_iff {typeId id : String} {e : Entry} :
    s.find? typeId id = some e ↔ s.entries.get? id = some e ∧ e.typeId = typeId := by
  simp [find?, Option.filter_eq_some_iff]

/-- A slug is taken exactly if some other entry of the type has it. -/
theorem slugTaken_iff (h : s.Sound) {typeId slug : String} {ownId : Option String} :
    s.slugTaken typeId slug ownId = true ↔
      ∃ id e, s.entries.get? id = some e ∧ e.typeId = typeId ∧ e.values.slug = slug ∧
        ownId ≠ some id := by
  simp only [slugTaken, List.any_eq_true, Table.mem_values_iff h.nodup_keys, Bool.and_eq_true,
    beq_iff_eq, bne_iff_ne, ne_eq]
  constructor
  · rintro ⟨e, ⟨id, hget⟩, ⟨htype, hslug⟩, hown⟩
    exact ⟨id, e, hget, htype, hslug, h.id_eq hget ▸ hown⟩
  · rintro ⟨id, e, hget, htype, hslug, hown⟩
    exact ⟨e, ⟨id, hget⟩, ⟨htype, hslug⟩, (h.id_eq hget).symm ▸ hown⟩

/-- No other entry of its type has the slug of an entry. -/
theorem slugTaken_own (h : s.Sound) {typeId : String} {e : Entry}
    (he : s.find? typeId e.id = some e) :
    s.slugTaken typeId e.values.slug (some e.id) = false := by
  obtain ⟨hget, htype⟩ := find?_eq_some_iff.mp he
  by_contra htaken
  rw [Bool.not_eq_false, slugTaken_iff h] at htaken
  obtain ⟨id, other, hother, htype', hslug, hne⟩ := htaken
  exact hne (congrArg some (h.slug_unique hget hother (htype.trans htype'.symm) hslug.symm))

theorem mem_ofType_iff (h : s.Sound) {typeId : String} {e : Entry} :
    e ∈ s.ofType typeId ↔ s.entries.get? e.id = some e ∧ e.typeId = typeId := by
  simp only [ofType, List.mem_filter, Table.mem_values_iff h.nodup_keys, beq_iff_eq]
  constructor
  · rintro ⟨⟨id, hget⟩, htype⟩
    exact ⟨(h.id_eq hget).symm ▸ hget, htype⟩
  · rintro ⟨hget, htype⟩
    exact ⟨⟨e.id, hget⟩, htype⟩

/-! ### Changing -/

theorem sound_empty : empty.Sound where
  nodup_keys := List.nodup_nil
  id_eq h := by simp [empty] at h
  slug_unique h := by simp [empty] at h
  keys_places := rfl
  nodup_places := List.nodup_nil
  place_lt n h := by simp [empty, Table.values] at h
  has_of_versions h := by simp [empty, Table.has] at h

/-- An entry with a new identifier and a free slug may be added. -/
theorem Sound.add (h : s.Sound) {e : Entry} (hid : s.entries.has e.id = false)
    (hslug : s.slugTaken e.typeId e.values.slug none = false) : (s.add e).Sound := by
  -- no entry that is there already collides with the new one
  have hfree : ∀ {j b}, s.entries.get? j = some b → b.typeId = e.typeId →
      b.values.slug = e.values.slug → False := by
    intro j b hget htype hsl
    have htaken := (slugTaken_iff h).mpr ⟨j, b, hget, htype, hsl, Option.some_ne_none j |>.symm⟩
    simp [hslug] at htaken
  -- nor has the identifier a place, as the places are those of the entries
  have hplace : s.places.has e.id = false := by
    rw [← Bool.not_eq_true, ← Table.mem_keys_iff, h.keys_places, Table.mem_keys_iff, hid]
    simp
  refine ⟨Table.nodup_keys_set _ _ h.nodup_keys, ?_, ?_, ?_, ?_, ?_, ?_⟩
  · intro id b hget
    simp only [EntryStore.add, Table.get?_set] at hget
    split at hget
    · next heq => rw [← Option.some.inj hget, heq]
    · exact h.id_eq hget
  · intro i j a b ha hb htype hsl
    simp only [EntryStore.add, Table.get?_set] at ha hb
    split at ha <;> split at hb
    · next hi hj => rw [hi, hj]
    · cases ha
      exact (hfree hb htype.symm hsl.symm).elim
    · cases hb
      exact (hfree ha htype hsl).elim
    · exact h.slug_unique ha hb htype hsl
  · simp only [EntryStore.add, Table.keys_set_of_not_has _ hplace, Table.keys_set_of_not_has _ hid,
      h.keys_places]
  · simp only [EntryStore.add, Table.values_set_of_not_has _ hplace]
    -- the next place is above all that have been given out
    refine List.nodup_append.mpr ⟨h.nodup_places, by simp, ?_⟩
    rintro m hm n hn rfl
    have hlt := h.place_lt m hm
    simp only [List.mem_singleton] at hn
    omega
  · intro n hn
    simp only [EntryStore.add, Table.values_set_of_not_has _ hplace, List.mem_append,
      List.mem_singleton] at hn ⊢
    rcases hn with hn | rfl
    · exact Nat.lt_succ_of_lt (h.place_lt n hn)
    · exact Nat.lt_succ_self _
  · intro id hid'
    simp [EntryStore.add, h.has_of_versions hid']

/-- An entry may be replaced by one with its identifier whose slug no other entry has. -/
theorem Sound.replace (h : s.Sound) {id : String} {e : Entry} (version : EntryVersion)
    (hhas : s.entries.has id = true) (hid : e.id = id)
    (hslug : s.slugTaken e.typeId e.values.slug (some id) = false) :
    (s.replace id e version).Sound := by
  -- only the entry that is replaced may have the slug
  have hfree : ∀ {j b}, s.entries.get? j = some b → b.typeId = e.typeId →
      b.values.slug = e.values.slug → j = id := by
    intro j b hget htype hsl
    by_contra hne
    have hown : some id ≠ some j := fun he => hne (Option.some.inj he).symm
    have htaken := (slugTaken_iff h).mpr ⟨j, b, hget, htype, hsl, hown⟩
    simp [hslug] at htaken
  refine ⟨Table.nodup_keys_set _ _ h.nodup_keys, ?_, ?_, ?_, h.nodup_places, h.place_lt, ?_⟩
  · intro j b hget
    simp only [EntryStore.replace, Table.get?_set] at hget
    split at hget
    · next heq => rw [← Option.some.inj hget, heq, hid]
    · exact h.id_eq hget
  · intro i j a b ha hb htype hsl
    simp only [EntryStore.replace, Table.get?_set] at ha hb
    split at ha <;> split at hb
    · next hi hj => rw [hi, hj]
    · next hi _ =>
      cases ha
      rw [hi, hfree hb htype.symm hsl.symm]
    · next _ hj =>
      cases hb
      rw [hj, hfree ha htype hsl]
    · exact h.slug_unique ha hb htype hsl
  · simp only [EntryStore.replace, Table.keys_set_of_has _ hhas, h.keys_places]
  · intro j hj
    simp only [EntryStore.replace, Table.has_set, Bool.or_eq_true, beq_iff_eq] at hj ⊢
    exact hj.imp_right h.has_of_versions

theorem Sound.drop (h : s.Sound) (id : String) : (s.drop id).Sound := by
  have hsub := Table.values_erase_sublist s.places id
  refine ⟨Table.nodup_keys_erase _ h.nodup_keys, ?_, ?_, ?_, hsub.nodup h.nodup_places,
    fun n hn => h.place_lt n (hsub.subset hn), ?_⟩
  · intro j b hget
    simp only [EntryStore.drop, Table.get?_erase] at hget
    split at hget
    · cases hget
    · exact h.id_eq hget
  · intro i j a b ha hb
    simp only [EntryStore.drop, Table.get?_erase] at ha hb
    split at ha
    · cases ha
    · split at hb
      · cases hb
      · exact h.slug_unique ha hb
  · simp only [EntryStore.drop, Table.keys_erase, h.keys_places]
  · intro j hj
    simp only [EntryStore.drop, Table.has_erase, Bool.and_eq_true, bne_iff_ne, ne_eq] at hj ⊢
    exact ⟨hj.1, h.has_of_versions hj.2⟩

theorem Sound.delete (h : s.Sound) (typeId id : String) : (s.delete typeId id).Sound := by
  unfold EntryStore.delete
  split
  · exact h.drop id
  · exact h

theorem Sound.foldl_delete (h : s.Sound) (typeId : String) (ids : List String) :
    (ids.foldl (EntryStore.delete typeId) s).Sound := by
  induction ids generalizing s with
  | nil => exact h
  | cons id rest ih => exact ih (h.delete typeId id)

theorem Sound.deleteType (h : s.Sound) (typeId : String) : (s.deleteType typeId).Sound :=
  h.foldl_delete typeId _

/-! ### What is left -/

theorem get?_add (e : Entry) (j : String) :
    (s.add e).entries.get? j = if j = e.id then some e else s.entries.get? j :=
  Table.get?_set _ _ _ _

@[simp] theorem versionsOf_add (e : Entry) (j : String) :
    (s.add e).versionsOf j = s.versionsOf j := rfl

theorem get?_replace (id : String) (e : Entry) (version : EntryVersion) (j : String) :
    (s.replace id e version).entries.get? j = if j = id then some e else s.entries.get? j :=
  Table.get?_set _ _ _ _

theorem versionsOf_replace (id : String) (e : Entry) (version : EntryVersion) (j : String) :
    (s.replace id e version).versionsOf j =
      if j = id then version :: s.versionsOf id else s.versionsOf j := by
  by_cases hj : j = id <;> simp [EntryStore.replace, EntryStore.versionsOf, Table.get?_set, hj]

theorem versionsOf_eq_nil (h : s.Sound) {id : String} (hid : s.entries.has id = false) :
    s.versionsOf id = [] := by
  have hversions : s.versions.has id = false := by
    by_contra hhas
    simp [h.has_of_versions (Bool.not_eq_false _ ▸ hhas)] at hid
  have hnone : s.versions.get? id = none := by simpa [Table.has] using hversions
  simp [EntryStore.versionsOf, hnone]

theorem delete_of_find?_eq_none {typeId id : String} (h : s.find? typeId id = none) :
    s.delete typeId id = s := by
  simp [EntryStore.delete, h]

theorem get?_delete (typeId id j : String) :
    (s.delete typeId id).entries.get? j =
      if j = id then (s.entries.get? j).filter (fun e => e.typeId != typeId)
      else s.entries.get? j := by
  unfold EntryStore.delete
  by_cases hj : j = id
  · subst hj
    cases hget : s.entries.get? j with
    | none => simp [find?, hget]
    | some e =>
      by_cases htype : e.typeId = typeId
      · simp [find?, hget, htype, EntryStore.drop, Option.filter_some]
      · simp [find?, hget, htype, Option.filter_some]
  · split <;> simp [hj, EntryStore.drop, Table.get?_erase]

theorem find?_delete (typeId id j : String) :
    (s.delete typeId id).find? typeId j = if j = id then none else s.find? typeId j := by
  rw [find?, get?_delete]
  by_cases hj : j = id
  · cases hget : s.entries.get? j with
    | none => simp [hj]
    | some e => by_cases htype : e.typeId = typeId <;> simp [hj, Option.filter_some, htype]
  · simp [hj, find?]

theorem versionsOf_delete (typeId id j : String) :
    (s.delete typeId id).versionsOf j =
      if j = id ∧ (s.find? typeId j).isSome then [] else s.versionsOf j := by
  unfold EntryStore.delete
  by_cases hj : j = id
  · subst hj
    by_cases hsome : (s.find? typeId j).isSome <;>
      simp [hsome, EntryStore.drop, EntryStore.versionsOf]
  · split <;> simp [hj, EntryStore.drop, EntryStore.versionsOf, Table.get?_erase]

theorem places_delete (typeId id j : String) :
    (s.delete typeId id).places.get? j =
      if j = id ∧ (s.find? typeId j).isSome then none else s.places.get? j := by
  unfold EntryStore.delete
  by_cases hj : j = id
  · subst hj
    by_cases hsome : (s.find? typeId j).isSome <;> simp [hsome, EntryStore.drop]
  · split <;> simp [hj, EntryStore.drop, Table.get?_erase]

theorem get?_foldl_delete (typeId : String) (ids : List String) (j : String) :
    (ids.foldl (EntryStore.delete typeId) s).entries.get? j =
      if j ∈ ids then (s.entries.get? j).filter (fun e => e.typeId != typeId)
      else s.entries.get? j := by
  induction ids generalizing s with
  | nil => simp
  | cons id rest ih =>
    rw [List.foldl_cons, ih, get?_delete]
    by_cases hj : j = id <;> by_cases hmem : j ∈ rest <;> simp [hj, hmem, Option.filter_filter]

theorem versionsOf_foldl_delete (typeId : String) (ids : List String) (j : String) :
    (ids.foldl (EntryStore.delete typeId) s).versionsOf j =
      if j ∈ ids ∧ (s.find? typeId j).isSome then [] else s.versionsOf j := by
  induction ids generalizing s with
  | nil => simp
  | cons id rest ih =>
    rw [List.foldl_cons, ih, versionsOf_delete, find?_delete]
    by_cases hj : j = id <;> by_cases hmem : j ∈ rest <;> simp [hj, hmem]

theorem places_foldl_delete (typeId : String) (ids : List String) (j : String) :
    (ids.foldl (EntryStore.delete typeId) s).places.get? j =
      if j ∈ ids ∧ (s.find? typeId j).isSome then none else s.places.get? j := by
  induction ids generalizing s with
  | nil => simp
  | cons id rest ih =>
    rw [List.foldl_cons, ih, places_delete, find?_delete]
    by_cases hj : j = id <;> by_cases hmem : j ∈ rest <;> simp [hj, hmem]

/-- Every entry of the type is among those that are taken out. -/
theorem mem_ids_of_find? (h : s.Sound) {typeId id : String} {e : Entry}
    (he : s.find? typeId id = some e) : id ∈ (s.ofType typeId).map (·.id) := by
  obtain ⟨hget, htype⟩ := find?_eq_some_iff.mp he
  have hid := h.id_eq hget
  exact List.mem_map.mpr ⟨e, (mem_ofType_iff h).mpr ⟨hid ▸ hget, htype⟩, hid⟩

/-- When the entries of a type have been taken out, those of the other types are left. -/
theorem get?_deleteType (h : s.Sound) (typeId j : String) :
    (s.deleteType typeId).entries.get? j =
      (s.entries.get? j).filter (fun e => e.typeId != typeId) := by
  rw [EntryStore.deleteType, get?_foldl_delete]
  split
  · rfl
  · next hnot =>
    cases hget : s.entries.get? j with
    | none => rfl
    | some e =>
      have htype : e.typeId ≠ typeId := fun htype =>
        hnot (mem_ids_of_find? h (find?_eq_some_iff.mpr ⟨hget, htype⟩))
      simp [Option.filter_some, htype]

theorem versionsOf_deleteType (h : s.Sound) (typeId j : String) :
    (s.deleteType typeId).versionsOf j =
      if (s.find? typeId j).isSome then [] else s.versionsOf j := by
  rw [EntryStore.deleteType, versionsOf_foldl_delete]
  cases he : s.find? typeId j with
  | none => simp
  | some e => simp [mem_ids_of_find? h he]

theorem places_deleteType (h : s.Sound) (typeId j : String) :
    (s.deleteType typeId).places.get? j =
      if (s.find? typeId j).isSome then none else s.places.get? j := by
  rw [EntryStore.deleteType, places_foldl_delete]
  cases he : s.find? typeId j with
  | none => simp
  | some e => simp [mem_ids_of_find? h he]

end EntryStore

end ContentEngine
