import Mathlib.Data.List.Nodup
import ContentEngine.Proofs.EntryStore.Sound

/-!
# The entries of one type

Entries stand in the store in the order in which they were made (`EntryStore.Ordered`), and so does
each list `EntryStore.ofType`. What is asked about a type depends on that list alone: whether a slug
is taken (`slugTaken_eq_any`), and in which order entries are listed (`mergeSort_ofType_congr`).
What is done to the entries of another type leaves the list as it is, and the versions of the
entries in it (`EntryStore.Keeps`).
-/

namespace ContentEngine

/-! ### Values that are passed over -/

section Table

variable {α : Type} {p : α → Bool}

/-- Writing a value that is passed over, in the place of one that is passed over, changes nothing of
what is picked. -/
theorem Table.filter_values_set {t : Table α} {key : String} {a : α} (ha : p a = false)
    (hold : ∀ old, t.get? key = some old → p old = false) :
    (t.set key a).values.filter p = t.values.filter p := by
  induction t with
  | nil => simp [Table.set, Table.values, ha]
  | cons row t ih =>
    obtain ⟨k, old⟩ := row
    rw [Table.set]
    split
    · next hk =>
      have hpassed := hold old (by rw [Table.get?_cons, if_pos hk.symm])
      simp [Table.values, ha, hpassed]
    · next hk =>
      have hrest : (List.map (·.2) (Table.set t key a)).filter p = (List.map (·.2) t).filter p :=
        ih fun b hb => hold b (by rw [Table.get?_cons, if_neg (Ne.symm hk), hb])
      simp only [Table.values, List.map_cons, List.filter_cons, hrest]

/-- Taking out a value that is passed over changes nothing of what is picked. -/
theorem Table.filter_values_erase {t : Table α} {key : String}
    (hold : ∀ old, (key, old) ∈ t → p old = false) :
    (t.erase key).values.filter p = t.values.filter p := by
  induction t with
  | nil => rfl
  | cons row t ih =>
    obtain ⟨k, old⟩ := row
    have hrest : (List.map (·.2) (t.filter fun row => row.1 != key)).filter p =
        (List.map (·.2) t).filter p :=
      ih fun b hb => hold b (List.mem_cons_of_mem _ hb)
    by_cases hk : k = key
    · have hpassed := hold old (hk ▸ List.mem_cons_self)
      simp only [Table.erase, Table.values, List.filter_cons, hk, bne_self_eq_false,
        Bool.false_eq_true, if_false, hrest, List.map_cons, hpassed]
    · have hne : (k != key) = true := by simpa using hk
      simp only [Table.erase, Table.values, List.filter_cons, hne, if_true, hrest, List.map_cons]

end Table

namespace EntryStore

variable {s s' : EntryStore} {typeId : String}

/-! ### What is asked about a type -/

theorem slugTaken_eq_any (s : EntryStore) (typeId slug : String) (ownId : Option String) :
    s.slugTaken typeId slug ownId =
      (s.ofType typeId).any fun e => e.values.slug == slug && ownId != some e.id := by
  rw [ofType, List.any_filter, slugTaken]
  simp only [Bool.and_assoc]

/-! ### The order of entries -/

/-- Whether places grow from each entry of the store to the next. -/
def Ordered (s : EntryStore) : Prop :=
  s.places.values.Pairwise (· < ·)

theorem ordered_empty : empty.Ordered := List.Pairwise.nil

namespace Ordered

/-- The next place is above all that have been given out. -/
theorem add (h : s.Ordered) (hs : s.Sound) {e : Entry} (hid : s.entries.has e.id = false) :
    (s.add e).Ordered := by
  have hplace : s.places.has e.id = false := by
    rw [← Bool.not_eq_true, ← Table.mem_keys_iff, hs.keys_places, Table.mem_keys_iff, hid]
    exact Bool.false_ne_true
  have hvalues : (s.add e).places.values = s.places.values ++ [s.nextPlace] :=
    Table.values_set_of_not_has _ hplace
  rw [Ordered, hvalues]
  refine List.pairwise_append.mpr ⟨h, List.pairwise_singleton _ _, fun n hn m hm => ?_⟩
  rw [List.mem_singleton.mp hm]
  exact hs.place_lt n hn

theorem replace (h : s.Ordered) (id : String) (e : Entry) (version : EntryVersion) :
    (s.replace id e version).Ordered := h

theorem delete (h : s.Ordered) (typeId id : String) : (s.delete typeId id).Ordered := by
  rw [EntryStore.delete]
  split
  · exact List.Pairwise.sublist (Table.values_erase_sublist s.places id) h
  · exact h

theorem deleteType (h : s.Ordered) (typeId : String) : (s.deleteType typeId).Ordered := by
  rw [EntryStore.deleteType]
  generalize (s.ofType typeId).map (·.id) = ids
  induction ids generalizing s with
  | nil => exact h
  | cons id ids ih => exact ih (h.delete typeId id)

/-- The entries of the store stand in the order of their places. -/
theorem pairwise_place (h : s.Ordered) (hs : s.Sound) :
    s.entries.values.Pairwise fun a b => s.place a < s.place b := by
  have hlength : s.places.length = s.entries.length := by
    simpa [Table.keys] using congrArg List.length hs.keys_places
  -- the place of the entry in a row stands in the same row of the other table
  have hplace (i : Nat) (hi : i < s.entries.length) (hi' : i < s.places.length) :
      s.place s.entries[i].2 = s.places[i].2 := by
    have hkey : s.places[i].1 = s.entries[i].1 := by
      have hkeys := hs.keys_places
      simp only [Table.keys] at hkeys
      have hget := List.getElem_of_eq hkeys (by simpa [hlength] using hi)
      simpa using hget
    have hentry : s.entries.get? s.entries[i].1 = some s.entries[i].2 :=
      (Table.mem_iff_get? hs.nodup_keys).mp (List.getElem_mem hi)
    have hnodup : s.places.keys.Nodup := hs.keys_places ▸ hs.nodup_keys
    have hrow : s.places.get? s.entries[i].1 = some s.places[i].2 := by
      rw [← hkey]
      exact (Table.mem_iff_get? hnodup).mp (List.getElem_mem _)
    rw [place, hs.id_eq hentry, hrow, Option.getD_some]
  rw [List.pairwise_iff_getElem]
  intro i j hi hj hlt
  simp only [Table.values, List.length_map] at hi hj
  have hpairwise := List.pairwise_iff_getElem.mp h i j (by simpa [Table.values, hlength] using hi)
    (by simpa [Table.values, hlength] using hj) hlt
  simp only [Table.values, List.getElem_map] at hpairwise ⊢
  rwa [hplace i hi (hlength ▸ hi), hplace j hj (hlength ▸ hj)]

theorem pairwise_place_ofType (h : s.Ordered) (hs : s.Sound) (typeId : String) :
    (s.ofType typeId).Pairwise fun a b => s.place a < s.place b :=
  (h.pairwise_place hs).sublist List.filter_sublist

end Ordered

/-- Of entries that stand in the order of their places in two stores, the same come first. -/
theorem newerFirst_congr {entries : List Entry}
    (h : entries.Pairwise fun a b => s.place a < s.place b)
    (h' : entries.Pairwise fun a b => s'.place a < s'.place b) {a b : Entry} (ha : a ∈ entries)
    (hb : b ∈ entries) : s.newerFirst a b = s'.newerFirst a b := by
  have hplaces : s.place b ≤ s.place a ↔ s'.place b ≤ s'.place a := by
    obtain ⟨i, hi, rfl⟩ := List.getElem_of_mem ha
    obtain ⟨j, hj, rfl⟩ := List.getElem_of_mem hb
    rw [List.pairwise_iff_getElem] at h h'
    rcases Nat.lt_trichotomy i j with hlt | rfl | hlt
    · have hbefore := h i j hi hj hlt
      have hbefore' := h' i j hi hj hlt
      omega
    · exact iff_of_true (Nat.le_refl _) (Nat.le_refl _)
    · have hafter := h j i hj hi hlt
      have hafter' := h' j i hj hi hlt
      omega
  simp only [newerFirst, hplaces]

/-- The entries of a type are listed in the order that their own list gives. -/
theorem mergeSort_ofType_congr (hs : s.Sound) (hs' : s'.Sound) (h : s.Ordered) (h' : s'.Ordered)
    (hsame : s.ofType typeId = s'.ofType typeId) :
    (s.ofType typeId).mergeSort s.newerFirst = (s'.ofType typeId).mergeSort s'.newerFirst := by
  have hplaces := h.pairwise_place_ofType hs typeId
  have hplaces' := h'.pairwise_place_ofType hs' typeId
  rw [← hsame] at hplaces' ⊢
  have hsorted := List.map_mergeSort (f := id) (l := s.ofType typeId)
    fun a ha b hb => newerFirst_congr hplaces hplaces' ha hb
  rwa [List.map_id, List.map_id] at hsorted

/-! ### Other types -/

/-- Whether the entries of a type are the same in two stores, with their versions. -/
structure Keeps (typeId : String) (s s' : EntryStore) : Prop where
  ofType : s'.ofType typeId = s.ofType typeId
  versions : ∀ e ∈ s.ofType typeId, s'.versionsOf e.id = s.versionsOf e.id

namespace Keeps

theorem refl (typeId : String) (s : EntryStore) : s.Keeps typeId s := ⟨rfl, fun _ _ => rfl⟩

theorem trans {s'' : EntryStore} (h : Keeps typeId s s') (h' : Keeps typeId s' s'') :
    Keeps typeId s s'' :=
  ⟨h'.ofType.trans h.ofType, fun e he =>
    (h'.versions e (h.ofType ▸ he)).trans (h.versions e he)⟩

end Keeps

theorem keeps_add {e : Entry} (hid : s.entries.has e.id = false)
    (htype : e.typeId ≠ typeId) : s.Keeps typeId (s.add e) where
  ofType := by
    refine Table.filter_values_set (beq_false_of_ne htype) fun old hold => ?_
    simp [Table.has, hold] at hid
  versions _ _ := rfl

theorem keeps_replace (hs : s.Sound) {id : String} {e old : Entry} (version : EntryVersion)
    (hold : s.entries.get? id = some old) (hsame : e.typeId = old.typeId)
    (htype : old.typeId ≠ typeId) : s.Keeps typeId (s.replace id e version) where
  ofType := by
    refine Table.filter_values_set (beq_false_of_ne (hsame ▸ htype)) fun other hother => ?_
    rw [hold, Option.some.injEq] at hother
    exact beq_false_of_ne (hother ▸ htype)
  versions b hb := by
    obtain ⟨hget, hb⟩ := (mem_ofType_iff hs).mp hb
    rw [versionsOf_replace, if_neg]
    intro hid
    rw [hid, hold, Option.some.injEq] at hget
    exact htype (hget ▸ hb)

theorem keeps_delete (hs : s.Sound) {other : String} (id : String) (hne : other ≠ typeId) :
    s.Keeps typeId (s.delete other id) := by
  rw [delete]
  split
  · next hfound =>
    obtain ⟨old, hold⟩ := Option.isSome_iff_exists.mp hfound
    obtain ⟨hget, htype⟩ := find?_eq_some_iff.mp hold
    refine ⟨Table.filter_values_erase fun b hb => ?_, fun b hb => ?_⟩
    · rw [Table.mem_iff_get? hs.nodup_keys, hget, Option.some.injEq] at hb
      exact beq_false_of_ne (hb ▸ htype ▸ hne)
    · obtain ⟨hgetb, hb⟩ := (mem_ofType_iff hs).mp hb
      have hid : b.id ≠ id := by
        intro hid
        rw [hid, hget, Option.some.injEq] at hgetb
        exact hne (htype.symm.trans (hgetb ▸ hb))
      simp only [EntryStore.drop, EntryStore.versionsOf, Table.get?_erase, hid, if_false]
  · exact .refl typeId s

theorem keeps_deleteType (hs : s.Sound) {other : String} (hne : other ≠ typeId) :
    s.Keeps typeId (s.deleteType other) := by
  rw [deleteType]
  generalize (s.ofType other).map (·.id) = ids
  induction ids generalizing s with
  | nil => exact .refl typeId s
  | cons id ids ih => exact (keeps_delete hs id hne).trans (ih (hs.delete other id))

end EntryStore

end ContentEngine
