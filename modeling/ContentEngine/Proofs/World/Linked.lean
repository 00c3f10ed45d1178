import ContentEngine.Proofs.Key
import ContentEngine.Proofs.Outcome
import ContentEngine.Proofs.World.Step
import Mathlib.Data.List.Nodup

/-!
# The records of the world belong together

`World.Linked` says that whatever is kept belongs to something that is there: fields, entries and
views to a content type, versions to an entry. It holds as long as identifiers are not used twice,
so that it is carried by `World.Sound`, which also says what is known of the types and of the store
of entries. The empty world is sound, and every step of the world keeps it so (`Sound.ofStep`).
-/

namespace ContentEngine

/-! ### Slugs of types -/

theorem dash_notMem_typeSlug (text : String) : '-' ∉ (typeSlug text).toList := by
  rw [typeSlug, slugOf, String.toList_ofList]
  intro h
  rcases isWordChar_of_mem_joinWords h with hword | hsep
  · exact absurd hword (by decide)
  · exact absurd hsep (by decide)

theorem dash_mem_identifier (n : Nat) : '-' ∈ (Origin.identifier n).toList := by
  have hstart : '-' ∈ "00000000-0000-4000-8000-".toList := by decide
  unfold Origin.identifier
  generalize hexText _ n = digits
  rw [String.toList_append]
  exact List.mem_append_left _ hstart

/-- What is stored of a type has a slug, and it is one that some text spells. -/
theorem ContentType.slug_of_prepare {request : Value} {base : Obj} {values : TypeValues}
    (h : prepare request base = .ok values) :
    values.slug ≠ "" ∧ ∃ text, values.slug = typeSlug text := by
  rw [prepare] at h
  split at h
  · exact absurd h Outcome.throw_ne_ok
  · dsimp only at h
    simp only [Outcome.throw_bind, ite_eq_iff, reduceCtorEq, and_false, false_or] at h
    obtain ⟨hslug, -, -, hkind⟩ := h
    split at hkind
    · exact absurd hkind Outcome.throw_ne_ok
    · rw [Outcome.pure_eq_ok_iff] at hkind
      rw [← hkind]
      exact ⟨hslug, _, rfl⟩

/-! ### What holds of the world -/

namespace World

/-- The identifiers of the types that are there. -/
def typeIds (w : World) : List String :=
  w.types.map (·.id)

/-- Whether whatever is kept belongs to something that is there. -/
structure Linked (w : World) : Prop where
  /-- There are fields exactly for the types that are there. -/
  keys_fields : w.fields.keys = w.typeIds
  field_type : ∀ {id fields}, w.fields.get? id = some fields → ∀ f ∈ fields, f.typeId = id
  entry_type : ∀ {id e}, w.entries.entries.get? id = some e → e.typeId ∈ w.typeIds
  view_type : ∀ v ∈ w.views, v.typeId ∈ w.typeIds
  has_of_versions : ∀ {id}, w.entries.versions.has id = true → w.entries.entries.has id = true
  version_entry : ∀ {id}, ∀ v ∈ w.entries.versionsOf id, v.entryId = id

/-- What is known of the types: each has been issued an identifier of its own, and has a slug of its
own, which no identifier is mistaken for. -/
structure TypesSound (w : World) : Prop where
  nodup : w.typeIds.Nodup
  issued : ∀ t ∈ w.types, ∃ n ≤ w.origin.issued, t.id = Origin.identifier n
  slug_unique : ∀ t ∈ w.types, ∀ u ∈ w.types, t.values.slug = u.values.slug → t.id = u.id
  slug_spelled : ∀ t ∈ w.types, ∃ text, t.values.slug = typeSlug text

/-- What holds of the world between two steps. -/
structure Sound (w : World) : Prop where
  types : w.TypesSound
  entries : w.EntriesSound
  linked : w.Linked

variable {w w' : World}

/-! ### What a step leaves alone -/

theorem typeIds_putType (w : World) (t : ContentType) : (w.putType t).typeIds = w.typeIds := by
  rw [typeIds, putType, List.map_map, typeIds]
  refine List.map_congr_left fun old _ => ?_
  rw [Function.comp_apply]
  split
  · next hid => exact hid.symm
  · rfl

/-- A call to the store of entries issues identifiers and changes nothing but entries. -/
theorem next_eq (c : EntryCall) (w : World) : ∃ issued entries, c.next w =
    { w with origin := ⟨w.origin.now, w.origin.issued + issued⟩, entries := entries } := by
  cases c with
  | create typeId values =>
    rw [EntryCall.next, run_create]
    split
    · exact ⟨0, w.entries, rfl⟩
    · exact ⟨1, _, rfl⟩
  | update typeId id values =>
    rw [EntryCall.next]
    cases hfind : w.entries.find? typeId id with
    | none =>
      rw [run_update_of_find?_eq_none values hfind]
      exact ⟨0, w.entries, rfl⟩
    | some e =>
      rw [run_update values hfind]
      split
      · exact ⟨0, w.entries, rfl⟩
      · exact ⟨1, _, rfl⟩
  | delete typeId id => exact ⟨0, w.entries.delete typeId id, rfl⟩
  | deleteType typeId => exact ⟨0, w.entries.deleteType typeId, rfl⟩

/-- Settling which view is the default changes nothing but views, and leaves each with its type. -/
theorem settleDefault_eq (w : World) (v : StoredView) :
    ∃ views, w.settleDefault v = { w with views := views } ∧
      ∀ u ∈ views, ∃ old ∈ w.views, old.typeId = u.typeId := by
  rw [settleDefault]
  split
  · refine ⟨_, rfl, fun u hu => ?_⟩
    obtain ⟨old, hold, rfl⟩ := List.mem_map.mp hu
    refine ⟨old, hold, ?_⟩
    split <;> rfl
  · exact ⟨w.views, rfl, fun u hu => ⟨u, hu, rfl⟩⟩

/-! ### Types -/

namespace TypesSound

theorem eq_of_id_eq (h : w.TypesSound) {t u : ContentType} (ht : t ∈ w.types) (hu : u ∈ w.types)
    (hid : t.id = u.id) : t = u :=
  List.inj_on_of_nodup_map h.nodup ht hu hid

/-- A type is found under its identifier. -/
theorem findType?_id (h : w.TypesSound) {t : ContentType} (ht : t ∈ w.types) :
    w.findType? t.id = some t := by
  have hfind : (w.types.find? fun u => u.id == t.id) = some t := by
    cases hfind : w.types.find? fun u => u.id == t.id with
    | none => simpa using List.find?_eq_none.mp hfind t ht
    | some u =>
      have hid : u.id = t.id := by simpa using List.find?_some hfind
      rw [h.eq_of_id_eq (List.mem_of_find?_eq_some hfind) ht hid]
  rw [findType?, hfind, Option.some_or]

/-- A type is found under its slug, since no type has an identifier without a dash. -/
theorem findType?_slug (h : w.TypesSound) {t : ContentType} (ht : t ∈ w.types) :
    w.findType? t.values.slug = some t := by
  have hnone : (w.types.find? fun u => u.id == t.values.slug) = none := by
    refine List.find?_eq_none.mpr fun u hu hid => ?_
    obtain ⟨n, -, hn⟩ := h.issued u hu
    obtain ⟨text, htext⟩ := h.slug_spelled t ht
    have hdash := dash_mem_identifier n
    rw [← hn, beq_iff_eq.mp hid, htext] at hdash
    exact dash_notMem_typeSlug text hdash
  have hfind : (w.types.find? fun u => u.values.slug == t.values.slug) = some t := by
    cases hfind : w.types.find? fun u => u.values.slug == t.values.slug with
    | none => simpa using List.find?_eq_none.mp hfind t ht
    | some u =>
      have hu := List.mem_of_find?_eq_some hfind
      have hslug : u.values.slug = t.values.slug := by simpa using List.find?_some hfind
      rw [h.eq_of_id_eq hu ht (h.slug_unique u hu t ht hslug)]
  rw [findType?, hnone, Option.none_or, hfind]

/-- The next identifier is that of no type. -/
theorem latest_notMem (h : w.TypesSound) : w.origin.issue.latest ∉ w.typeIds := by
  intro hmem
  obtain ⟨t, ht, hid⟩ := List.mem_map.mp hmem
  obtain ⟨n, hle, hn⟩ := h.issued t ht
  have heq : n = w.origin.issued + 1 := Origin.identifier_injective (hn ▸ hid)
  omega

/-- Types that stay as they are stay sound while identifiers are issued. -/
theorem of_types_eq (h : w.TypesSound) (htypes : w'.types = w.types)
    (hissued : w.origin.issued ≤ w'.origin.issued) : w'.TypesSound where
  nodup := by
    rw [typeIds, htypes]
    exact h.nodup
  issued t ht := by
    obtain ⟨n, hle, hn⟩ := h.issued t (htypes ▸ ht)
    exact ⟨n, hle.trans hissued, hn⟩
  slug_unique := by
    rw [htypes]
    exact h.slug_unique
  slug_spelled := by
    rw [htypes]
    exact h.slug_spelled

theorem typeSlugTaken_eq_false_iff {slug ownId : String} :
    w.typeSlugTaken slug ownId = false ↔
      ∀ t ∈ w.types, t.values.slug = slug → t.id = ownId := by
  simp only [typeSlugTaken, List.any_eq_false, Bool.and_eq_true, beq_iff_eq, bne_iff_ne, ne_eq,
    not_and, not_not]

theorem addType (h : w.TypesSound) {request : Value} {values : TypeValues}
    (hvalues : ContentType.prepare request [] = .ok values)
    (hfree : w.typeSlugTaken values.slug "" = false) :
    (w.issue.addType (w.newType values)).TypesSound := by
  have hids : (w.issue.addType (w.newType values)).typeIds =
      w.typeIds ++ [w.origin.issue.latest] := by
    simp [typeIds, World.addType, World.issue, newType]
  have hmem : ∀ t, t ∈ (w.issue.addType (w.newType values)).types ↔
      t ∈ w.types ∨ t = w.newType values := by
    simp [World.addType, World.issue]
  -- no type is without an identifier, so that the slug is free among all types
  have hfree : ∀ t ∈ w.types, t.values.slug ≠ values.slug := by
    intro t ht hslug
    obtain ⟨n, -, hn⟩ := h.issued t ht
    have hdash := dash_mem_identifier n
    rw [← hn, typeSlugTaken_eq_false_iff.mp hfree t ht hslug] at hdash
    simp at hdash
  constructor
  · rw [hids]
    refine List.nodup_append.mpr ⟨h.nodup, by simp, ?_⟩
    intro id hid other hother heq
    rw [List.mem_singleton] at hother
    exact h.latest_notMem (hother ▸ heq ▸ hid)
  · intro t ht
    rcases (hmem t).mp ht with ht | rfl
    · obtain ⟨n, hle, hn⟩ := h.issued t ht
      exact ⟨n, Nat.le_succ_of_le hle, hn⟩
    · exact ⟨w.origin.issued + 1, Nat.le_refl _, rfl⟩
  · intro t ht u hu hslug
    rcases (hmem t).mp ht with ht | rfl <;> rcases (hmem u).mp hu with hu | rfl
    · exact h.slug_unique t ht u hu hslug
    · exact absurd hslug (hfree t ht)
    · exact absurd hslug.symm (hfree u hu)
    · rfl
  · intro t ht
    rcases (hmem t).mp ht with ht | rfl
    · exact h.slug_spelled t ht
    · exact (ContentType.slug_of_prepare hvalues).2

/-- A type may be replaced by one with its identifier and a slug that no other type has. -/
theorem putType (h : w.TypesSound) {t t' : ContentType} (ht : t ∈ w.types) (hid : t'.id = t.id)
    (hfree : ∀ u ∈ w.types, u.values.slug = t'.values.slug → u.id = t.id)
    (hspelled : ∃ text, t'.values.slug = typeSlug text) : (w.putType t').TypesSound := by
  have hmem : ∀ u ∈ (w.putType t').types, u = t' ∨ u ∈ w.types ∧ u.id ≠ t.id := by
    intro u hu
    obtain ⟨old, hold, rfl⟩ := List.mem_map.mp hu
    by_cases heq : old.id = t'.id
    · exact .inl (if_pos heq)
    · rw [if_neg heq]
      exact .inr ⟨hold, hid ▸ heq⟩
  constructor
  · rw [typeIds_putType]
    exact h.nodup
  · intro u hu
    rcases hmem u hu with rfl | ⟨hu, -⟩
    · exact hid ▸ h.issued t ht
    · exact h.issued u hu
  · intro u hu v hv hslug
    rcases hmem u hu with rfl | ⟨hold, hne⟩ <;> rcases hmem v hv with rfl | ⟨hold', hne'⟩
    · rfl
    · exact absurd (hfree v hold' hslug.symm) hne'
    · exact absurd (hfree u hold hslug) hne
    · exact h.slug_unique u hold v hold' hslug
  · intro u hu
    rcases hmem u hu with rfl | ⟨hu, -⟩
    · exact hspelled
    · exact h.slug_spelled u hu

theorem changeType (h : w.TypesSound) {t : ContentType} {request : Value} {values : TypeValues}
    (ht : t ∈ w.types) (hvalues : ContentType.prepare request t.toObj = .ok values)
    (hfree : values.slug ≠ t.values.slug → w.typeSlugTaken values.slug t.id = false) :
    (w.putType (w.changedType t values)).TypesSound := by
  refine h.putType ht rfl (fun u hu hslug => ?_) (ContentType.slug_of_prepare hvalues).2
  by_cases hsame : values.slug = t.values.slug
  · exact h.slug_unique u hu t ht (hslug.trans hsame)
  · exact typeSlugTaken_eq_false_iff.mp (hfree hsame) u hu hslug

theorem dropType (h : w.TypesSound) (typeId : String) : (w.dropType typeId).TypesSound where
  nodup := by
    have hsub : (w.types.filter fun t => t.id != typeId).Sublist w.types := List.filter_sublist
    exact (hsub.map ContentType.id).nodup h.nodup
  issued t ht := h.issued t (List.mem_of_mem_filter ht)
  slug_unique t ht u hu := h.slug_unique t (List.mem_of_mem_filter ht) u (List.mem_of_mem_filter hu)
  slug_spelled t ht := h.slug_spelled t (List.mem_of_mem_filter ht)

/-- Every step keeps what is known of the types. -/
theorem ofStep (h : w.TypesSound) (hstep : w.Step w') : w'.TypesSound := by
  cases hstep with
  | elsewhere now issued users usersDown => exact h.of_types_eq rfl (Nat.le_add_right _ _)
  | addType hvalues hfree => exact h.addType hvalues hfree
  | changeType ht hvalues hfree =>
    exact h.changeType ht hvalues fun hslug => (hfree hslug).1
  | @replaceFields t raw inputs fields after ht _ hrun =>
    obtain ⟨⟨issued, rfl⟩, -⟩ := Memory.of_run_recordFields hrun
    have hput : (w.putType { t with updatedAt := w.origin.now }).TypesSound :=
      h.putType ht rfl (fun u hu hslug => h.slug_unique u hu t ht hslug) (h.slug_spelled t ht)
    exact hput.of_types_eq rfl (Nat.le_add_right _ _)
  | @removeType t ht => exact (h.dropType t.id).of_types_eq rfl (Nat.le_refl _)
  | entry c _ =>
    obtain ⟨issued, entries, hnext⟩ := next_eq c w
    rw [hnext]
    exact h.of_types_eq rfl (Nat.le_add_right _ _)
  | addView _ _ _ =>
    obtain ⟨views, hsettle, -⟩ := settleDefault_eq _ _
    rw [hsettle]
    exact h.of_types_eq rfl (Nat.le_succ _)
  | changeView _ _ _ =>
    obtain ⟨views, hsettle, -⟩ := settleDefault_eq _ _
    rw [hsettle]
    exact h.of_types_eq rfl (Nat.le_refl _)
  | dropView _ => exact h.of_types_eq rfl (Nat.le_refl _)

end TypesSound

/-! ### Entries -/

namespace EntriesSound

/-- A store of entries that stays as it is stays sound while identifiers are issued. -/
theorem of_entries_eq (h : w.EntriesSound) (hentries : w'.entries = w.entries)
    (hissued : w.origin.issued ≤ w'.origin.issued) : w'.EntriesSound where
  sound := hentries ▸ h.sound
  issued {id} hid := by
    rw [hentries] at hid
    obtain ⟨n, hle, hn⟩ := h.issued hid
    exact ⟨n, hle.trans hissued, hn⟩

/-- Every step keeps the store of entries sound. -/
theorem ofStep (h : w.EntriesSound) (hstep : w.Step w') : w'.EntriesSound := by
  cases hstep with
  | elsewhere now issued users usersDown => exact h.of_entries_eq rfl (Nat.le_add_right _ _)
  | addType _ _ => exact h.of_entries_eq rfl (Nat.le_succ _)
  | changeType _ _ _ => exact h.of_entries_eq rfl (Nat.le_refl _)
  | @replaceFields t raw inputs fields after _ _ hrun =>
    obtain ⟨⟨issued, rfl⟩, -⟩ := Memory.of_run_recordFields hrun
    exact h.of_entries_eq rfl (Nat.le_add_right _ _)
  | @removeType t _ => exact (h.deleteType t.id).of_entries_eq rfl (Nat.le_refl _)
  | entry c _ => exact h.call c
  | addView _ _ _ =>
    obtain ⟨views, hsettle, -⟩ := settleDefault_eq _ _
    rw [hsettle]
    exact h.of_entries_eq rfl (Nat.le_succ _)
  | changeView _ _ _ =>
    obtain ⟨views, hsettle, -⟩ := settleDefault_eq _ _
    rw [hsettle]
    exact h.of_entries_eq rfl (Nat.le_refl _)
  | dropView _ => exact h.of_entries_eq rfl (Nat.le_refl _)

end EntriesSound

/-- Every entry that a call leaves behind has the type that it had before, or it has been made. -/
theorem typeId_of_call {c : EntryCall} {id : String} {e : Entry} (h : w.EntriesSound)
    (hget : (c.next w).entries.entries.get? id = some e) :
    (∃ old, w.entries.entries.get? id = some old ∧ old.typeId = e.typeId) ∨
      ∃ values, c = .create e.typeId values := by
  cases c with
  | create typeId values =>
    rw [EntryCall.next, run_create] at hget
    split at hget
    · exact .inl ⟨e, hget, rfl⟩
    · rw [EntryStore.get?_add] at hget
      split at hget
      · rw [← Option.some.inj hget]
        exact .inr ⟨values, rfl⟩
      · exact .inl ⟨e, hget, rfl⟩
  | update typeId changed values =>
    rw [EntryCall.next] at hget
    cases hfind : w.entries.find? typeId changed with
    | none =>
      rw [run_update_of_find?_eq_none values hfind] at hget
      exact .inl ⟨e, hget, rfl⟩
    | some old =>
      rw [run_update values hfind] at hget
      split at hget
      · exact .inl ⟨e, hget, rfl⟩
      · rw [EntryStore.get?_replace] at hget
        split at hget
        · next heq =>
          rw [← Option.some.inj hget, heq]
          exact .inl ⟨old, (EntryStore.find?_eq_some_iff.mp hfind).1, rfl⟩
        · exact .inl ⟨e, hget, rfl⟩
  | delete typeId deleted =>
    rw [EntryCall.next, run_delete, EntryStore.get?_delete] at hget
    split at hget
    · exact .inl ⟨e, (Option.filter_eq_some_iff.mp hget).1, rfl⟩
    · exact .inl ⟨e, hget, rfl⟩
  | deleteType typeId =>
    rw [EntryCall.next, run_deleteType, EntryStore.get?_deleteType h.sound] at hget
    exact .inl ⟨e, (Option.filter_eq_some_iff.mp hget).1, rfl⟩

/-- Every version that a call leaves behind was there before, or it is one of its entry. -/
theorem version_of_call {c : EntryCall} {id : String} {v : EntryVersion} (h : w.EntriesSound)
    (hv : v ∈ (c.next w).entries.versionsOf id) :
    v ∈ w.entries.versionsOf id ∨ v.entryId = id := by
  cases c with
  | create typeId values =>
    rw [EntryCall.next, run_create] at hv
    split at hv <;> exact .inl hv
  | update typeId changed values =>
    rw [EntryCall.next] at hv
    cases hfind : w.entries.find? typeId changed with
    | none =>
      rw [run_update_of_find?_eq_none values hfind] at hv
      exact .inl hv
    | some old =>
      rw [run_update values hfind] at hv
      split at hv
      · exact .inl hv
      · rw [EntryStore.versionsOf_replace] at hv
        split at hv
        · next heq =>
          rcases List.mem_cons.mp hv with rfl | hv
          · exact .inr heq.symm
          · exact .inl (heq ▸ hv)
        · exact .inl hv
  | delete typeId deleted =>
    rw [EntryCall.next, run_delete, EntryStore.versionsOf_delete] at hv
    split at hv
    · contradiction
    · exact .inl hv
  | deleteType typeId =>
    rw [EntryCall.next, run_deleteType, EntryStore.versionsOf_deleteType h.sound] at hv
    split at hv
    · contradiction
    · exact .inl hv

/-! ### What belongs to what -/

namespace Linked

/-- What is kept belongs together as long as the types have their identifiers, the fields and the
entries stay, and every view has the type of a view that was there. -/
theorem of_eq (h : w.Linked) (htypes : w'.typeIds = w.typeIds) (hfields : w'.fields = w.fields)
    (hentries : w'.entries = w.entries)
    (hviews : ∀ v ∈ w'.views, v.typeId ∈ w.typeIds) : w'.Linked where
  keys_fields := by rw [hfields, htypes, h.keys_fields]
  field_type hget := h.field_type (hfields ▸ hget)
  entry_type hget := htypes ▸ h.entry_type (hentries ▸ hget)
  view_type v hv := htypes ▸ hviews v hv
  has_of_versions hhas := hentries ▸ h.has_of_versions (hentries ▸ hhas)
  version_entry v hv := h.version_entry v (hentries ▸ hv)

theorem addType (h : w.Linked) (ht : w.TypesSound) (values : TypeValues) :
    (w.issue.addType (w.newType values)).Linked := by
  have hids : (w.issue.addType (w.newType values)).typeIds =
      w.typeIds ++ [w.origin.issue.latest] := by
    simp [typeIds, World.addType, World.issue, newType]
  have hnew : w.fields.has w.origin.issue.latest = false := by
    rw [← Bool.not_eq_true, ← Table.mem_keys_iff, h.keys_fields]
    exact ht.latest_notMem
  refine ⟨?_, ?_, fun hget => ?_, fun v hv => ?_, h.has_of_versions, h.version_entry⟩
  · rw [hids, ← h.keys_fields]
    exact Table.keys_set_of_not_has _ hnew
  · intro id fields hget f hf
    rw [World.addType, Table.get?_set] at hget
    split at hget
    · rw [← Option.some.inj hget] at hf
      contradiction
    · exact h.field_type hget f hf
  · rw [hids]
    exact List.mem_append_left _ (h.entry_type hget)
  · rw [hids]
    exact List.mem_append_left _ (h.view_type v hv)

theorem putFields (h : w.Linked) {typeId : String} {fields : List StoredField}
    (hid : typeId ∈ w.typeIds) (hfields : ∀ f ∈ fields, f.typeId = typeId) :
    (w.putFields typeId fields).Linked := by
  have hhas : w.fields.has typeId = true := by
    rw [← Table.mem_keys_iff, h.keys_fields]
    exact hid
  refine ⟨(Table.keys_set_of_has fields hhas).trans h.keys_fields, ?_, h.entry_type, h.view_type,
    h.has_of_versions, h.version_entry⟩
  intro id stored hget f hf
  rw [World.putFields, Table.get?_set] at hget
  split at hget
  · next heq =>
    rw [← Option.some.inj hget] at hf
    rw [hfields f hf, heq]
  · exact h.field_type hget f hf

theorem removeType (h : w.Linked) (he : w.EntriesSound) (typeId : String) :
    (w.removeType typeId).Linked := by
  have hids : (w.removeType typeId).typeIds = w.typeIds.filter (· != typeId) := by
    rw [typeIds, typeIds, List.filter_map]
    rfl
  have hkept : ∀ {id}, id ∈ w.typeIds → id ≠ typeId → id ∈ (w.removeType typeId).typeIds := by
    intro id hid hne
    rw [hids, List.mem_filter]
    exact ⟨hid, bne_iff_ne.mpr hne⟩
  refine ⟨?_, ?_, ?_, ?_, (he.sound.deleteType typeId).has_of_versions, ?_⟩
  · rw [hids, ← h.keys_fields]
    exact Table.keys_erase _ _
  · intro id fields hget
    rw [World.removeType, World.dropType, Table.get?_erase] at hget
    split at hget
    · contradiction
    · exact h.field_type hget
  · intro id e hget
    rw [World.removeType, EntryStore.get?_deleteType he.sound, Option.filter_eq_some_iff] at hget
    exact hkept (h.entry_type hget.1) (bne_iff_ne.mp hget.2)
  · intro v hv
    rw [World.removeType, List.mem_filter] at hv
    exact hkept (h.view_type v hv.1) (bne_iff_ne.mp hv.2)
  · intro id v hv
    rw [World.removeType, EntryStore.versionsOf_deleteType he.sound] at hv
    split at hv
    · contradiction
    · exact h.version_entry v hv

/-- A call to the store of entries keeps what belongs together, if it makes entries only of types
that are there. -/
theorem call (h : w.Linked) (he : w.EntriesSound) (c : EntryCall)
    (hc : ∀ typeId values, c = .create typeId values → typeId ∈ w.typeIds) :
    (c.next w).Linked := by
  obtain ⟨issued, entries, hnext⟩ := next_eq c w
  have hids : (c.next w).typeIds = w.typeIds := by rw [hnext]; rfl
  refine ⟨?_, ?_, ?_, ?_, (he.call c).sound.has_of_versions, ?_⟩
  · rw [hnext]
    exact h.keys_fields
  · rw [hnext]
    exact h.field_type
  · intro id e hget
    rw [hids]
    rcases typeId_of_call he hget with ⟨old, hold, htype⟩ | ⟨values, rfl⟩
    · exact htype ▸ h.entry_type hold
    · exact hc e.typeId values rfl
  · rw [hnext]
    exact h.view_type
  · intro id v hv
    rcases version_of_call he hv with hv | hid
    · exact h.version_entry v hv
    · exact hid

/-- Every step keeps what belongs together. -/
theorem ofStep (h : w.Linked) (ht : w.TypesSound) (he : w.EntriesSound) (hstep : w.Step w') :
    w'.Linked := by
  cases hstep with
  | elsewhere now issued users usersDown => exact h.of_eq rfl rfl rfl h.view_type
  | @addType request values _ _ => exact h.addType ht values
  | @changeType t request values _ _ _ => exact h.of_eq (typeIds_putType _ _) rfl rfl h.view_type
  | @replaceFields t raw inputs fields after htype _ hrun =>
    obtain ⟨⟨issued, rfl⟩, -, hfields⟩ := Memory.of_run_recordFields hrun
    have hput := h.putFields (List.mem_map.mpr ⟨t, htype, rfl⟩) hfields
    exact hput.of_eq (typeIds_putType _ _) rfl rfl hput.view_type
  | @removeType t _ => exact h.removeType he t.id
  | entry c hc =>
    refine h.call he c fun typeId values heq => ?_
    obtain ⟨t, ht, rfl⟩ := hc typeId values heq
    exact List.mem_map.mpr ⟨t, ht, rfl⟩
  | @addView t body view htype _ _ =>
    obtain ⟨views, hsettle, htypes⟩ := settleDefault_eq _ _
    rw [hsettle]
    refine h.of_eq rfl rfl rfl fun v hv => ?_
    obtain ⟨old, hold, heq⟩ := htypes v hv
    rw [← heq]
    rcases List.mem_append.mp hold with hold | hold
    · exact h.view_type old hold
    · rw [List.mem_singleton.mp hold]
      exact List.mem_map.mpr ⟨t, htype, rfl⟩
  | @changeView current body view hcurrent _ _ =>
    obtain ⟨views, hsettle, htypes⟩ := settleDefault_eq _ _
    rw [hsettle]
    refine h.of_eq rfl rfl rfl fun v hv => ?_
    obtain ⟨put, hput, heq⟩ := htypes v hv
    obtain ⟨old, hold, rfl⟩ := List.mem_map.mp hput
    rw [← heq]
    -- the view that is changed keeps its type
    split
    · exact h.view_type current (List.mem_of_find?_eq_some hcurrent)
    · exact h.view_type old hold
  | dropView _ => exact h.of_eq rfl rfl rfl fun v hv => h.view_type v (List.mem_of_mem_filter hv)

end Linked

/-! ### Steps and runs -/

theorem sound_empty : World.empty.Sound where
  types := ⟨List.nodup_nil, by simp [empty], by simp [empty], by simp [empty]⟩
  entries := EntriesSound.withoutEntries empty
  linked := ⟨rfl, by simp [empty], by simp [empty, EntryStore.empty], by simp [empty],
    by simp [empty, EntryStore.empty, Table.has],
    by simp [empty, EntryStore.empty, EntryStore.versionsOf]⟩

/-- Every step keeps the world sound. -/
theorem Sound.ofStep (h : w.Sound) (hstep : w.Step w') : w'.Sound where
  types := h.types.ofStep hstep
  entries := h.entries.ofStep hstep
  linked := h.linked.ofStep h.types h.entries hstep

/-- Whatever is reached from a sound world is sound. -/
theorem Reaches.sound (h : w.Reaches w') (hw : w.Sound) : w'.Sound :=
  h.keeps Sound.ofStep hw

end World

end ContentEngine
