import ContentEngine.Proofs.Registry.Reads
import ContentEngine.Proofs.World.Attained

/-!
# Slugs of content types

Whatever operations lead to a world, the slugs of its types are words of small letters and digits
that underscores join, no two types share one, and none is the identifier of a type, since each
identifier holds a dash. So a name finds a type exactly if it is the identifier or the slug of that
type. As long as a type has an entry, no operation changes its slug
(`World.Attained.slugs_unambiguous`).
-/

namespace ContentEngine

/-- A slug of a type holds small letters, digits and underscores only. -/
theorem slugChar_of_mem_typeSlug {text : String} {c : Char} (h : c ∈ (typeSlug text).toList) :
    isWordChar c = true ∨ c = '_' := by
  rw [typeSlug, slugOf, String.toList_ofList] at h
  exact isWordChar_of_mem_joinWords h

namespace World

variable {w w' : World}

namespace TypesSound

/-- No slug is the identifier of a type. -/
theorem slug_ne_id (h : w.TypesSound) {t u : ContentType} (ht : t ∈ w.types) (hu : u ∈ w.types) :
    t.values.slug ≠ u.id := by
  intro heq
  obtain ⟨text, htext⟩ := h.slug_spelled t ht
  obtain ⟨n, -, hn⟩ := h.issued u hu
  have hdash := dash_mem_identifier n
  rw [← hn, ← heq, htext] at hdash
  exact dash_notMem_typeSlug text hdash

/-- A name finds a type exactly if it is its identifier or its slug. -/
theorem findType?_eq_some_iff (h : w.TypesSound) {t : ContentType} (ht : t ∈ w.types)
    {name : String} : w.findType? name = some t ↔ name = t.id ∨ name = t.values.slug := by
  constructor
  · intro hfind
    rw [findType?, Option.or_eq_some_iff] at hfind
    rcases hfind with hid | ⟨-, hslug⟩
    · have hname : t.id = name := by simpa using List.find?_some hid
      exact .inl hname.symm
    · have hname : t.values.slug = name := by simpa using List.find?_some hslug
      exact .inr hname.symm
  · rintro (rfl | rfl)
    · exact h.findType?_id ht
    · exact h.findType?_slug ht

end TypesSound

/-! ### Slugs that stay -/

/-- Whether every type that was there before, and had an entry then, has the slug that it had. -/
def KeepsSlugs (w w' : World) : Prop :=
  ∀ u ∈ w'.types, u.id ∈ w.typeIds → 0 < w.entryCount u.id →
    ∃ t ∈ w.types, t.id = u.id ∧ t.values.slug = u.values.slug

theorem keepsSlugs_of_types_subset (h : ∀ u ∈ w'.types, u ∈ w.types) : w.KeepsSlugs w' :=
  fun u hu _ _ => ⟨u, h u hu, rfl, rfl⟩

/-- Types that keep their identifiers and values keep their slugs. -/
theorem KeepsSlugs.of_values {w₁ : World} (h : w.KeepsSlugs w₁)
    (hsame : ∀ u ∈ w'.types, ∃ old ∈ w₁.types, old.id = u.id ∧ old.values = u.values) :
    w.KeepsSlugs w' := by
  intro u hu hid hcount
  obtain ⟨old, hold, hoid, hvalues⟩ := hsame u hu
  rw [← hoid] at hid hcount
  obtain ⟨t, ht, htid, hslug⟩ := h old hold hid hcount
  exact ⟨t, ht, htid.trans hoid, hslug.trans (congrArg TypeValues.slug hvalues)⟩

theorem mem_types_putType {t u : ContentType} (h : u ∈ (w.putType t).types) :
    u = t ∨ u ∈ w.types := by
  obtain ⟨old, hold, rfl⟩ := List.mem_map.mp h
  split
  · exact .inl rfl
  · exact .inr hold

/-- A type gets another slug only while it has no entries. -/
theorem keepsSlugs_changeType {t : ContentType} {values : TypeValues} (ht : t ∈ w.types)
    (hslug : values.slug ≠ t.values.slug → w.entryCount t.id = 0) :
    w.KeepsSlugs (w.putType (w.changedType t values)) := by
  intro u hu _ hcount
  rcases mem_types_putType hu with rfl | hold
  · refine ⟨t, ht, rfl, ?_⟩
    by_contra hne
    have hnone := hslug fun heq => hne heq.symm
    have hsome : 0 < w.entryCount t.id := hcount
    omega
  · exact ⟨u, hold, rfl, rfl⟩

/-- The identifier of a new type is that of no type. -/
theorem keepsSlugs_addType (hw : w.TypesSound) (values : TypeValues) :
    w.KeepsSlugs (w.issue.addType (w.newType values)) := by
  intro u hu hid _
  rcases List.mem_append.mp hu with hold | hnew
  · exact ⟨u, hold, rfl, rfl⟩
  · rw [List.mem_singleton.mp hnew] at hid
    exact absurd hid hw.latest_notMem

theorem FieldsReplaced.exists_type {t : ContentType} {inputs : List FieldInput} (ht : t ∈ w.types)
    (h : w.FieldsReplaced t inputs w') :
    ∀ u ∈ w'.types, ∃ old ∈ w.types, old.id = u.id ∧ old.values = u.values := by
  obtain ⟨hrun⟩ := h
  obtain ⟨⟨issued, rfl⟩, -⟩ := Memory.of_run_recordFields hrun
  intro u hu
  rcases mem_types_putType hu with rfl | hold
  · exact ⟨t, ht, rfl, rfl⟩
  · exact ⟨u, hold, rfl, rfl⟩

theorem FieldsTaken.exists_type {t : ContentType} {request : Value} (ht : t ∈ w.types)
    (h : w.FieldsTaken t request w') :
    ∀ u ∈ w'.types, ∃ old ∈ w.types, old.id = u.id ∧ old.values = u.values := by
  cases h with
  | replaced _ _ hfields => exact hfields.exists_type ht
  | left _ => exact fun u hu => ⟨u, hu, rfl, rfl⟩

theorem keepsSlugs_of_writes (hw : w.TypesSound) {c : RegistryCall} (h : c.Writes w w') :
    w.KeepsSlugs w' := by
  cases h with
  | @create _ values _ _ _ htaken =>
    exact (keepsSlugs_addType hw values).of_values
      (htaken.exists_type (List.mem_append_right _ (List.mem_singleton_self _)))
  | update ht _ hfree htaken =>
    have hmem := mem_of_findType? ht
    exact (keepsSlugs_changeType hmem fun hslug => (hfree hslug).2).of_values
      (htaken.exists_type (changedType_mem hmem _))
  | replaceFields ht _ hfields =>
    exact (keepsSlugs_of_types_subset fun u hu => hu).of_values
      (hfields.exists_type (mem_of_findType? ht))
  | delete _ => exact keepsSlugs_of_types_subset fun u hu => List.mem_of_mem_filter hu

theorem keepsSlugs_ofStep (hw : w.TypesSound) (h : w.Step w') : w.KeepsSlugs w' := by
  cases h with
  | elsewhere _ _ _ _ | dropView _ => exact keepsSlugs_of_types_subset fun u hu => hu
  | @addType _ values _ _ => exact keepsSlugs_addType hw values
  | changeType ht _ hfree => exact keepsSlugs_changeType ht fun hslug => (hfree hslug).2
  | @replaceFields t _ inputs _ _ ht _ hrun =>
    have hfields : w.FieldsReplaced t inputs _ := .mk hrun
    exact (keepsSlugs_of_types_subset fun u hu => hu).of_values (hfields.exists_type ht)
  | removeType _ => exact keepsSlugs_of_types_subset fun u hu => List.mem_of_mem_filter hu
  | entry c _ =>
    obtain ⟨issued, entries, hnext⟩ := next_eq c w
    rw [hnext]
    exact keepsSlugs_of_types_subset fun u hu => hu
  | addView _ _ _ | changeView _ _ _ =>
    obtain ⟨views, hsettle, -⟩ := settleDefault_eq _ _
    rw [hsettle]
    exact keepsSlugs_of_types_subset fun u hu => hu

/-- No operation changes the slug of a type with an entry. -/
theorem Operation.keepsSlugs (hw : w.Regular) (h : w.Operation w') : w.KeepsSlugs w' := by
  have hsame : w.KeepsSlugs w := keepsSlugs_of_types_subset fun u hu => hu
  cases h with
  | registry c =>
    rcases (RegistryCall.next_eq_iff ⟨hw.types, hw.fields⟩ c).mp rfl with hwrites | ⟨-, hnext⟩
    · exact keepsSlugs_of_writes hw.types hwrites
    · exact hnext.symm ▸ hsame
  | service mail c =>
    rcases c.callsOnce_next mail w with hnext | ⟨t, call, -, -, hnext⟩
    · exact hnext.symm ▸ hsame
    · obtain ⟨issued, entries, hcall⟩ := next_eq call w
      rw [hnext, hcall]
      exact keepsSlugs_of_types_subset fun u hu => hu
  | @user _ request _ =>
    obtain ⟨issued, users, hrun, -⟩ := exists_of_putUser request w
    rw [hrun]
    exact keepsSlugs_of_types_subset fun u hu => hu
  | step hstep _ => exact keepsSlugs_ofStep hw.types hstep

/-- In every world that operations lead to, slugs of types are spelled with small letters, digits
and underscores, no two types share one, and a name finds a type exactly if it is the identifier or
the slug of that type. No further operation changes the slug of a type with an entry. -/
theorem Attained.slugs_unambiguous (h : w.Attained) :
    (∀ t ∈ w.types, t.values.slug ≠ "" ∧
      ∀ c ∈ t.values.slug.toList, isWordChar c = true ∨ c = '_') ∧
    (∀ t ∈ w.types, ∀ u ∈ w.types, t.values.slug = u.values.slug → t = u) ∧
    (∀ t ∈ w.types, ∀ u ∈ w.types, t.values.slug ≠ u.id) ∧
    (∀ t ∈ w.types, ∀ name, w.findType? name = some t ↔ name = t.id ∨ name = t.values.slug) ∧
    ∀ w', w.Operation w' → ∀ t ∈ w.types, 0 < w.entryCount t.id →
      ∀ u ∈ w'.types, u.id = t.id → u.values.slug = t.values.slug := by
  have hw := h.regular
  refine ⟨fun t ht => ⟨hw.named t ht, fun c hc => ?_⟩, fun t ht u hu hslug => ?_,
    fun t ht u hu => hw.types.slug_ne_id ht hu, fun t ht name => hw.types.findType?_eq_some_iff ht,
    fun w' hop t ht hcount u hu hid => ?_⟩
  · obtain ⟨text, htext⟩ := hw.types.slug_spelled t ht
    exact slugChar_of_mem_typeSlug (htext ▸ hc)
  · exact hw.types.eq_of_id_eq ht hu (hw.types.slug_unique t ht u hu hslug)
  · have hmem : u.id ∈ w.typeIds := List.mem_map.mpr ⟨t, ht, hid.symm⟩
    obtain ⟨old, hold, hoid, hslug⟩ := hop.keepsSlugs hw u hu hmem (hid.symm ▸ hcount)
    rw [← hslug, hw.types.eq_of_id_eq hold ht (hoid.trans hid)]

/-! ### Albums -/

/-- An album. -/
def firstAlbum : EntryValues := ⟨.str "First", "first", .str "draft", .obj []⟩

/-- The world with the album. -/
def albumsWorld : World := albumWorld.withNew albumType.id firstAlbum

theorem attained_albumsWorld : albumsWorld.Attained := by
  have hstart : empty.Attained := Relation.ReflTransGen.refl
  have halbums : albumWorld.Attained :=
    next_create_albums ▸ hstart.operation (.registry (.create albumRequest))
  have hstep : albumWorld.Step albumsWorld :=
    .entry (.create albumType.id firstAlbum) fun _ _ heq => by
      cases heq
      exact ⟨albumType, List.mem_singleton_self _, rfl⟩
  exact halbums.operation (.step hstep rfl)

/-- The type of albums keeps its slug while there is an album. -/
theorem albums_keep_slug :
    albumsWorld.Attained ∧ albumType ∈ albumsWorld.types ∧
      0 < albumsWorld.entryCount albumType.id ∧
      ∀ u ∈ ((RegistryCall.update "albums" (.obj [("slug", .str "records")])).next
        albumsWorld).types, u.id = albumType.id → u.values.slug = "albums" := by
  have hmem : albumType ∈ albumsWorld.types := List.mem_singleton_self _
  have hcount : 0 < albumsWorld.entryCount albumType.id := by decide +kernel
  obtain ⟨-, -, -, -, hfixed⟩ := attained_albumsWorld.slugs_unambiguous
  exact ⟨attained_albumsWorld, hmem, hcount, fun u hu hid =>
    hfixed _ (.registry (.update "albums" _)) albumType hmem hcount u hu hid⟩

end World

end ContentEngine
