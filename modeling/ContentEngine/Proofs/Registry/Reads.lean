import Mathlib
import ContentEngine.Proofs.Field.Readable
import ContentEngine.Proofs.Registry.Run

/-!
# Reading what the registry has stored

The fields of a type are stored as they are sent and brought to their strict form when they are
read, so that it shows only then whether their settings can be read. The fields of a type are read
exactly if the settings of each can be (`registry_reads_iff`); the type itself is always found.
-/

namespace ContentEngine

open Outcome (HasResult hasResult_bind_pure hasResult_mapM)

/-! ### Stored fields -/

namespace PresentedField

/-- The settings of a stored field are the ones that it has been stored with. -/
theorem fieldConfig_toObj (f : StoredField) : fieldConfig (.obj f.toObj) = f.input.config :=
  fieldConfig_of_config rfl rfl rfl

/-- A stored field is read exactly if its settings can be. -/
theorem hasResult_ofStored? {f : StoredField} (hkey : IsKey f.input.key)
    (hne : f.input.key ≠ "") :
    HasResult (ofStored? f.toObj) ↔ SettingsReadable f.input.kind f.input.config := by
  have horder : (Obj.get f.toObj "order_index").toInteger = .ok (some f.input.orderIndex) := rfl
  have hgiven : (FieldDef.givenKey f.toObj).snakeCase = .ok f.input.key :=
    Obj.snakeCase_firstTruthy rfl hkey hne
  have hkind : FieldKind.ofValue (Obj.get f.toObj "type") = .ok f.input.kind :=
    FieldKind.ofValue_name f.input.kind
  have hheader : FieldDef.HeaderReadable f.toObj := {
    kind := FieldKind.hasResult_ofValue.mp ⟨_, hkind⟩
    order := not_false
    label := Value.hasText_str _
    help := by
      have hhelp : Obj.firstTruthy f.toObj ["help_text", "helpText"] =
          if f.input.helpText != "" then .str f.input.helpText else .null := rfl
      rw [hhelp]
      split <;> simp }
  rw [ofStored?, horder, Outcome.ok_bind, hasResult_bind_pure,
    FieldDef.hasResult_ofValue?, FieldDef.isReadable_iff rfl hgiven hne, fieldConfig_toObj]
  simp only [hheader, hkind, Except.ok.injEq, forall_eq', true_and]

/-- Stored fields are read exactly if the settings of each can be. -/
theorem hasResult_listOf {stored : List StoredField}
    (h : FieldInput.IsStrict (stored.map (·.input))) :
    HasResult (listOf (stored.map StoredField.toObj)) ↔
      ∀ f ∈ stored, SettingsReadable f.input.kind f.input.config := by
  rw [listOf, hasResult_bind_pure, hasResult_mapM, List.forall_mem_map]
  refine forall₂_congr fun f hf => ?_
  have hmem : f.input ∈ stored.map (·.input) := List.mem_map_of_mem hf
  exact hasResult_ofStored? (h.isKey _ hmem) (h.ne_empty _ hmem)

end PresentedField

/-- Whether the settings of all fields of a type can be read. -/
def World.FieldsReadable (w : World) (typeId : String) : Prop :=
  ∀ f ∈ w.fieldsOf typeId, SettingsReadable f.input.kind f.input.config

namespace Memory

variable {w : World} {name : String} {t : ContentType}

theorem hasResult_getFields (h : w.RegistrySound) (ht : w.findType? name = some t) :
    HasResult ((getFields name).run w).1 ↔ w.FieldsReadable t.id := by
  rw [run_getFields ht]
  exact PresentedField.hasResult_listOf (h.fields.fieldsOf t.id)

/-- Fields that are in order are stored, and read at once if their settings can be. -/
theorem exists_run_replaceFields {w' : World} {t' : ContentType} {raw : Value}
    {inputs : List FieldInput} (ht : w.findType? name = some t)
    (hinputs : FieldInput.listOf raw = .ok inputs) (hreplaced : w.FieldsReplaced t inputs w')
    (hsound : w'.RegistrySound) (ht' : w'.findType? t.id = some t')
    (hreadable : w'.FieldsReadable t'.id) :
    ∃ shown, (replaceFields name raw).run w = (.ok shown, w') := by
  obtain ⟨shown, hshown⟩ := (hasResult_getFields hsound ht').mpr hreadable
  exact ⟨shown, by rw [run_replaceFields ht hinputs hreplaced,
    (isReadOnly_getFields t.id).run_eq, hshown]⟩

/-- A type with its fields is read under its identifier once it is found. -/
theorem run_getType?_with (ht : w.findType? name = some t) :
    ((getType? name true).run w).1 = do
      let fields ← ((getFields t.id).run w).1
      return some (t.toObj ++ [("fields", .list (fields.map fun f => .obj f.toObj))]) := by
  simp only [getType?, Action.run_bind, Action.run_get, ht, if_true]
  rw [(isReadOnly_getFields t.id).run_eq]
  cases ((getFields t.id).run w).1 <;> rfl

theorem hasResult_getType? (h : w.RegistrySound) (ht : w.findType? name = some t) :
    HasResult ((getType? name true).run w).1 ↔ w.FieldsReadable t.id := by
  have hid := h.types.findType?_id (World.mem_of_findType? ht)
  rw [run_getType?_with ht, hasResult_bind_pure,
    hasResult_getFields h hid]

/-- What has a result when a type is read with its fields is the type. -/
theorem exists_run_getType?_iff (h : w.RegistrySound) (ht : w.findType? name = some t) :
    (∃ o, (getType? name true).run w = (.ok (some o), w)) ↔ w.FieldsReadable t.id := by
  rw [← hasResult_getType? h ht, (isReadOnly_getType? name true).run_eq, run_getType?_with ht]
  constructor
  · rintro ⟨o, hrun⟩
    exact ⟨some o, congrArg Prod.fst hrun⟩
  · rintro ⟨found, hfound⟩
    obtain ⟨fields, -, hshown⟩ := Outcome.bind_eq_ok_iff.mp hfound
    rw [Outcome.pure_eq_ok_iff] at hshown
    exact ⟨_, by rw [hfound, ← hshown]⟩

end Memory

/-- In every world that calls to the registry lead to, and under either of its names, a type is
always found, and it can be read with its fields exactly if the settings of each of them can be. -/
theorem registry_reads_iff {w : World} (h : w.RegistryReached) {t : ContentType}
    (ht : t ∈ w.types) {name : String} (hname : name = t.id ∨ name = t.values.slug) :
    ((Memory.getType? name false).run w).1 = .ok (some t.toObj) ∧
      ((∃ fields, (Memory.getFields name).run w = (.ok fields, w)) ↔ w.FieldsReadable t.id) ∧
      ((∃ o, (Memory.getType? name true).run w = (.ok (some o), w)) ↔ w.FieldsReadable t.id) := by
  have hfind : w.findType? name = some t := by
    rcases hname with rfl | rfl
    · exact h.sound.types.findType?_id ht
    · exact h.sound.types.findType?_slug ht
  refine ⟨?_, ?_, ?_⟩
  · rw [Memory.run_getType?_without, hfind]
    rfl
  · rw [← Memory.hasResult_getFields h.sound hfind]
    refine exists_congr fun fields => ?_
    rw [(Memory.isReadOnly_getFields name).run_eq, Prod.mk.injEq]
    exact and_iff_left rfl
  · exact Memory.exists_run_getType?_iff h.sound hfind

/-! ### Albums with tracks -/

/-- A request for the type of albums. -/
def albumRequest : Value :=
  .obj [("label_singular", .str "Album")]

/-- A request for the fields of albums: rows of tracks, of which there is a least number. -/
def trackFields (least : String) : Value :=
  .list [.obj [("key", .str "tracks"), ("label", .str "Tracks"), ("type", .str "repeater"),
    ("config", .obj [("minRows", .str least)])]]

/-- What is stored of the type of albums. -/
def albumValues : TypeValues := ⟨"albums", .content, "Album", "Albums", "", ""⟩

/-- The type of albums, which is made first. -/
def albumType : ContentType := World.empty.newType albumValues

/-- What is stored of the field of tracks. -/
def trackInput (least : String) : FieldInput :=
  ⟨"tracks", "Tracks", .repeater, false, "", 0, [("minRows", .str least)]⟩

/-- The world in which there is the type of albums, without fields. -/
def albumWorld : World := World.empty.issue.addType albumType

/-- The world in which albums have tracks. -/
def trackWorld (least : String) : World :=
  (albumWorld.issue.putFields albumType.id
    [⟨albumWorld.origin.issue.latest, albumType.id, trackInput least⟩]).putType albumType

theorem prepare_albumRequest : ContentType.prepare albumRequest [] = .ok albumValues :=
  Outcome.eq_ok_of_toOption (by decide +kernel)

theorem registryReached_empty : World.empty.RegistryReached :=
  .start rfl rfl

theorem next_create_albums : (RegistryCall.create albumRequest).next .empty = albumWorld := by
  rw [RegistryCall.next_eq_iff registryReached_empty.sound]
  refine .inl (.create prepare_albumRequest rfl (.left fun items _ hitems => ?_))
  cases hitems

theorem registryReached_albumWorld : albumWorld.RegistryReached :=
  next_create_albums ▸ registryReached_empty.call _

theorem listOf_trackFields (least : String) :
    FieldInput.listOf (trackFields least) = .ok [trackInput least] := by
  cbv

theorem next_replaceFields_tracks (least : String) :
    (RegistryCall.replaceFields "albums" (trackFields least)).next albumWorld =
      trackWorld least := by
  rw [RegistryCall.next_eq_iff registryReached_albumWorld.sound]
  exact .inl (.replaceFields rfl (listOf_trackFields least) (.mk rfl))

theorem registryReached_trackWorld (least : String) : (trackWorld least).RegistryReached :=
  next_replaceFields_tracks least ▸ registryReached_albumWorld.call _

theorem albumType_mem_trackWorld (least : String) : albumType ∈ (trackWorld least).types :=
  List.mem_map.mpr ⟨albumType, List.mem_singleton_self _, if_pos rfl⟩

/-- Tracks are read exactly if the least number of them is not misleading. -/
theorem fieldsReadable_trackWorld_iff (least : String) :
    (trackWorld least).FieldsReadable albumType.id ↔ ¬(Value.str least).IsMisleading := by
  have hfields : (trackWorld least).fieldsOf albumType.id =
      [⟨albumWorld.origin.issue.latest, albumType.id, trackInput least⟩] := rfl
  rw [World.FieldsReadable, hfields, List.forall_mem_singleton]
  refine FieldDef.settingsReadable_repeater_iff.trans ⟨fun h => h.1.minRows, fun h => ⟨?_, ?_⟩⟩
  · exact ⟨h, not_false, not_false, Value.hasText_null, Value.hasText_null, Value.hasText_null,
      fun raw hraw => absurd hraw List.not_mem_nil⟩
  · exact fun sub hsub => absurd hsub List.not_mem_nil

/-- Albums are read if their least number of tracks is a number. -/
theorem albums_read : ∃ w t, World.RegistryReached w ∧ t ∈ w.types ∧ t.values.slug = "albums" ∧
    ∃ fields, (Memory.getFields "albums").run w = (.ok fields, w) := by
  have hnumber : (Value.str "5").toInteger = .ok (some 5) := rfl
  have hreadable := (fieldsReadable_trackWorld_iff "5").mpr
    (Value.hasResult_toInteger.mp ⟨_, hnumber⟩)
  refine ⟨trackWorld "5", albumType, registryReached_trackWorld "5", albumType_mem_trackWorld "5",
    rfl, ?_⟩
  exact (registry_reads_iff (registryReached_trackWorld "5") (albumType_mem_trackWorld "5")
    (.inr rfl)).2.1.mpr hreadable

/-- Albums whose least number of tracks has two dashes are stored, and cannot be read. -/
theorem albums_unread :
    let w := (RegistryCall.replaceFields "albums" (trackFields "--5")).next
      ((RegistryCall.create albumRequest).next .empty)
    w.RegistryReached ∧ (∃ t ∈ w.types, t.values.slug = "albums") ∧
      ¬HasResult ((Memory.getFields "albums").run w).1 ∧
      ¬HasResult ((Memory.getType? "albums" true).run w).1 := by
  have hmisleading : (Value.str "--5").IsMisleading :=
    ⟨2, ['5'], by decide, by decide, .inl (by decide)⟩
  have hunreadable : ¬(trackWorld "--5").FieldsReadable albumType.id := fun h =>
    (fieldsReadable_trackWorld_iff "--5").mp h hmisleading
  have hreached := registryReached_trackWorld "--5"
  have hfind : (trackWorld "--5").findType? "albums" = some albumType :=
    hreached.sound.types.findType?_slug (albumType_mem_trackWorld "--5")
  rw [next_create_albums, next_replaceFields_tracks]
  refine ⟨hreached, ⟨albumType, albumType_mem_trackWorld "--5", rfl⟩, ?_, ?_⟩
  · exact fun h => hunreadable ((Memory.hasResult_getFields hreached.sound hfind).mp h)
  · exact fun h => hunreadable ((Memory.hasResult_getType? hreached.sound hfind).mp h)

end ContentEngine
