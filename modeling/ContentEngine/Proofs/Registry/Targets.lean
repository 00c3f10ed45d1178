import ContentEngine.Proofs.Field.Again
import ContentEngine.Proofs.Registry.Replace
import ContentEngine.Service.Options

/-!
# Targets of relations

A relation may name its target in its configuration, in many shapes, or beside it, as a member of
the declaration itself. The strict form of a declaration keeps the configuration and drops what
stands beside it. So the target that a configuration names is found again in the strict form,
wherever it has stood, while a target that is named only beside the configuration is lost
(`relation_target_kept_iff`).
-/

namespace ContentEngine

namespace Relation

variable {raw read : Value} {config c : Obj} {configured : Option String}

/-! ### Where a target may be named -/

/-- A declaration that has the configuration of another one, and nothing else. -/
def configOnly (raw : Value) : Value :=
  .obj [("config", .obj (fieldConfig raw))]

/-- Where a configuration may name the target. -/
def inConfig (config : Obj) : List Value :=
  relationKeys.map (Obj.get (Obj.getObj config "relation")) ++
    ["relatedType", "contentType", "targetType", "target"].map (Obj.get config)

/-- Where a declaration may name its target beside the configuration. -/
def besideConfig (raw : Value) : List Value :=
  ["relatedType", "contentType"].map (Obj.get raw.members)

theorem candidates_configOnly (raw : Value) :
    candidates (configOnly raw) = inConfig (fieldConfig raw) ++ [.null, .null] := by
  rw [configOnly, candidates_obj, inConfig, List.append_assoc]
  rfl

/-- What stands beside the configuration is asked last. -/
theorem target?_eq (raw : Value) : target? raw = target? (configOnly raw) >>= fun found =>
    found.elim (firstSlug? (besideConfig raw)) fun slug => .ok (some slug) := by
  have hraw : candidates raw = inConfig (fieldConfig raw) ++ besideConfig raw := rfl
  have hnull : firstSlug? [.null, .null] = .ok none := rfl
  rw [target?, target?, hraw, candidates_configOnly, firstSlug?_append, firstSlug?_append, hnull,
    bind_assoc]
  refine Outcome.bind_congr fun found _ => ?_
  cases found <;> rfl

/-- Whether a value that has been read of a declaration names the target that the declaration
names in its configuration; that is the target of the declaration itself exactly if there is one, or
if none is named beside the configuration either. -/
structure IsTargetOf (configured : Option String) (raw read : Value) : Prop where
  named : target? (configOnly raw) = .ok configured
  found : target? read = .ok configured
  kept : target? read = target? raw ↔
    configured ≠ none ∨ firstSlug? (besideConfig raw) = .ok none

/-- What names nothing beside a configuration in strict form has the target of the configuration
that has been given. -/
theorem exists_isTargetOf (h : normalConfig (fieldConfig raw) = .ok (fieldConfig read))
    (hbeside : besideConfig read = [.null, .null]) :
    ∃ configured, IsTargetOf configured raw read := by
  obtain ⟨configured, hnamed, -⟩ := normalConfig_eq_ok_iff.mp h
  have hfound : target? read = .ok configured := by
    rw [target?_eq, configOnly, target?_normalConfig h, hnamed, hbeside]
    cases configured <;> rfl
  refine ⟨configured, hnamed, hfound, ?_⟩
  rw [hfound, target?_eq raw, configOnly, hnamed]
  cases configured with
  | some slug => exact iff_of_true rfl (.inl (Option.some_ne_none slug))
  | none => exact eq_comm.trans (or_iff_right fun hne => hne rfl).symm

/-! ### What is offered -/

/-- Only the target is written into a configuration. -/
theorem get_normalConfig (h : normalConfig config = .ok c) {key : String}
    (hkey : key ≠ "relatedType") : Obj.get c key = Obj.get config key := by
  obtain ⟨found, -, rfl⟩ := normalConfig_eq_ok_iff.mp h
  cases found with
  | none => rfl
  | some slug => rw [Option.elim_some, Obj.get, Obj.get?_set, if_neg hkey, Obj.get]

theorem inlineFields_normalConfig (h : normalConfig config = .ok c) (fields : List Obj) :
    inlineFields fields c = inlineFields fields config := by
  rw [inlineFields, inlineFields, Obj.getObj, get_normalConfig h (by decide), Obj.getObj]

end Relation

namespace Service

variable {σ : Type} {read : Value} {config : Obj} {target : Option String}

/-- What is offered for a relation with a target: the entries of the target, and those of its fields
that a configuration lets be edited in place. Without a target there is nothing. -/
def targetOptions (s : Stores σ) (target : Option String) (config : Obj) : Action σ Obj := do
  let found ←
    match target with
    | some slug => s.findType slug
    | none => pure none
  match found with
  | none => return [("options", .list []), ("inlineFields", .list [])]
  | some t =>
    let options ← entryOptions s (target.getD "")
    let fields ← s.fieldsOf (recordId t)
    let inline ← (Relation.inlineFields (fields.map fun f => f.toObj) config : Outcome (List Obj))
    return [("options", .list options), ("inlineFields", .list (inline.map .obj))]

/-- The options of a relation in strict form are those of its target, and what may be edited in
place is what the configuration that has been given allows. -/
theorem fieldOptions_of_relation (s : Stores σ) {o : Obj} (ho : read.asObj? = some o)
    (hkind : Obj.get o "type" = .str "relation") (htarget : Relation.target? read = .ok target)
    (hconfig : Relation.normalConfig config = .ok (fieldConfig read)) :
    fieldOptions s read = targetOptions s target config := by
  have hsource : Relation.choiceSource? read = .ok none := by
    rw [Relation.choiceSource?, ho]
    dsimp only
    rw [hkind]
    rfl
  have htype : (Obj.get read.members "type").isText "relation" = true := by
    rw [Value.members, ho, Option.getD_some, hkind]
    rfl
  have hrelation : relationOptions s read = targetOptions s target (fieldConfig read) := by
    rw [relationOptions, htarget]
    rfl
  have hoptions : fieldOptions s read = relationOptions s read := by
    rw [fieldOptions, hsource]
    exact if_pos htype
  rw [hoptions, hrelation]
  simp only [targetOptions, Relation.inlineFields_normalConfig hconfig]

end Service

/-! ### What is kept -/

theorem FieldDef.normalConfig_of_relation {f : FieldDef} {config : Obj} (hkind : f.kind = .relation)
    (h : FieldDef.normalConfig f.kind config = .ok f.config) :
    Relation.normalConfig config = .ok f.config := by
  rw [hkind] at h
  exact h

/-- What is read and offered for a field that is made of the declaration of a relation: it has the
target that the declaration names in its configuration, and offers the entries of that. -/
structure PresentedField.OffersTargetOf (p : PresentedField) (raw : Value)
    (configured : Option String) : Prop where
  target : Relation.IsTargetOf configured raw (.obj p.toObj)
  offers {σ : Type} (s : Stores σ) :
    Service.fieldOptions s (.obj p.toObj) =
      Service.targetOptions s configured (fieldConfig raw)

theorem PresentedField.IsMadeOf.exists_offersTargetOf {p : PresentedField} {raw : Value}
    {index : Nat} (h : p.IsMadeOf raw index)
    (hkind : FieldKind.ofValue (Obj.get raw.members "type") = .ok .relation) :
    ∃ configured, p.OffersTargetOf raw configured := by
  obtain ⟨o, ho, hform⟩ := h.form
  rw [Value.members, ho, Option.getD_some, hform.kind, Except.ok.injEq] at hkind
  have hread : fieldConfig (.obj p.toObj) = p.definition.config :=
    fieldConfig_of_config rfl rfl rfl
  have hconfig : Relation.normalConfig (fieldConfig raw) = .ok (fieldConfig (.obj p.toObj)) := by
    rw [fieldConfig_of_asObj? ho, hread]
    exact FieldDef.normalConfig_of_relation hkind hform.config
  obtain ⟨configured, htarget⟩ := Relation.exists_isTargetOf hconfig rfl
  refine ⟨configured, htarget, fun s => ?_⟩
  refine Service.fieldOptions_of_relation s rfl ?_ htarget.found hconfig
  exact congrArg (fun kind => Value.str kind.name) hkind

/-- The strict form of the declaration of a relation has the target that the declaration names in
its configuration, and so has the field that is read after it has been stored, which offers the
entries of that target. A target that is named beside the configuration counts for the declaration
only, if the configuration names none. -/
theorem relation_target_kept_iff {raw : Value}
    (hkind : FieldKind.ofValue (Obj.get raw.members "type") = .ok .relation) :
    (∀ index f, FieldDef.ofValue? raw index = .ok (some f) →
      ∃ configured, Relation.IsTargetOf configured raw f.toValue) ∧
    ∀ w : World, w.RegistryReached → ∀ t ∈ w.types, ∀ name, name = t.id ∨ name = t.values.slug →
      ∀ (items : List Value) (i : Nat), items[i]? = some raw → ∀ shown w',
        (Memory.replaceFields name (.list items)).run w = (.ok shown, w') →
          (Memory.getFields name).run w' = (.ok shown, w') ∧
          ∃ p ∈ shown, p.IsMadeOf raw i ∧ ∃ configured, p.OffersTargetOf raw configured := by
  constructor
  · intro index f hread
    obtain ⟨o, ho, -, hfkind, hconfig⟩ := FieldDef.exists_of_ofValue? hread
    rw [Value.members, ho, Option.getD_some, hfkind, Except.ok.injEq] at hkind
    refine Relation.exists_isTargetOf ?_ rfl
    rw [FieldDef.fieldConfig_toValue]
    exact FieldDef.normalConfig_of_relation hkind hconfig
  · intro w hw t ht name hname items i hraw shown w' hrun
    have hreplaced := World.isReplaced_of_run hw ht hname hrun
    obtain ⟨made, hperm, hlength, hmade⟩ := hreplaced.made
    have hlt : i < made.length := hlength ▸ (List.getElem?_eq_some_iff.mp hraw).1
    have hp := hmade i raw made[i] hraw (List.getElem?_eq_getElem hlt)
    exact ⟨hreplaced.read name hname, made[i], hperm.mem_iff.mpr (List.getElem_mem hlt), hp,
      hp.exists_offersTargetOf hkind⟩

/-! ### Albums with an artist -/

/-- The configuration by which albums name the type of artists, in an older shape. -/
def artistConfig : Obj :=
  [("contentType", .obj [("slug", .str "artists")])]

/-- A declaration of the artist of an album, with one member that names the type of artists. -/
def artistItem (naming : String × Value) : Value :=
  .obj [("fieldKey", .str "Artist"), ("label", .str "Artist"), ("type", .str "relationship"),
    naming]

/-- The field that is read of it, with the given configuration. -/
def artistField (config : Obj) : FieldDef :=
  ⟨.null, "artist", "Artist", .relation, false, "", 0, config⟩

/-- What is stored of it. -/
def artistInput : FieldInput :=
  ⟨"artist", "Artist", .relation, false, "", 0, artistConfig⟩

/-- The world in which albums have an artist. -/
def artistWorld : World :=
  (albumWorld.issue.putFields albumType.id
    [⟨albumWorld.origin.issue.latest, albumType.id, artistInput⟩]).putType albumType

theorem run_replaceFields_artist : ∃ shown,
    (Memory.replaceFields "albums" (.list [artistItem ("options", .obj artistConfig)])).run
      albumWorld = (.ok shown, artistWorld) := by
  have hinputs : FieldInput.listOf (.list [artistItem ("options", .obj artistConfig)]) =
      .ok [artistInput] := by
    cbv
  have hfind : albumWorld.findType? "albums" = some albumType := rfl
  have hfind' : artistWorld.findType? albumType.id = some albumType := rfl
  have hreplaced : albumWorld.FieldsReplaced albumType [artistInput] artistWorld := .mk rfl
  have hnext : (RegistryCall.replaceFields "albums"
      (.list [artistItem ("options", .obj artistConfig)])).next albumWorld = artistWorld := by
    rw [RegistryCall.next_eq_iff registryReached_albumWorld.sound]
    exact .inl (.replaceFields hfind hinputs hreplaced)
  have hreached : artistWorld.RegistryReached := hnext ▸ registryReached_albumWorld.call _
  have hreadable : artistWorld.FieldsReadable albumType.id := by
    rintro f (_ | ⟨_, hf⟩)
    · exact .plain (by decide) (Relation.hasResult_normalConfig.mp ⟨_, rfl⟩)
    · contradiction
  exact Memory.exists_run_replaceFields hfind hinputs hreplaced hreached.sound hfind' hreadable

/-- The artists that the configuration names are still the target of the strict form, and are
offered for the field that has been stored. -/
theorem artists_offered :
    (∃ f, FieldDef.ofValue? (artistItem ("options", .obj artistConfig)) 0 = .ok (some f) ∧
      Relation.target? f.toValue = .ok (some "artists")) ∧
    ∃ shown, (Memory.replaceFields "albums" (.list [artistItem ("options", .obj artistConfig)])).run
        albumWorld = (.ok shown, artistWorld) ∧
      ∃ p ∈ shown, Service.fieldOptions Memory.stores (.obj p.toObj) =
        Service.targetOptions Memory.stores (some "artists") artistConfig := by
  have hread : FieldDef.ofValue? (artistItem ("options", .obj artistConfig)) 0 =
      .ok (some (artistField (artistConfig ++ [("relatedType", .str "artists")]))) := by
    cbv
  have hkind : FieldKind.ofValue
      (Obj.get (artistItem ("options", .obj artistConfig)).members "type") = .ok .relation := rfl
  obtain ⟨hstrict, hstored⟩ := relation_target_kept_iff hkind
  obtain ⟨target, htarget⟩ := hstrict _ _ hread
  obtain rfl := Except.ok.inj htarget.named
  obtain ⟨shown, hrun⟩ := run_replaceFields_artist
  obtain ⟨-, p, hp, -, configured, hoffers⟩ := hstored albumWorld registryReached_albumWorld
    albumType (List.mem_singleton_self _) "albums" (.inr rfl) _ 0 rfl shown artistWorld hrun
  obtain rfl := Except.ok.inj hoffers.target.named
  exact ⟨⟨_, hread, htarget.found⟩, shown, hrun, p, hp, hoffers.offers Memory.stores⟩

/-- Artists that are named beside the configuration are the target of the declaration, and not of
its strict form. -/
theorem artists_lost : ∃ f,
    FieldDef.ofValue? (artistItem ("relatedType", .str "artists")) 0 = .ok (some f) ∧
      f.kind = .relation ∧
      Relation.target? (artistItem ("relatedType", .str "artists")) = .ok (some "artists") ∧
      Relation.target? f.toValue = .ok none := by
  have hread : FieldDef.ofValue? (artistItem ("relatedType", .str "artists")) 0 =
      .ok (some (artistField [])) := by
    cbv
  exact ⟨_, hread, rfl, rfl, rfl⟩

end ContentEngine
