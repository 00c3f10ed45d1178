import ContentEngine.Memory.World
import ContentEngine.Proofs.Entry.Again

/-!
# The fields of a content type

The fields that a request describes have keys in their one form, and no two of them share a key
(`FieldInput.keys_of_listFrom`). When they are read, each keeps its key and its kind
(`PresentedField.perm_of_listOf`), so that the data of an entry is looked at under the same keys
(`Entry.keyedFields_presented`).
-/

namespace ContentEngine

theorem Value.truthy_str {text : String} (h : text ≠ "") : (Value.str text).truthy = true :=
  bne_iff_ne.mpr h

theorem Value.presentText_str (text : String) : (Value.str text).presentText = .ok text := by
  rw [presentText]
  split
  · rfl
  · next hempty =>
    have htext : text = "" := by simpa [truthy] using hempty
    rw [htext]

theorem Value.snakeCase_str (text : String) :
    (Value.str text).snakeCase = .ok (ContentEngine.snakeCase text) := by
  rw [Value.snakeCase, Value.presentText_str]
  rfl

theorem Value.snakeCase_str_of_isKey {key : String} (h : IsKey key) :
    (Value.str key).snakeCase = .ok key := by
  rw [Value.snakeCase_str, h.snakeCase_eq]

/-- A key is read from the first of some members whose value counts as present. -/
theorem Obj.snakeCase_firstTruthy {o : Obj} {name key : String} {names : List String}
    (hget : Obj.get o name = .str key) (hkey : IsKey key) (hne : key ≠ "") :
    (Obj.firstTruthy o (name :: names)).snakeCase = .ok key := by
  have hfirst : Obj.firstTruthy o (name :: names) = .str key := by
    rw [Obj.firstTruthy, hget, if_pos (Value.truthy_str hne)]
  rw [hfirst, Value.snakeCase_str_of_isKey hkey]

/-- The name of a kind stands for the kind. -/
theorem FieldKind.ofValue_name (kind : FieldKind) : ofValue (.str kind.name) = .ok kind := by
  have hall : ∀ kind ∈ all, (ofValue (.str kind.name)).toOption = some kind := by decide +kernel
  exact Outcome.eq_ok_of_toOption (hall kind (by cases kind <;> decide))

/-! ### Fields that are requested -/

namespace FieldInput

variable {index : Nat} {seen : List String} {o : Obj} {f : FieldInput} {inputs : List FieldInput}

theorem key_of_ofObj (h : ofObj index seen o = .ok f) :
    IsKey f.key ∧ f.key ≠ "" ∧ f.key ∉ seen := by
  simp only [ofObj, Outcome.bind_eq_ok_iff] at h
  obtain ⟨key, hkey, h⟩ := h
  simp only [Outcome.throw_bind, ite_eq_iff, reduceCtorEq, and_false, false_or] at h
  obtain ⟨hne, -, hseen, h⟩ := h
  simp only [Outcome.bind_eq_ok_iff, Outcome.pure_eq_ok_iff] at h
  obtain ⟨order, -, kind, -, rfl⟩ := h
  exact ⟨isKey_of_snakeCase hkey, hne, by simpa using hseen⟩

/-- The fields that requests describe have keys in their one form, which differ from each other and
from all that have been seen before. -/
theorem keys_of_listFrom {raws : List Value} (h : listFrom index seen raws = .ok inputs) :
    (∀ f ∈ inputs, IsKey f.key ∧ f.key ≠ "" ∧ f.key ∉ seen) ∧ (inputs.map (·.key)).Nodup := by
  induction raws generalizing index seen inputs with
  | nil =>
    rw [listFrom, Except.ok.injEq] at h
    subst h
    simp
  | cons raw rest ih =>
    rw [listFrom] at h
    split at h
    · exact absurd h Outcome.throw_ne_ok
    · simp only [Outcome.bind_eq_ok_iff, Outcome.pure_eq_ok_iff] at h
      obtain ⟨field, hfield, others, hothers, rfl⟩ := h
      obtain ⟨hkeys, hnodup⟩ := ih hothers
      constructor
      · rintro f (_ | ⟨_, hf⟩)
        · exact key_of_ofObj hfield
        · obtain ⟨hkey, hne, hfresh⟩ := hkeys f hf
          exact ⟨hkey, hne, fun hmem => hfresh (List.mem_cons_of_mem _ hmem)⟩
      · rw [List.map_cons, List.nodup_cons]
        refine ⟨fun hmem => ?_, hnodup⟩
        -- what follows the field has seen its key
        obtain ⟨f, hf, heq⟩ := List.mem_map.mp hmem
        exact (hkeys f hf).2.2 (heq ▸ List.mem_cons_self)

/-- Whether some fields have keys in their one form, none of which is used twice. -/
structure IsStrict (fields : List FieldInput) : Prop where
  isKey : ∀ f ∈ fields, IsKey f.key
  ne_empty : ∀ f ∈ fields, f.key ≠ ""
  nodup : (fields.map (·.key)).Nodup

theorem isStrict_nil : IsStrict [] := ⟨by simp, by simp, List.nodup_nil⟩

theorem isStrict_of_listOf {raw : Value} (h : listOf raw = .ok inputs) : IsStrict inputs := by
  rw [listOf] at h
  split at h
  · contradiction
  · obtain ⟨hkeys, hnodup⟩ := keys_of_listFrom h
    exact ⟨fun f hf => (hkeys f hf).1, fun f hf => (hkeys f hf).2.1, hnodup⟩

end FieldInput

/-! ### Fields that are read -/

/-- What a declaration says about a key and a kind that it spells out. -/
theorem FieldDef.header?_eq_ok {o : Obj} {index : Int} {key : String} {kind : FieldKind}
    {header : Option FieldDef} (hget : Obj.get o "field_key" = .str key) (hkey : IsKey key)
    (hne : key ≠ "") (hkind : Obj.get o "type" = .str kind.name)
    (h : header? o index = .ok header) :
    header.map (fun f => (f.key, f.kind)) = some (key, kind) := by
  rw [header?, Obj.snakeCase_firstTruthy hget hkey hne, Outcome.ok_bind, if_neg hne, hkind,
    FieldKind.ofValue_name, Outcome.ok_bind, Outcome.bind_eq_ok_iff] at h
  obtain ⟨order, -, h⟩ := h
  -- the label may be missing; neither the key nor the kind depends on it
  simp only at h
  split at h <;>
  · simp only [Outcome.bind_eq_ok_iff, Outcome.pure_eq_ok_iff] at h
    obtain ⟨label, -, help, -, rfl⟩ := h
    rfl

namespace PresentedField

/-- A stored field is read with the key and the kind that it is stored with. -/
theorem of_ofStored? {stored : Obj} {key : String} {kind : FieldKind}
    {found : Option PresentedField} (hget : Obj.get stored "field_key" = .str key)
    (hkey : IsKey key) (hne : key ≠ "") (hkind : Obj.get stored "type" = .str kind.name)
    (h : ofStored? stored = .ok found) :
    ∃ p, found = some p ∧ p.definition.key = key ∧ p.definition.kind = kind := by
  simp only [ofStored?, Outcome.bind_eq_ok_iff, Outcome.pure_eq_ok_iff] at h
  obtain ⟨order, -, definition, hdefinition, rfl⟩ := h
  obtain ⟨header, hheader, hsame⟩ := FieldDef.header_of_ofValue? rfl hdefinition
  rw [FieldDef.header?_eq_ok hget hkey hne hkind hheader, Option.map_eq_some_iff] at hsame
  obtain ⟨d, rfl, hboth⟩ := hsame
  rw [Prod.mk.injEq] at hboth
  exact ⟨_, rfl, hboth.1, hboth.2⟩

/-- Stored fields are read in another order, but each with its key and its kind. -/
theorem perm_of_listOf {stored : List StoredField} {fields : List PresentedField}
    (hstored : FieldInput.IsStrict (stored.map (·.input)))
    (h : listOf (stored.map StoredField.toObj) = .ok fields) :
    (fields.map fun p => (p.definition.key, p.definition.kind)).Perm
      (stored.map fun f => (f.input.key, f.input.kind)) := by
  simp only [listOf, Outcome.bind_eq_ok_iff, Outcome.pure_eq_ok_iff] at h
  obtain ⟨found, hfound, rfl⟩ := h
  have hkeys : ∀ f ∈ stored, IsKey f.input.key ∧ f.input.key ≠ "" := fun f hf =>
    ⟨hstored.isKey _ (List.mem_map_of_mem hf), hstored.ne_empty _ (List.mem_map_of_mem hf)⟩
  have hmap : (found.filterMap fun p => p).map (fun p => (p.definition.key, p.definition.kind)) =
      stored.map fun f => (f.input.key, f.input.kind) := by
    clear hstored
    induction stored generalizing found with
    | nil =>
      rw [List.map_nil, List.mapM_nil, Outcome.pure_eq_ok_iff] at hfound
      subst hfound
      rfl
    | cons f rest ih =>
      simp only [List.map_cons, List.mapM_cons, Outcome.bind_eq_ok_iff,
        Outcome.pure_eq_ok_iff] at hfound
      obtain ⟨first, hfirst, others, hothers, rfl⟩ := hfound
      rw [List.forall_mem_cons] at hkeys
      obtain ⟨p, rfl, hkey, hkind⟩ := of_ofStored? rfl hkeys.1.1 hkeys.1.2 rfl hfirst
      have hsome : (some p :: others).filterMap (fun p => p) = p :: others.filterMap fun p => p :=
        rfl
      rw [hsome, List.map_cons, List.map_cons, ih others hothers hkeys.2, hkey, hkind]
  rw [inOrder, ← hmap]
  exact (List.mergeSort_perm _ _).map _

/-- Stored fields are read with keys in their one form, none of which is used twice. -/
theorem keys_of_listOf {stored : List StoredField} {fields : List PresentedField}
    (hstored : FieldInput.IsStrict (stored.map (·.input)))
    (h : listOf (stored.map StoredField.toObj) = .ok fields) :
    (∀ p ∈ fields, IsKey p.definition.key ∧ p.definition.key ≠ "") ∧
      (fields.map fun p => p.definition.key).Nodup := by
  have hkeys := (perm_of_listOf hstored h).map Prod.fst
  have hnodup := hstored.nodup
  rw [List.map_map, List.map_map] at hkeys
  rw [List.map_map] at hnodup
  refine ⟨fun p hp => ?_, hkeys.nodup_iff.mpr hnodup⟩
  obtain ⟨f, hf, hkey⟩ := List.mem_map.mp (hkeys.mem_iff.mp (List.mem_map_of_mem hp))
  have hinput : f.input ∈ stored.map (·.input) := List.mem_map_of_mem hf
  have hsame : f.input.key = p.definition.key := hkey
  rw [← hsame]
  exact ⟨hstored.isKey _ hinput, hstored.ne_empty _ hinput⟩

end PresentedField

namespace Entry

/-- Fields in their strict form are looked at under their keys. -/
theorem keyedFields_presented {fields : List PresentedField}
    (hkeys : ∀ p ∈ fields, IsKey p.definition.key ∧ p.definition.key ≠ "") :
    keyedFields (.list (fields.map fun p => .obj p.toObj)) =
      .ok (fields.map fun p => (p.definition.key, p.toObj)) := by
  have hobjects : (fields.map fun p => Value.obj p.toObj).filterMap Value.asObj? =
      fields.map fun p => p.toObj := by
    rw [List.filterMap_map, ← List.filterMap_eq_map]
    rfl
  have hkeyed : (fields.map fun p => p.toObj).mapM
      (fun field => do return (← fieldKey field, field)) =
      (.ok (fields.map fun p => (p.definition.key, p.toObj)) : Outcome (List (String × Obj))) := by
    rw [List.mapM_map]
    refine Outcome.mapM_eq_ok_map fun p hp => ?_
    have hkey : fieldKey p.toObj = .ok p.definition.key :=
      Obj.snakeCase_firstTruthy rfl (hkeys p hp).1 (hkeys p hp).2
    rw [Function.comp_apply, hkey]
    rfl
  have hfilter : (fields.map fun p => (p.definition.key, p.toObj)).filter (fun e => e.1 != "") =
      fields.map fun p => (p.definition.key, p.toObj) := by
    refine List.filter_eq_self.mpr fun entry hentry => ?_
    obtain ⟨p, hp, rfl⟩ := List.mem_map.mp hentry
    exact bne_iff_ne.mpr (hkeys p hp).2
  have hitems : (Value.list (fields.map fun p => .obj p.toObj)).asItems?.getD [] =
      fields.map fun p => .obj p.toObj := rfl
  rw [keyedFields, hitems, hobjects, hkeyed, Outcome.ok_bind, hfilter]
  rfl

variable {mail : Format.MailReader} {stored : List StoredField} {fields : List PresentedField}
variable {v : Value} {out : Obj}

/-- The fields of a type are looked at under distinct keys. -/
theorem keyedFields_of_listOf (hstored : FieldInput.IsStrict (stored.map (·.input)))
    (hfields : PresentedField.listOf (stored.map StoredField.toObj) = .ok fields) :
    keyedFields (.list (fields.map fun p => .obj p.toObj)) =
        .ok (fields.map fun p => (p.definition.key, p.toObj)) ∧
      ((fields.map fun p => (p.definition.key, p.toObj)).map (·.1)).Nodup := by
  obtain ⟨hkeys, hnodup⟩ := PresentedField.keys_of_listOf hstored hfields
  refine ⟨keyedFields_presented hkeys, ?_⟩
  rw [List.map_map]
  exact hnodup

/-- What has been stored for an entry of a type is stored again as it is, if mail addresses are,
exactly if no web address that a field of the type declares is unsettled. -/
theorem normalDataWith_presented_iff
    (hmail : ∀ v w, Format.canonicalEmailWith mail v = .ok w →
      Format.canonicalEmailWith mail w = .ok w)
    (hstored : FieldInput.IsStrict (stored.map (·.input)))
    (hfields : PresentedField.listOf (stored.map StoredField.toObj) = .ok fields)
    (h : normalDataWith mail (.list (fields.map fun p => .obj p.toObj)) v = .ok out) :
    normalDataWith mail (.list (fields.map fun p => .obj p.toObj)) (.obj out) = .ok out ↔
      ∀ f ∈ stored, f.input.kind = .url →
        ∀ w, Obj.get? out f.input.key = some w → Format.isUnsettledUrl w = false := by
  obtain ⟨hkeyed, hnodup⟩ := keyedFields_of_listOf hstored hfields
  have hkind : ∀ p : PresentedField,
      FieldKind.ofValue (Obj.get p.toObj "type") = .ok p.definition.kind := fun p =>
    FieldKind.ofValue_name p.definition.kind
  rw [normalDataWith_settled_iff hmail hkeyed hnodup h, List.forall_mem_map]
  simp only [hkind, Except.ok.injEq]
  -- each field that is read is a stored one with its key and its kind
  have hperm := PresentedField.perm_of_listOf hstored hfields
  constructor
  · intro hurls f hf hurl
    have hmem := hperm.mem_iff.mpr (List.mem_map_of_mem hf)
    simp only [List.mem_map, Prod.mk.injEq] at hmem
    obtain ⟨p, hp, hkey, hsame⟩ := hmem
    rw [← hkey]
    exact hurls p hp (hsame.trans hurl)
  · intro hurls p hp hurl
    have hmem := hperm.mem_iff.mp (List.mem_map_of_mem hp)
    simp only [List.mem_map, Prod.mk.injEq] at hmem
    obtain ⟨f, hf, hkey, hsame⟩ := hmem
    rw [← hkey]
    exact hurls f hf (hsame.trans hurl)

end Entry

end ContentEngine
