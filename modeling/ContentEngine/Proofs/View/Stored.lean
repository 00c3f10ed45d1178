import ContentEngine.Memory.World
import ContentEngine.Proofs.ContentType.Field
import ContentEngine.Proofs.Value.Text
import ContentEngine.View.Change

/-!
# Views as they are stored

What a request makes of a view is complete: it has a label and a slug, and lists each of its roles
once, administrators among them (`EditorView.of_prepare`). What is stored of a view takes the place
of all that has been stored of it before (`EditorView.merge_stored`), and the record of it can
always be read (`StoredView.hasResult_ofRecord`): nothing can go wrong when a view is shown that has
just been stored.
-/

namespace ContentEngine

open Outcome (HasResult hasResult_bind_left hasResult_bind_pure hasResult_mapM)

/-! ### Roles -/

theorem notMem_of_mem_distinctNames {seen names : List String} {name : String}
    (h : name ∈ distinctNames seen names) : name ∉ seen := by
  fun_induction distinctNames seen names with
  | case1 => contradiction
  | case2 seen _ _ _ ih => exact ih h
  | case3 seen first rest hfirst ih =>
    rcases List.mem_cons.mp h with rfl | h
    · exact (not_or.mp hfirst).2
    · exact fun hmem => ih h (List.mem_cons_of_mem first hmem)

theorem nodup_distinctNames (seen names : List String) : (distinctNames seen names).Nodup := by
  fun_induction distinctNames seen names with
  | case1 => exact List.nodup_nil
  | case2 _ _ _ _ ih => exact ih
  | case3 seen first rest _ ih =>
    exact List.nodup_cons.mpr ⟨fun h => notMem_of_mem_distinctNames h List.mem_cons_self, ih⟩

theorem nodup_of_rolesOf {v : Value} {roles : List String} (h : rolesOf v = .ok roles) :
    roles.Nodup := by
  unfold rolesOf at h
  rw [Outcome.bind_eq_ok_iff] at h
  obtain ⟨names, -, h⟩ := h
  rw [Outcome.pure_eq_ok_iff] at h
  exact h ▸ nodup_distinctNames [] names

/-- Texts are names of roles. -/
theorem hasResult_rolesOf_ofTexts (roles : List String) : HasResult (rolesOf (.ofTexts roles)) := by
  have hname : ∀ v ∈ roles.map Value.str, HasResult (roleName v) := by
    intro v hv
    obtain ⟨role, -, rfl⟩ := List.mem_map.mp hv
    rw [roleName, Value.presentText_str]
    exact ⟨_, rfl⟩
  exact hasResult_bind_pure.mpr (hasResult_mapM.mpr hname)

/-! ### Settings -/

theorem hasResult_textOr_of_text {o : Obj} {key text : String} (h : Obj.get o key = .str text)
    (default : String) : HasResult (textOr o key default) := by
  rw [textOr, h]
  exact (Value.hasResult_text_orElse _).mpr (Value.hasText_of_parts_eq_nil rfl trivial)

namespace Obj

/-- Members are written under distinct keys if there have been no other ones. -/
theorem nodup_keys_merge {o : Obj} (h : (keys o).Nodup) (other : Obj) :
    (keys (merge o other)).Nodup := by
  induction other generalizing o with
  | nil => exact h
  | cons member rest ih => exact ih (Table.nodup_keys_set member.1 member.2 h)

end Obj

namespace ViewCore

variable {raw : Value} {core : Obj}

/-- Whether the settings of a view are in the form in which they are stored, as far as reading them
again depends on it. -/
structure IsStrict (core : Obj) : Prop where
  nodup : (Obj.keys core).Nodup
  mode : ∃ text, Obj.get? core "titleMode" = some (.str text)
  template : ∃ text, Obj.get? core "titleTemplate" = some (.str text)

theorem isStrict_of_ofValue (h : ofValue raw = .ok core) : IsStrict core := by
  simp only [ofValue, Outcome.bind_eq_ok_iff, Outcome.pure_eq_ok_iff] at h
  obtain ⟨mode, -, template, -, rfl⟩ := h
  simp only [flags, List.foldl_cons, List.foldl_nil, setFlag]
  refine ⟨?_, ⟨titleMode (lowerText (trim mode)), ?_⟩, ⟨template, ?_⟩⟩
  · repeat refine Table.nodup_keys_set _ _ ?_
    exact Obj.nodup_keys_merge (by decide) _
  · simp [Obj.get?_set]
  · simp [Obj.get?_set]

/-- A text among strict settings stands there when the usual ones have been added. -/
theorem get_merge_usual (h : (Obj.keys core).Nodup) {key text : String}
    (hkey : Obj.get? core key = some (.str text)) :
    Obj.get (Obj.merge usual (core.filter fun member => !member.2.isNull)) key = .str text := by
  have hsub : (core.filter fun member => !member.2.isNull).Sublist core := List.filter_sublist
  have hnodup : (Obj.keys (core.filter fun member => !member.2.isNull)).Nodup :=
    (hsub.map _).nodup h
  have hmem : (key, Value.str text) ∈ core.filter fun member => !member.2.isNull :=
    List.mem_filter.mpr ⟨(Table.mem_iff_get? h).mpr hkey, rfl⟩
  have hget : Obj.get? (core.filter fun member => !member.2.isNull) key = some (.str text) :=
    (Table.mem_iff_get? hnodup).mp hmem
  rw [Obj.get, Obj.get?_merge _ hnodup, hget]
  rfl

/-- Strict settings can be read again. -/
theorem IsStrict.hasResult_ofValue (h : IsStrict core) : HasResult (ofValue (.obj core)) := by
  obtain ⟨mode, hmode⟩ := h.mode
  obtain ⟨template, htemplate⟩ := h.template
  have hmembers : (Value.obj core).members = core := rfl
  rw [ofValue, hmembers, get_merge_usual h.nodup htemplate, Value.presentText_str]
  exact hasResult_bind_pure.mpr
    (hasResult_textOr_of_text (get_merge_usual h.nodup hmode) _)

end ViewCore

/-! ### Sections -/

theorem SectionRef.hasResult_ofValue?_toValue (r : SectionRef) :
    HasResult (ofValue? r.toValue) := by
  have hwidth : FieldRef.width? r.toValue = .ok (some r.width) := rfl
  rw [ofValue?]
  split
  · exact ⟨_, rfl⟩
  · rw [hwidth]
    exact ⟨_, rfl⟩

namespace ViewSection

/-- The members of a section. -/
def members (s : ViewSection) : Obj :=
  [("id", .str s.id), ("title", .str s.title), ("description", .str s.description),
      ("layout", .str s.layout), ("fields", .list (s.refs.map SectionRef.toValue))]
    ++ (s.columns.map fun columns => ("columns", Value.int columns)).toList

theorem hasResult_ofObj_members (index : Nat) (s : ViewSection) :
    HasResult (ofObj index s.members) := by
  have hrefs : HasResult ((s.refs.map SectionRef.toValue).mapM SectionRef.ofValue?) :=
    hasResult_mapM.mpr fun v hv => by
      obtain ⟨r, -, rfl⟩ := List.mem_map.mp hv
      exact r.hasResult_ofValue?_toValue
  have hcolumns : HasResult (Obj.get s.members "columns").toInteger := by
    rcases s with ⟨_, _, _, _, _, _ | columns⟩ <;> exact ⟨_, rfl⟩
  refine (hasResult_bind_left fun id => ?_).mpr (hasResult_textOr_of_text rfl _)
  refine (hasResult_bind_left fun title => ?_).mpr (hasResult_textOr_of_text rfl _)
  refine (hasResult_bind_left fun description => ?_).mpr (hasResult_textOr_of_text rfl _)
  refine (hasResult_bind_left fun layout => ?_).mpr (hasResult_textOr_of_text rfl _)
  refine (hasResult_bind_left fun refs => ?_).mpr hrefs
  exact hasResult_bind_pure.mpr hcolumns

theorem hasResult_listFrom_toValue (index : Nat) (sections : List ViewSection) :
    HasResult (listFrom index (sections.map toValue)) := by
  induction sections generalizing index with
  | nil => exact ⟨_, rfl⟩
  | cons s rest ih =>
    refine (hasResult_bind_left fun item => ?_).mpr (hasResult_ofObj_members index s)
    exact hasResult_bind_pure.mpr (ih (index + 1))

end ViewSection

/-! ### Views -/

namespace EditorView

variable {record request existing : Obj} {view : EditorView}

/-- Whether a view may be stored: it has a label and a slug, and lists each of its roles once,
administrators among them. -/
structure IsComplete (v : EditorView) : Prop where
  label : trim v.label ≠ ""
  slug : v.slug ≠ ""
  slug_chars : ∀ c ∈ v.slug.toList, isWordChar c = true ∨ c = '-'
  roles : v.roles.Nodup
  admin : "ADMIN" ∈ v.roles

theorem nodup_roles_openToAdmin (h : view.roles.Nodup) : view.openToAdmin.roles.Nodup := by
  rw [openToAdmin]
  split
  · exact h
  · next hadmin =>
    rw [List.contains_iff_mem] at hadmin
    refine List.nodup_append.mpr ⟨h, by simp, fun role hrole other hother => ?_⟩
    rw [List.mem_singleton.mp hother]
    exact fun heq => hadmin (heq ▸ hrole)

theorem admin_mem_openToAdmin (view : EditorView) : "ADMIN" ∈ view.openToAdmin.roles := by
  rw [openToAdmin]
  split
  · next hadmin => exact List.contains_iff_mem.mp hadmin
  · exact List.mem_append_right _ (List.mem_singleton_self _)

theorem openToAdmin_eq (view : EditorView) :
    view.openToAdmin = { view with roles := view.openToAdmin.roles } := by
  rw [openToAdmin]
  split <;> rfl

/-- The record that a request is written into: that of the view as it was, or an empty one. -/
def baseRecord (existing : Obj) : Outcome Obj :=
  if existing.isEmpty then .ok [] else toRecord <$> ofRecord existing

/-- What a request makes of a view, step by step. -/
theorem prepare_eq_ok_iff {body : Value} (hbody : body.asObj? = some request) :
    prepare body existing = .ok view ↔ ∃ base label given before,
      baseRecord existing = .ok base ∧ requestedText request base "label" = .ok label ∧
      requestedText request base "slug" = .ok given ∧ label ≠ "" ∧
      slugify (if given = "" then label else given) ≠ "" ∧
      ofRecord (Obj.merge (withParts base request) [("label", .str label),
        ("slug", .str (slugify (if given = "" then label else given)))]) = .ok before ∧
      before.openToAdmin = view := by
  rw [prepare, hbody, baseRecord]
  dsimp only
  -- the view as it was may be none
  split <;>
    simp only [Outcome.throw_bind, Outcome.bind_eq_ok_iff, Outcome.pure_eq_ok_iff, ite_eq_iff,
      reduceCtorEq, and_false, false_or, exists_and_left, ne_eq, Except.ok.injEq]

/-- Only of an object is a view made. -/
theorem exists_asObj?_of_prepare {body : Value} (h : prepare body existing = .ok view) :
    ∃ request, body.asObj? = some request := by
  rw [prepare] at h
  split at h
  · exact absurd h Outcome.throw_ne_ok
  · next request hbody => exact ⟨request, hbody⟩

/-- A request makes a view of a record with a label and a slug. -/
theorem exists_ofRecord_of_prepare {request : Value} (h : prepare request existing = .ok view) :
    ∃ parts label given before, trim label ≠ "" ∧ slugify given ≠ "" ∧
      ofRecord (Obj.merge parts [("label", .str (trim label)), ("slug", .str (slugify given))]) =
        .ok before ∧ view = before.openToAdmin := by
  obtain ⟨o, ho⟩ := exists_asObj?_of_prepare h
  obtain ⟨base, label, given, before, -, hlabel, -, hne, hslug, hbefore, rfl⟩ :=
    (prepare_eq_ok_iff ho).mp h
  simp only [requestedText, Outcome.bind_eq_ok_iff, Outcome.pure_eq_ok_iff] at hlabel
  obtain ⟨text, -, rfl⟩ := hlabel
  exact ⟨_, text, _, before, hne, hslug, hbefore, rfl⟩

/-- What a view is read as takes its label, its slug and its roles from the record. -/
theorem of_ofRecord (h : ofRecord record = .ok view) :
    (Obj.get record "slug").presentText = .ok view.slug ∧
      ((Obj.get record "label").orElse (Obj.get record "slug")).presentText = .ok view.label ∧
      view.roles.Nodup ∧ ViewCore.IsStrict view.core := by
  simp only [ofRecord, Outcome.bind_eq_ok_iff, Outcome.pure_eq_ok_iff] at h
  obtain ⟨config, -, core, hcore, sections, -, priority, -, slug, hslug, label, hlabel, roles,
    hroles, defaultRoles, -, rfl⟩ := h
  exact ⟨hslug, hlabel, nodup_of_rolesOf hroles, ViewCore.isStrict_of_ofValue hcore⟩

/-- The sections of a view are read from the first list of sections that its record carries. -/
theorem mapM_sectionsIn?_of_ofRecord (h : ofRecord record = .ok view) :
    ∃ config, viewConfig (Obj.get record "config") = .ok config ∧
      (sectionsIn? config record).mapM (ViewSection.listFrom 0) = .ok view.sections := by
  simp only [ofRecord, Outcome.bind_eq_ok_iff, Outcome.pure_eq_ok_iff] at h
  obtain ⟨config, hconfig, core, -, sections, hsections, priority, -, slug, -, label, -, roles, -,
    defaultRoles, -, rfl⟩ := h
  exact ⟨config, hconfig, hsections⟩

theorem mapM_sectionsOf?_of_ofRecord (h : ofRecord record = .ok view) :
    ∃ listed, sectionsOf? (.obj record) = .ok listed ∧
      listed.mapM (ViewSection.listFrom 0) = .ok view.sections := by
  obtain ⟨config, hconfig, hread⟩ := mapM_sectionsIn?_of_ofRecord h
  refine ⟨sectionsIn? config record, ?_, hread⟩
  rw [sectionsOf?, Value.asObj?]
  dsimp only
  rw [hconfig]
  rfl

/-- A label and a slug that a record has been given are those of the view. -/
theorem of_ofRecord_merge {parts : Obj} {label slug : String} (hlabel : label ≠ "")
    (h : ofRecord (Obj.merge parts [("label", .str label), ("slug", .str slug)]) = .ok view) :
    view.label = label ∧ view.slug = slug := by
  have hnodup : (Obj.keys [("label", Value.str label), ("slug", .str slug)]).Nodup := by
    simp [Obj.keys, Table.keys]
  have hget := Obj.get?_merge parts hnodup
  generalize Obj.merge parts [("label", Value.str label), ("slug", .str slug)] = record at h hget
  have hgetLabel : Obj.get record "label" = .str label := by
    rw [Obj.get, hget]
    rfl
  have hgetSlug : Obj.get record "slug" = .str slug := by
    rw [Obj.get, hget]
    rfl
  obtain ⟨hslug, hlabel', -⟩ := of_ofRecord h
  rw [hgetSlug, Value.presentText_str, Except.ok.injEq] at hslug
  rw [hgetLabel, Value.orElse, if_pos (Value.truthy_str hlabel), Value.presentText_str,
    Except.ok.injEq] at hlabel'
  exact ⟨hlabel'.symm, hslug.symm⟩

/-- What a request makes of a view is complete, and its settings are strict. -/
theorem of_prepare {request : Value} (h : prepare request existing = .ok view) :
    view.IsComplete ∧ ViewCore.IsStrict view.core := by
  obtain ⟨parts, text, given, before, htext, hgiven, hbefore, rfl⟩ := exists_ofRecord_of_prepare h
  obtain ⟨hlabel, hslug⟩ := of_ofRecord_merge htext hbefore
  obtain ⟨-, -, hroles, hcore⟩ := of_ofRecord hbefore
  refine ⟨⟨?_, ?_, ?_, nodup_roles_openToAdmin hroles, admin_mem_openToAdmin before⟩, ?_⟩ <;>
    rw [openToAdmin_eq]
  · rw [hlabel, trim_trim]
    exact htext
  · rw [hslug]
    exact hgiven
  · intro c hc
    rw [hslug, slugify, slugOf, String.toList_ofList] at hc
    exact isWordChar_of_mem_joinWords hc
  · exact hcore

/-! ### What is stored of a view -/

/-- What is stored of a view takes the place of what has been stored of a view. -/
theorem merge_stored (before after : EditorView) :
    Obj.merge before.stored after.stored = after.stored := by
  rfl

theorem sectionsIn?_toRecord (view : EditorView) :
    sectionsIn? view.config view.toRecord = view.sections.map (·.map ViewSection.toValue) := by
  rw [config]
  cases hsections : view.sections with
  | none => rfl
  | some items => rfl

/-- The record of a view whose settings are strict can be read. -/
theorem hasResult_ofRecord_toRecord (h : ViewCore.IsStrict view.core) :
    HasResult (ofRecord view.toRecord) := by
  have hcore : HasResult (ViewCore.ofValue (Obj.get view.config "core")) := h.hasResult_ofValue
  have hsections : HasResult
      ((sectionsIn? view.config view.toRecord).mapM (ViewSection.listFrom 0)) := by
    rw [sectionsIn?_toRecord]
    cases view.sections with
    | none => exact ⟨_, rfl⟩
    | some items =>
      obtain ⟨again, hagain⟩ := ViewSection.hasResult_listFrom_toValue 0 items
      rw [Option.map_some, Option.mapM_some, hagain]
      exact ⟨some again, rfl⟩
  have hpriority : HasResult ((Obj.get? view.toRecord "priority").getD
      (Obj.get view.config "priority")).toInteger := ⟨_, rfl⟩
  have hslug : HasResult (Obj.get view.toRecord "slug").presentText := ⟨_, Value.presentText_str _⟩
  have hlabel : HasResult ((Obj.get view.toRecord "label").orElse
      (Obj.get view.toRecord "slug")).presentText := by
    rw [Value.orElse]
    split <;> exact ⟨_, Value.presentText_str _⟩
  have hconfig : viewConfig (Obj.get view.toRecord "config") = .ok view.config := rfl
  rw [ofRecord, hconfig, Outcome.ok_bind]
  refine (hasResult_bind_left fun core => ?_).mpr hcore
  refine (hasResult_bind_left fun sections => ?_).mpr hsections
  refine (hasResult_bind_left fun priority => ?_).mpr hpriority
  refine (hasResult_bind_left fun slug => ?_).mpr hslug
  refine (hasResult_bind_left fun label => ?_).mpr hlabel
  refine (hasResult_bind_left fun roles => ?_).mpr (hasResult_rolesOf_ofTexts view.roles)
  exact hasResult_bind_pure.mpr (hasResult_rolesOf_ofTexts view.defaultRoles)

end EditorView

/-- What has been stored of a view whose settings are strict can be read. -/
theorem StoredView.hasResult_ofRecord {v : StoredView} {view : EditorView}
    (hvalues : v.values = view.stored) (hcore : ViewCore.IsStrict view.core) :
    HasResult (EditorView.ofRecord v.toObj) := by
  have hrecord : v.toObj = EditorView.toRecord { view with
      id := .str v.id
      contentTypeId := .str v.typeId
      createdAt := .str v.createdAt
      updatedAt := .str v.updatedAt } := by
    rw [toObj, hvalues]
    rfl
  rw [hrecord]
  exact EditorView.hasResult_ofRecord_toRecord hcore

end ContentEngine
