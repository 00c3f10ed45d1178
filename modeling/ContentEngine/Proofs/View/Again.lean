import ContentEngine.Proofs.Json.Text
import ContentEngine.Proofs.Title
import ContentEngine.Proofs.View.Layout

/-!
# Views that are read again

What a request makes of a view is settled (`EditorView.isSettled_of_prepare`): its label is trimmed,
its slug spells itself, and its roles, its settings and its sections are read as themselves. So the
record of such a view is read as the view that it is the record of (`EditorView.ofRecord_toRecord`),
and a request that asks for nothing makes the same view of it once more
(`EditorView.prepare_nothing`). What any record is read as is in normal form
(`EditorView.isNormal_of_ofRecord`), which is enough for its own record to be read as the view.
-/

namespace ContentEngine

/-! ### Roles -/

/-- Whether a text is the name of a role as it is kept: it is not empty, trimmed and in upper
case. -/
def IsRoleName (role : String) : Prop :=
  role ≠ "" ∧ upperText (trim role) = role

theorem of_mem_distinctNames {seen names : List String} {name : String}
    (h : name ∈ distinctNames seen names) : name ∈ names ∧ name ≠ "" := by
  fun_induction distinctNames seen names with
  | case1 => contradiction
  | case2 seen first rest _ ih => exact (ih h).imp_left (List.mem_cons_of_mem first)
  | case3 seen first rest hfirst ih =>
    rcases List.mem_cons.mp h with rfl | h
    · exact ⟨List.mem_cons_self, (not_or.mp hfirst).1⟩
    · exact (ih h).imp_left (List.mem_cons_of_mem first)

theorem distinctNames_eq_self {seen names : List String} (hnodup : names.Nodup)
    (hne : ∀ name ∈ names, name ≠ "" ∧ name ∉ seen) : distinctNames seen names = names := by
  induction names generalizing seen with
  | nil => rfl
  | cons first rest ih =>
    rw [List.forall_mem_cons] at hne
    rw [List.nodup_cons] at hnodup
    rw [distinctNames, if_neg (not_or.mpr hne.1), ih hnodup.2]
    intro name hname
    obtain ⟨hempty, hseen⟩ := hne.2 name hname
    refine ⟨hempty, fun hmem => ?_⟩
    rcases List.mem_cons.mp hmem with rfl | hmem
    · exact hnodup.1 hname
    · exact hseen hmem

theorem isRoleName_of_mem_rolesOf {v : Value} {roles : List String} (h : rolesOf v = .ok roles)
    {role : String} (hrole : role ∈ roles) : IsRoleName role := by
  simp only [rolesOf, Outcome.bind_eq_ok_iff, Outcome.pure_eq_ok_iff] at h
  obtain ⟨names, hnames, rfl⟩ := h
  obtain ⟨hmem, hne⟩ := of_mem_distinctNames hrole
  obtain ⟨item, -, hitem⟩ := Outcome.exists_of_mem_mapM hnames hmem
  simp only [roleName, Outcome.bind_eq_ok_iff, Outcome.pure_eq_ok_iff] at hitem
  obtain ⟨text, -, rfl⟩ := hitem
  exact ⟨hne, by rw [trim_upperText_trim, upperText_upperText]⟩

/-- Distinct names of roles are read as themselves. -/
theorem rolesOf_ofTexts {roles : List String} (hnodup : roles.Nodup)
    (hnames : ∀ role ∈ roles, IsRoleName role) : rolesOf (.ofTexts roles) = .ok roles := by
  have hread : (roles.map Value.str).mapM roleName = .ok roles := by
    rw [List.mapM_map, Outcome.mapM_eq_ok_map (g := id) fun role hrole => ?_, List.map_id]
    rw [Function.comp_apply, roleName, Value.presentText_str, Outcome.ok_bind,
      (hnames role hrole).2]
    rfl
  have hdistinct : distinctNames [] roles = roles :=
    distinctNames_eq_self hnodup fun role hrole => ⟨(hnames role hrole).1, List.not_mem_nil⟩
  have hitems : rolesOf (.ofTexts roles) = do
      return distinctNames [] (← (roles.map Value.str).mapM roleName) := rfl
  rw [hitems, hread, Outcome.ok_bind, hdistinct]
  rfl

/-! ### Settings -/

namespace ViewCore

variable {raw : Value} {core : Obj}

/-- Whether settings have no gaps: the usual ones come first, and none is null. -/
structure IsFilled (core : Obj) : Prop where
  keys : Obj.keys usual <+: Obj.keys core
  nodup : (Obj.keys core).Nodup
  notNull : ∀ member ∈ core, member.2.isNull = false

theorem IsFilled.set (h : IsFilled core) (key : String) {v : Value} (hv : v.isNull = false) :
    IsFilled (Obj.set core key v) where
  keys := by
    have hgrows : Table.keys core <+: Table.keys (Table.set core key v) := by
      cases hkey : Table.has core key with
      | true => exact (Table.keys_set_of_has v hkey).symm ▸ List.prefix_rfl
      | false =>
        rw [Table.keys_set_of_not_has v hkey]
        exact List.prefix_append _ _
    exact h.keys.trans hgrows
  nodup := Table.nodup_keys_set key v h.nodup
  notNull member hmember := by
    rcases Obj.mem_set hmember with rfl | hmember
    · exact hv
    · exact h.notNull member hmember

theorem IsFilled.merge (h : IsFilled core) {members : Obj}
    (hmembers : ∀ member ∈ members, member.2.isNull = false) :
    IsFilled (Obj.merge core members) := by
  induction members generalizing core with
  | nil => exact h
  | cons first rest ih =>
    rw [List.forall_mem_cons] at hmembers
    exact ih (h.set first.1 hmembers.1) hmembers.2

theorem isFilled_usual : IsFilled usual where
  keys := List.prefix_rfl
  nodup := by decide
  notNull := by
    simp only [usual, List.forall_mem_cons]
    exact ⟨rfl, rfl, rfl, rfl, rfl, rfl, rfl, rfl, rfl, rfl, nofun⟩

/-- The usual settings add nothing to settings without gaps. -/
theorem IsFilled.merge_usual (h : IsFilled core) :
    Obj.merge usual ((Value.obj core).members.filter fun member => !member.2.isNull) = core := by
  have hfilter : core.filter (fun member => !member.2.isNull) = core :=
    List.filter_eq_self.mpr fun member hmember => by rw [h.notNull member hmember]; rfl
  exact (congrArg (Obj.merge usual) hfilter).trans (Obj.merge_of_prefix h.keys h.nodup)

/-- Whether settings are in the form in which they are stored. -/
structure IsSettled (core : Obj) : Prop extends IsFilled core where
  mode : ∃ name, Obj.get? core "titleMode" = some (.str (titleMode name))
  template : ∃ text, Obj.get? core "titleTemplate" = some (.str text)
  flag : ∀ key ∈ flags, ∃ b, Obj.get? core key = some (.bool b)
  slug : ∃ b, Obj.get? core "autoSlugFromTitleIfEmpty" = some (.bool b)

theorem isSettled_of_ofValue (h : ofValue raw = .ok core) : IsSettled core := by
  simp only [ofValue, Outcome.bind_eq_ok_iff, Outcome.pure_eq_ok_iff] at h
  obtain ⟨mode, -, template, -, rfl⟩ := h
  have hgiven : ∀ member ∈ raw.members.filter fun member => !member.2.isNull,
      member.2.isNull = false := fun member hmember => by
    simpa using (List.mem_filter.mp hmember).2
  have hfilled := isFilled_usual.merge hgiven
  simp only [flags, List.foldl_cons, List.foldl_nil, setFlag]
  refine { toIsFilled := ?_, mode := ⟨lowerText (trim mode), ?_⟩, template := ⟨template, ?_⟩,
           flag := ?_, slug := ?_ }
  · repeat refine IsFilled.set ?_ _ rfl
    exact hfilled
  · simp [Obj.get?_set]
  · simp [Obj.get?_set]
  · simp [flags, Obj.get?_set]
  · simp [Obj.get?_set]

theorem titleMode_titleMode (name : String) :
    titleMode (lowerText (trim (titleMode name))) = titleMode name := by
  rw [titleMode.eq_def name]
  split <;> decide +kernel

theorem setFlag_eq_self {key : String} {b : Bool} (h : Obj.get? core key = some (.bool b)) :
    setFlag core key = core := by
  have htruthy : (Obj.get core key).truthy = b := by
    rw [Obj.get, h]
    rfl
  rw [setFlag, htruthy]
  exact Table.set_of_get? h

theorem foldl_setFlag_eq_self {keys : List String}
    (h : ∀ key ∈ keys, ∃ b, Obj.get? core key = some (.bool b)) :
    keys.foldl setFlag core = core := by
  induction keys with
  | nil => rfl
  | cons key rest ih =>
    rw [List.forall_mem_cons] at h
    obtain ⟨⟨b, hb⟩, hrest⟩ := h
    rw [List.foldl_cons, setFlag_eq_self hb, ih hrest]

/-- Settled settings are read as themselves. -/
theorem IsSettled.ofValue_eq (h : IsSettled core) : ofValue (.obj core) = .ok core := by
  obtain ⟨name, hmode⟩ := h.mode
  obtain ⟨text, htemplate⟩ := h.template
  obtain ⟨b, hslug⟩ := h.slug
  have hgetMode : Obj.get core "titleMode" = .str (titleMode name) := by rw [Obj.get, hmode]; rfl
  have hgetTemplate : Obj.get core "titleTemplate" = .str text := by rw [Obj.get, htemplate]; rfl
  have hgetSlug : Obj.get core "autoSlugFromTitleIfEmpty" = .bool b := by rw [Obj.get, hslug]; rfl
  have hne : titleMode name ≠ "" := by
    rw [titleMode]
    split <;> decide
  have hnotFalse : (!(Value.bool b).isFalse) = b := by cases b <;> rfl
  have hsetMode : Obj.set core "titleMode" (.str (titleMode name)) = core := Table.set_of_get? hmode
  have hsetTemplate : Obj.set core "titleTemplate" (.str text) = core :=
    Table.set_of_get? htemplate
  have hsetSlug : Obj.set core "autoSlugFromTitleIfEmpty" (.bool b) = core :=
    Table.set_of_get? hslug
  rw [ofValue, h.merge_usual, textOr_of_text hgetMode fun hempty => absurd hempty hne,
    Outcome.ok_bind, hgetTemplate, Value.presentText_str, Outcome.ok_bind, titleMode_titleMode]
  dsimp only
  rw [hsetMode, hsetTemplate, foldl_setFlag_eq_self h.flag, hgetSlug, hnotFalse, hsetSlug]
  rfl

end ViewCore

/-! ### Sections -/

namespace SectionRef

variable {ref : Value} {r : SectionRef}

/-- A reference with a name and a width of at least one is read as itself. -/
theorem ofValue?_toValue (htrim : trim r.key = r.key) (hne : r.key ≠ "") (hwidth : 0 < r.width) :
    ofValue? r.toValue = .ok (some r) := by
  have hread : FieldRef.width? r.toValue = .ok (some r.width) := rfl
  have hkept : (some r.width).filter (0 < ·) = some r.width := by simp [hwidth]
  rw [ofValue?, key_toValue htrim hne, if_neg hne, hread, Outcome.ok_bind, hkept,
    isHidden_toValue]
  rfl

/-- A reference that has been read is read as itself. -/
theorem ofValue?_toValue_of_ofValue? (h : ofValue? ref = .ok (some r)) :
    ofValue? r.toValue = .ok (some r) := by
  rw [ofValue?] at h
  split at h
  · cases h
  · next hne =>
    simp only [Outcome.bind_eq_ok_iff, Outcome.pure_eq_ok_iff, Option.some.injEq] at h
    obtain ⟨width, -, rfl⟩ := h
    refine ofValue?_toValue (FieldRef.trim_key ref) hne ?_
    cases hpositive : width.filter (0 < ·) with
    | none => exact Int.one_pos
    | some n => exact of_decide_eq_true (Option.filter_eq_some_iff.mp hpositive).2

end SectionRef

namespace ViewSection

variable {s : ViewSection} {index : Nat} {o : Obj}

/-- A section that has been read is read as itself, whatever its place. -/
theorem IsReadOf.ofObj_members (h : s.IsReadOf index o) (place : Nat) :
    ofObj place s.members = .ok s := by
  obtain ⟨found, hfound, hrefs⟩ := h.refs
  obtain ⟨given, -, hgiven⟩ := h.columns
  have hagain : (s.refs.map SectionRef.toValue).mapM SectionRef.ofValue? =
      .ok (s.refs.map some) := by
    rw [List.mapM_map]
    refine Outcome.mapM_eq_ok_map fun r hr => ?_
    rw [hrefs, List.mem_filterMap] at hr
    obtain ⟨first, hfirst, hsome⟩ := hr
    obtain ⟨ref, -, hread⟩ := Outcome.exists_of_mem_mapM hfound hfirst
    rw [hsome] at hread
    rw [Function.comp_apply, SectionRef.ofValue?_toValue_of_ofValue? hread]
  have hlist : Obj.getList s.members "fields" = s.refs.map SectionRef.toValue := rfl
  have hdescription : textOr s.members "description" "" = .ok s.description :=
    textOr_of_text rfl fun _ => rfl
  have hlayout : textOr s.members "layout" "one-column" = .ok s.layout :=
    textOr_of_text rfl fun hempty => absurd hempty (ne_empty_of_textOr h.layout (by decide))
  have hcolumns : (Obj.get s.members "columns").toInteger = .ok s.columns := by
    rcases s with ⟨_, _, _, _, _, _ | columns⟩ <;> rfl
  have hpositive : s.columns.filter (0 < ·) = s.columns := by
    rw [hgiven, Option.filter_filter]
    simp
  have hsome : (s.refs.map some).filterMap (fun r => r) = s.refs := by simp
  rw [ofObj, h.textOr_id, Outcome.ok_bind, h.textOr_title, Outcome.ok_bind, hdescription,
    Outcome.ok_bind, hlayout, Outcome.ok_bind, hlist, hagain, Outcome.ok_bind, hcolumns,
    Outcome.ok_bind, hpositive, hsome]
  rfl

/-- Sections that have been read are read as themselves. -/
theorem listFrom_toValue {raws : List Value} {sections : List ViewSection}
    (h : listFrom index raws = .ok sections) (place : Nat) :
    listFrom place (sections.map toValue) = .ok sections := by
  induction raws generalizing index place sections with
  | nil =>
    rw [listFrom, Except.ok.injEq] at h
    rw [← h]
    rfl
  | cons raw rest ih =>
    rw [listFrom] at h
    split at h
    · exact ih h place
    · simp only [Outcome.bind_eq_ok_iff, Outcome.pure_eq_ok_iff] at h
      obtain ⟨first, hfirst, others, hothers, rfl⟩ := h
      have hagain := (isReadOf_of_ofObj hfirst).ofObj_members place
      have hobj : first.toValue.asObj? = some first.members := rfl
      rw [List.map_cons, listFrom, hobj]
      dsimp only
      rw [hagain, Outcome.ok_bind, ih hothers (place + 1)]
      rfl

end ViewSection

/-! ### Views -/

/-- Where a value or the one that stands in for it shows as nothing, the latter does. -/
theorem Value.presentText_of_orElse_empty {v other : Value}
    (h : (v.orElse other).presentText = .ok "") : other.presentText = .ok "" := by
  rw [orElse] at h
  split at h
  · next htruthy =>
    rw [presentText, if_pos htruthy] at h
    exact absurd rfl (text_ne_empty htruthy h)
  · exact h

namespace EditorView

variable {record existing : Obj} {request : Value} {view : EditorView}

/-- Whether a view is in the form in which it is stored. -/
structure IsSettled (v : EditorView) : Prop where
  label : trim v.label = v.label
  label_ne : v.label ≠ ""
  slug : slugify v.slug = v.slug
  slug_ne : v.slug ≠ ""
  roles : rolesOf (.ofTexts v.roles) = .ok v.roles
  admin : "ADMIN" ∈ v.roles
  defaultRoles : rolesOf (.ofTexts v.defaultRoles) = .ok v.defaultRoles
  core : ViewCore.ofValue (.obj v.core) = .ok v.core
  sections : ∀ items, v.sections = some items →
    ViewSection.listFrom 0 (items.map ViewSection.toValue) = .ok items

/-- Whether a view is in the form in which a record is read: only a view without a slug has no
label, and its roles, its settings and its sections are read as themselves. -/
structure IsNormal (v : EditorView) : Prop where
  slug_of_label : v.label = "" → v.slug = ""
  roles : rolesOf (.ofTexts v.roles) = .ok v.roles
  defaultRoles : rolesOf (.ofTexts v.defaultRoles) = .ok v.defaultRoles
  core : ViewCore.ofValue (.obj v.core) = .ok v.core
  sections : ∀ items, v.sections = some items →
    ViewSection.listFrom 0 (items.map ViewSection.toValue) = .ok items

theorem IsSettled.isNormal (h : view.IsSettled) : view.IsNormal where
  slug_of_label hlabel := absurd hlabel h.label_ne
  roles := h.roles
  defaultRoles := h.defaultRoles
  core := h.core
  sections := h.sections

/-- The label of a view is read as itself, also where the slug stands in for it. -/
theorem IsNormal.presentText_label (h : view.IsNormal) :
    ((Obj.get view.toRecord "label").orElse
      (Obj.get view.toRecord "slug")).presentText = .ok view.label := by
  have hget : Obj.get view.toRecord "label" = .str view.label := rfl
  have hgetSlug : Obj.get view.toRecord "slug" = .str view.slug := rfl
  rw [hget, hgetSlug]
  by_cases hlabel : view.label = ""
  · rw [h.slug_of_label hlabel, hlabel]
    rfl
  · rw [Value.orElse, if_pos (Value.truthy_str hlabel), Value.presentText_str]

/-- The record of a view in normal form is read as the view. -/
theorem IsNormal.ofRecord_toRecord (h : view.IsNormal) : ofRecord view.toRecord = .ok view := by
  have hconfig : viewConfig (Obj.get view.toRecord "config") = .ok view.config := rfl
  have hcore : ViewCore.ofValue (Obj.get view.config "core") = .ok view.core := h.core
  have hsections : (sectionsIn? view.config view.toRecord).mapM (ViewSection.listFrom 0) =
      .ok view.sections := by
    rw [sectionsIn?_toRecord]
    cases hitems : view.sections with
    | none => rfl
    | some items =>
      rw [Option.map_some, Option.mapM_some, h.sections items hitems]
      rfl
  have hpriority : ((Obj.get? view.toRecord "priority").getD
      (Obj.get view.config "priority")).toInteger = .ok (some view.priority) := rfl
  have hslug : (Obj.get view.toRecord "slug").presentText = .ok view.slug :=
    Value.presentText_str _
  have hroles : rolesOf ((Obj.get view.toRecord "roles").orIfNull
      (Obj.get view.config "roles")) = .ok view.roles := h.roles
  have hdefaultRoles : rolesOf ((Obj.get view.toRecord "default_roles").orIfNull
      (Obj.get view.config "default_roles")) = .ok view.defaultRoles := h.defaultRoles
  rw [ofRecord, hconfig, Outcome.ok_bind, hcore, Outcome.ok_bind, hsections, Outcome.ok_bind,
    hpriority, Outcome.ok_bind, hslug, Outcome.ok_bind, h.presentText_label, Outcome.ok_bind,
    hroles, Outcome.ok_bind, hdefaultRoles, Outcome.ok_bind]
  rfl

/-- The record of a settled view is read as the view. -/
theorem ofRecord_toRecord (h : view.IsSettled) : ofRecord view.toRecord = .ok view :=
  h.isNormal.ofRecord_toRecord

/-- The roles, the settings and the sections of a view that has been read have been read, too. -/
theorem parts_of_ofRecord (h : ofRecord record = .ok view) :
    (∃ v, rolesOf v = .ok view.roles) ∧ (∃ v, rolesOf v = .ok view.defaultRoles) ∧
      (∃ raw, ViewCore.ofValue raw = .ok view.core) ∧
      ∀ items, view.sections = some items → ∃ raws, ViewSection.listFrom 0 raws = .ok items := by
  obtain ⟨config, -, hsections⟩ := mapM_sectionsIn?_of_ofRecord h
  simp only [ofRecord, Outcome.bind_eq_ok_iff, Outcome.pure_eq_ok_iff] at h
  obtain ⟨_, -, core, hcore, sections, -, priority, -, slug, -, label, -, roles, hroles,
    defaultRoles, hdefaultRoles, rfl⟩ := h
  refine ⟨⟨_, hroles⟩, ⟨_, hdefaultRoles⟩, ⟨_, hcore⟩, fun items hitems => ?_⟩
  rw [hitems] at hsections
  cases hraws : sectionsIn? config record with
  | none =>
    rw [hraws] at hsections
    cases hsections
  | some raws =>
    rw [hraws] at hsections
    obtain ⟨_, hread, ⟨⟩⟩ := Outcome.mapM_some_eq_ok_iff.mp hsections
    exact ⟨raws, hread⟩

/-- What a record is read as is in normal form. -/
theorem isNormal_of_ofRecord (h : ofRecord record = .ok view) : view.IsNormal := by
  obtain ⟨hslug, hlabel, -, -⟩ := of_ofRecord h
  obtain ⟨⟨v, hroles⟩, ⟨v', hdefaultRoles⟩, ⟨raw, hcore⟩, hsections⟩ := parts_of_ofRecord h
  exact {
    slug_of_label := fun hempty => by
      rw [hempty] at hlabel
      rw [Value.presentText_of_orElse_empty hlabel, Except.ok.injEq] at hslug
      exact hslug.symm
    roles := rolesOf_ofTexts (nodup_of_rolesOf hroles)
      fun role hrole => isRoleName_of_mem_rolesOf hroles hrole
    defaultRoles := rolesOf_ofTexts (nodup_of_rolesOf hdefaultRoles)
      fun role hrole => isRoleName_of_mem_rolesOf hdefaultRoles hrole
    core := (ViewCore.isSettled_of_ofValue hcore).ofValue_eq
    sections := fun items hitems => by
      obtain ⟨raws, hraws⟩ := hsections items hitems
      exact ViewSection.listFrom_toValue hraws 0 }

/-- Reading a view is idempotent. In whatever shape a record holds a view, the record of the view
that it is read as is read as that view. -/
theorem normal_form_read_as_itself (h : ofRecord record = .ok view) :
    ofRecord view.toRecord = .ok view :=
  (isNormal_of_ofRecord h).ofRecord_toRecord

theorem mem_roles_openToAdmin {role : String} (h : role ∈ view.openToAdmin.roles) :
    role ∈ view.roles ∨ role = "ADMIN" := by
  rw [openToAdmin] at h
  split at h
  · exact .inl h
  · exact (List.mem_append.mp h).imp_right List.mem_singleton.mp

/-- What a request makes of a view is settled. -/
theorem isSettled_of_prepare (h : prepare request existing = .ok view) : view.IsSettled := by
  obtain ⟨parts, text, given, before, htext, hgiven, hbefore, rfl⟩ := exists_ofRecord_of_prepare h
  obtain ⟨hlabel, hslug⟩ := of_ofRecord_merge htext hbefore
  obtain ⟨⟨v, hroles⟩, -, -, -⟩ := parts_of_ofRecord hbefore
  have hnormal := isNormal_of_ofRecord hbefore
  have hnames : ∀ role ∈ before.openToAdmin.roles, IsRoleName role := by
    intro role hrole
    rcases mem_roles_openToAdmin hrole with hrole | rfl
    · exact isRoleName_of_mem_rolesOf hroles hrole
    · exact ⟨by decide, by decide +kernel⟩
  have hadmin := admin_mem_openToAdmin before
  have hnodup := nodup_roles_openToAdmin (nodup_of_rolesOf hroles)
  rw [openToAdmin_eq]
  exact {
    label := by rw [hlabel, trim_trim]
    label_ne := hlabel ▸ htext
    slug := by rw [hslug, slugify_slugify]
    slug_ne := hslug ▸ hgiven
    roles := rolesOf_ofTexts hnodup hnames
    admin := hadmin
    defaultRoles := hnormal.defaultRoles
    core := hnormal.core
    sections := hnormal.sections }

/-- A text that a request gives counts. -/
theorem requestedText_of_given {o base : Obj} {key text : String}
    (h : Obj.get o key = .str text) (hne : text ≠ "") :
    requestedText o base key = .ok (trim text) := by
  rw [requestedText, h, Value.orElse, if_pos (Value.truthy_str hne), Value.presentText_str]
  rfl

/-- Where a request gives nothing, the text there has been counts. -/
theorem requestedText_of_missing {o base : Obj} {key text : String}
    (h : Obj.get o key = .null) (hbase : Obj.get base key = .str text) :
    requestedText o base key = .ok (trim text) := by
  have hkept : Value.null.orElse (.str text) = .str text := rfl
  rw [requestedText, h, hbase, hkept, Value.presentText_str]
  rfl

/-- A request that asks for nothing makes a settled view of its record once more. -/
theorem prepare_nothing (h : view.IsSettled) : prepare (.obj []) view.toRecord = .ok view := by
  have hread : (toRecord <$> ofRecord view.toRecord : Outcome Obj) = .ok view.toRecord := by
    rw [ofRecord_toRecord h]
    rfl
  have hlabel : requestedText [] view.toRecord "label" = .ok view.label := by
    rw [requestedText_of_missing rfl rfl, h.label]
  have htrim : trim view.slug = view.slug := by
    rw [← h.slug]
    exact (isSlugText_slugify _).trim_eq
  have hslug : requestedText [] view.toRecord "slug" = .ok view.slug := by
    rw [requestedText_of_missing rfl rfl, htrim]
  have hmerge : Obj.merge (withParts view.toRecord [])
      [("label", .str view.label), ("slug", .str view.slug)] = view.toRecord := rfl
  have hopen : view.openToAdmin = view := if_pos (List.contains_iff_mem.mpr h.admin)
  have hobj : (Value.obj []).asObj? = some [] := rfl
  have hempty : ¬view.toRecord.isEmpty = true := Bool.false_ne_true
  rw [prepare, hobj]
  dsimp only
  rw [if_neg hempty, hread, Outcome.ok_bind, hlabel, Outcome.ok_bind, hslug, Outcome.ok_bind,
    if_neg h.slug_ne, h.slug, if_neg h.label_ne, if_neg h.slug_ne, hmerge, ofRecord_toRecord h,
    Outcome.ok_bind, hopen]
  rfl

end EditorView

namespace StoredView

variable {v : StoredView} {view : EditorView}

/-- Whether what is stored is a settled view. -/
def IsSettled (v : StoredView) : Prop :=
  ∃ view : EditorView, v.values = view.stored ∧ view.IsSettled

/-- The record of a stored view is that of the view, and a request that asks for nothing makes of it
what is stored. -/
theorem IsSettled.prepare_nothing (h : v.IsSettled) :
    ∃ view : EditorView, view.toRecord = v.toObj ∧ view.stored = v.values ∧ view.IsSettled ∧
      EditorView.prepare (.obj []) v.toObj = .ok view := by
  obtain ⟨view, hvalues, hview⟩ := h
  have hsettled : EditorView.IsSettled { view with
      id := .str v.id
      contentTypeId := .str v.typeId
      createdAt := .str v.createdAt
      updatedAt := .str v.updatedAt } := { hview with }
  have hrecord : v.toObj = EditorView.toRecord { view with
      id := .str v.id
      contentTypeId := .str v.typeId
      createdAt := .str v.createdAt
      updatedAt := .str v.updatedAt } := by
    rw [toObj, hvalues]
    rfl
  exact ⟨_, hrecord.symm, hvalues.symm, hsettled,
    by rw [hrecord, EditorView.prepare_nothing hsettled]⟩

end StoredView

/-! ### A view in an older shape -/

/-- A record of a view whose configuration is a text, whose sections stand beside it, and whose
roles and priority stand in it. -/
def olderRecord : Obj :=
  [("slug", .str "main"),
    ("widgets", .list [.null, .obj [("fields", .list [.str " body "]), ("columns", .str "2")]]),
    ("config", .str ("\x7b\"core\":\x7b\"titleMode\":\" Template \",\"titleLabel\":null\x7d,"
      ++ "\"roles\":[\"editor\",\" Editor\"],\"priority\":\"7\"\x7d"))]

/-- The record of the view is in another shape, and is read as the same view. -/
theorem older_record_read : ∃ view, EditorView.ofRecord olderRecord = .ok view ∧
    view.label = "main" ∧ view.roles = ["EDITOR"] ∧ view.priority = 7 ∧
    view.sections =
      some [⟨"widget-2", "Widget 2", "", "one-column", [⟨"body", 1, false⟩], some 2⟩] ∧
    EditorView.ofRecord view.toRecord = .ok view := by
  have hread : (EditorView.ofRecord olderRecord).toOption.map (fun view =>
      (view.label, view.roles, view.priority, view.sections)) = some ("main", ["EDITOR"], 7,
        some [⟨"widget-2", "Widget 2", "", "one-column", [⟨"body", 1, false⟩], some 2⟩]) := by
    decide +kernel
  obtain ⟨view, hview, hparts⟩ := Option.map_eq_some_iff.mp hread
  have hview := Outcome.eq_ok_of_toOption hview
  simp only [Prod.mk.injEq] at hparts
  obtain ⟨hlabel, hroles, hpriority, hsections⟩ := hparts
  exact ⟨view, hview, hlabel, hroles, hpriority, hsections,
    EditorView.normal_form_read_as_itself hview⟩

end ContentEngine
