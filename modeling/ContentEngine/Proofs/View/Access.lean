import ContentEngine.Proofs.View.First
import ContentEngine.Proofs.View.Parts
import Mathlib.Data.List.Nodup

/-!
# Who may use a view

A view that lists no roles is open to all (`listsRole_ofTexts`). A request makes the view that it
describes and opens it to administrators, which shuts nobody out exactly if the view lists a role
already (`EditorView.access_kept_iff`). The view in effect for a role is one of the views, and one
that the role may use if there is any; a view that is asked for by its slug and that the role may
use is the one in effect (`EditorView.view_in_effect`).
-/

namespace ContentEngine

open Outcome (HasResult)

/-! ### Listed roles -/

/-- Only a text is the same as a text. -/
theorem Value.same_str_iff {v : Value} {text : String} :
    v.same (.str text) = true ↔ v = .str text := by
  cases v with
  | str s => simp [same, sameScalar]
  | list _ | tuple _ | set _ | obj _ | table _ => simp [same]
  | _ => simp [same, sameScalar, magnitude?]

/-- Names of roles let through those that they are, and everyone if there are none. -/
theorem listsRole_ofTexts {roles : List String} {role : Value} :
    listsRole (.ofTexts roles) role = true ↔ roles = [] ∨ ∃ name ∈ roles, role = .str name := by
  cases roles with
  | nil => simp [listsRole, Value.ofTexts, Value.truthy]
  | cons first rest =>
    have hlists : listsRole (.ofTexts (first :: rest)) role =
        ((first :: rest).map Value.str).any role.same := rfl
    rw [hlists, List.any_eq_true]
    simp [Value.same_str_iff]

namespace EditorView

variable {body : Value} {existing : Obj} {view before : EditorView}

/-- A role may use a view exactly if the roles that its record lists let it through. -/
theorem listsRole_toRecord (v : EditorView) (role : String) :
    listsRole (Obj.get v.toRecord "roles") (.str role) = v.allows role := by
  have hget : Obj.get v.toRecord "roles" = .ofTexts v.roles := rfl
  rw [hget, Bool.eq_iff_iff, listsRole_ofTexts, allows]
  simp

/-! ### Opening a view to administrators -/

/-- The view that a request describes: what the view as it was is read as when the parts of the
request have been written into it. -/
def merged (request existing : Obj) : Outcome EditorView := do
  let base ← baseRecord existing
  let label ← requestedText request base "label"
  let given ← requestedText request base "slug"
  let slug := slugify (if given = "" then label else given)
  ofRecord (Obj.merge (withParts base request) [("label", .str label), ("slug", .str slug)])

/-- What a request makes is the view that it describes, opened to administrators. -/
theorem exists_merged_of_prepare (h : prepare body existing = .ok view) :
    ∃ before, merged body.members existing = .ok before ∧ before.openToAdmin = view := by
  obtain ⟨request, hbody⟩ := exists_asObj?_of_prepare h
  obtain ⟨base, label, given, before, hbase, hlabel, hgiven, -, -, hbefore, hview⟩ :=
    (prepare_eq_ok_iff hbody).mp h
  refine ⟨before, ?_, hview⟩
  rw [Value.members, hbody, Option.getD_some, merged, hbase, Outcome.ok_bind, hlabel,
    Outcome.ok_bind, hgiven, Outcome.ok_bind, hbefore]

theorem mem_roles_openToAdmin_iff {name : String} :
    name ∈ view.openToAdmin.roles ↔ name = "ADMIN" ∨ name ∈ view.roles := by
  refine ⟨fun h => (mem_roles_openToAdmin h).symm, ?_⟩
  rintro (rfl | h)
  · exact admin_mem_openToAdmin view
  · rw [openToAdmin]
    split
    · exact h
    · exact List.mem_append_left _ h

/-- A view that has been opened to administrators lets through those and the roles that it listed
before. -/
theorem listsRole_openToAdmin {role : Value} :
    listsRole (Obj.get before.openToAdmin.stored "roles") role = true ↔
      role = .str "ADMIN" ∨
        before.roles ≠ [] ∧ listsRole (Obj.get before.toRecord "roles") role = true := by
  have hafter : Obj.get before.openToAdmin.stored "roles" = .ofTexts before.openToAdmin.roles := rfl
  have hbefore : Obj.get before.toRecord "roles" = .ofTexts before.roles := rfl
  have hne : before.openToAdmin.roles ≠ [] := List.ne_nil_of_mem (admin_mem_openToAdmin before)
  rw [hafter, hbefore, listsRole_ofTexts, listsRole_ofTexts]
  simp only [hne, false_or, mem_roles_openToAdmin_iff, or_and_right, exists_or, exists_eq_left]
  refine or_congr_right ⟨fun h => ?_, fun h => h.2.resolve_left h.1⟩
  obtain ⟨name, hname, rfl⟩ := h
  exact ⟨List.ne_nil_of_mem hname, .inr ⟨name, hname, rfl⟩⟩

/-- What a request makes is open to administrators, and to the roles that the view which the request
describes lists. So nobody is shut out exactly if that view lists a role: one that lists none is
open to all, and afterwards to administrators only. -/
theorem access_kept_iff (h : prepare body existing = .ok view) :
    ∃ before, merged body.members existing = .ok before ∧
      listsRole (Obj.get view.stored "roles") (.str "ADMIN") = true ∧
      (∀ role, listsRole (Obj.get view.stored "roles") role = true ↔
        role = .str "ADMIN" ∨
          before.roles ≠ [] ∧ listsRole (Obj.get before.toRecord "roles") role = true) ∧
      ((∀ role : String, listsRole (Obj.get before.toRecord "roles") (.str role) = true →
        listsRole (Obj.get view.stored "roles") (.str role) = true) ↔ before.roles ≠ []) := by
  obtain ⟨before, hbefore, rfl⟩ := exists_merged_of_prepare h
  refine ⟨before, hbefore, listsRole_openToAdmin.mpr (.inl rfl),
    fun role => listsRole_openToAdmin, fun hkept hnone => ?_,
    fun hlisted role hrole => listsRole_openToAdmin.mpr (.inr ⟨hlisted, hrole⟩)⟩
  have hopen : listsRole (Obj.get before.toRecord "roles") (.str "EDITOR") = true :=
    listsRole_ofTexts.mpr (.inl hnone)
  rcases listsRole_openToAdmin.mp (hkept "EDITOR" hopen) with hadmin | ⟨hlisted, -⟩
  · exact absurd (Value.str.inj hadmin) (by decide)
  · exact hlisted hnone

end EditorView

/-- A form with roles, as it may have been stored. -/
def formWithRoles (roles : List String) : Obj :=
  [("slug", .str "main"), ("label", .str "Main"), ("roles", .ofTexts roles)]

/-- A form that lists a role is given another label, and those who could use it still can. -/
theorem renamed_form_kept : ∃ before view,
    EditorView.prepare (.obj [("label", .str "Form")]) (formWithRoles ["EDITOR"]) = .ok view ∧
      EditorView.merged [("label", .str "Form")] (formWithRoles ["EDITOR"]) = .ok before ∧
      before.roles = ["EDITOR"] ∧
      ∀ role : String, listsRole (Obj.get before.toRecord "roles") (.str role) = true →
        listsRole (Obj.get view.stored "roles") (.str role) = true := by
  have hsome : (EditorView.prepare (.obj [("label", .str "Form")])
      (formWithRoles ["EDITOR"])).toOption.isSome := by
    decide +kernel
  have hroles : (EditorView.merged [("label", .str "Form")]
      (formWithRoles ["EDITOR"])).toOption.map (·.roles) = some ["EDITOR"] := by
    decide +kernel
  obtain ⟨view, hview⟩ := Option.isSome_iff_exists.mp hsome
  have hview := Outcome.eq_ok_of_toOption hview
  obtain ⟨before, hbefore, -, -, hkept⟩ := EditorView.access_kept_iff hview
  have hbefore : EditorView.merged [("label", .str "Form")] (formWithRoles ["EDITOR"]) =
    .ok before := hbefore
  rw [hbefore] at hroles
  have hlisted : before.roles = ["EDITOR"] := Option.some.inj hroles
  exact ⟨before, view, hview, hbefore, hlisted, hkept.mpr (hlisted ▸ List.cons_ne_nil _ _)⟩

/-- A form that lists no role is given another label, and editors, who could use it, are shut
out. -/
theorem renamed_form_shut : ∃ before view,
    EditorView.prepare (.obj [("label", .str "Form")]) (formWithRoles []) = .ok view ∧
      EditorView.merged [("label", .str "Form")] (formWithRoles []) = .ok before ∧
      listsRole (Obj.get before.toRecord "roles") (.str "EDITOR") = true ∧
      listsRole (Obj.get view.stored "roles") (.str "EDITOR") = false := by
  have hafter : (EditorView.prepare (.obj [("label", .str "Form")])
      (formWithRoles [])).toOption.map (fun view =>
        listsRole (Obj.get view.stored "roles") (.str "EDITOR")) = some false := by
    decide +kernel
  have hopen : (EditorView.merged [("label", .str "Form")]
      (formWithRoles [])).toOption.map (fun before =>
        listsRole (Obj.get before.toRecord "roles") (.str "EDITOR")) = some true := by
    decide +kernel
  obtain ⟨view, hview, hfalse⟩ := Option.map_eq_some_iff.mp hafter
  obtain ⟨before, hbefore, htrue⟩ := Option.map_eq_some_iff.mp hopen
  exact ⟨before, view, Outcome.eq_ok_of_toOption hview, Outcome.eq_ok_of_toOption hbefore, htrue,
    hfalse⟩

namespace EditorView

variable {views : List EditorView} {role slug : String} {asked : Option String}
variable {v w : EditorView}

/-! ### A view that is asked for -/

/-- A view that is found by a slug has that slug. -/
theorem of_withSlug? (h : withSlug? views slug = some v) :
    v ∈ views ∧ lowerText v.slug = lowerText (trim slug) := by
  obtain ⟨found, hfound, rfl⟩ := Option.map_eq_some_iff.mp h
  have hmem : found ∈ (views.map fun v => (v.slug, v.hasSections, v)).filter fun view =>
      lowerText view.1 == lowerText (trim slug) := by
    rcases Option.or_eq_some_iff.mp hfound with hfind | ⟨-, hhead⟩
    · exact List.mem_of_find?_eq_some hfind
    · exact List.mem_of_head? hhead
  obtain ⟨hlisted, hslug⟩ := List.mem_filter.mp hmem
  obtain ⟨v, hv, rfl⟩ := List.mem_map.mp hlisted
  exact ⟨hv, eq_of_beq hslug⟩

theorem isSome_withSlug? (hv : v ∈ views) (hslug : lowerText v.slug = lowerText (trim slug)) :
    (withSlug? views slug).isSome := by
  have hmem : (v.slug, v.hasSections, v) ∈ (views.map fun v => (v.slug, v.hasSections, v)).filter
      fun view => lowerText view.1 == lowerText (trim slug) :=
    List.mem_filter.mpr ⟨List.mem_map.mpr ⟨v, hv, rfl⟩, beq_iff_eq.mpr hslug⟩
  rw [withSlug?, pickBySlug?, Option.isSome_map, Option.isSome_or, Bool.or_eq_true]
  exact .inr (List.isSome_head?.mpr (List.ne_nil_of_mem hmem))

/-- If no two slugs are the same in any case of letters, a view is found by its slug. -/
theorem withSlug?_eq_some (hnodup : (views.map fun v => lowerText v.slug).Nodup) (hv : v ∈ views)
    (hslug : lowerText v.slug = lowerText (trim slug)) : withSlug? views slug = some v := by
  obtain ⟨w, hw⟩ := Option.isSome_iff_exists.mp (isSome_withSlug? hv hslug)
  obtain ⟨hmem, hslug'⟩ := of_withSlug? hw
  rw [hw, List.inj_on_of_nodup_map hnodup hmem hv (hslug'.trans hslug.symm)]

/-! ### The view in effect -/

/-- The views that count are those that the role may use, if there are any, and else all. -/
theorem mem_allowed_iff : w ∈ allowed role views ↔
    w ∈ views ∧ ((∃ v ∈ views, v.allows role = true) → w.allows role = true) := by
  have hnone : (views.filter (·.allows role)).isEmpty = true ↔
      ¬∃ v ∈ views, v.allows role = true := by
    simp [List.isEmpty_iff]
  simp only [allowed]
  split
  · next h => exact (and_iff_left fun hsome => absurd hsome (hnone.mp h)).symm
  · next h => rw [List.mem_filter, imp_iff_right (not_not.mp (mt hnone.mpr h))]

theorem allowed_eq_nil_iff : allowed role views = [] ↔ views = [] := by
  simp only [List.eq_nil_iff_forall_not_mem, mem_allowed_iff]
  refine ⟨fun h v hv => ?_, fun h v hv => h v hv.1⟩
  by_cases hsome : ∃ w ∈ views, w.allows role = true
  · obtain ⟨w, hw, hallows⟩ := hsome
    exact h w ⟨hw, fun _ => hallows⟩
  · exact h v ⟨hv, fun h' => absurd h' hsome⟩

theorem defaultRoles_toRecord (v : EditorView) :
    ViewRecord.defaultRoles v.toRecord = v.defaultRoles.map .str := by
  have hget : Obj.get v.toRecord "default_roles" = .ofTexts v.defaultRoles := rfl
  have hconfig : Obj.get (Obj.getObj v.toRecord "config") "default_roles" = .null := by
    have hmembers : Obj.getObj v.toRecord "config" = v.config := rfl
    rw [hmembers, config]
    cases v.sections <;> rfl
  rw [ViewRecord.defaultRoles, hget, hconfig]
  cases v.defaultRoles <;> rfl

/-- A view has a rank exactly if its identifier and its times have texts. Its default roles are
texts. -/
theorem hasResult_rank (v : EditorView) :
    HasResult (ViewRank.ofRecord role v.toRecord) ↔
      ∀ part ∈ [v.id, v.createdAt, v.updatedAt], part.HasText := by
  have hroles : ∀ item ∈ ViewRecord.defaultRoles v.toRecord, item.HasText := by
    simp [defaultRoles_toRecord]
  have hupdated : Obj.get v.toRecord "updated_at" = v.updatedAt := rfl
  have hcreated : Obj.get v.toRecord "created_at" = v.createdAt := rfl
  have hid : Obj.get v.toRecord "id" = v.id := rfl
  rw [ViewRecord.hasResult_ofRecord, hupdated, hcreated, hid, and_iff_right hroles]
  simp only [List.forall_mem_cons]
  tauto

/-- If no two slugs are the same in any case of letters, a view that is asked for by its slug is in
effect if the role may use it. -/
theorem inEffect?_of_asked (hnodup : (views.map fun v => lowerText v.slug).Nodup) (hv : v ∈ views)
    (hslug : lowerText v.slug = lowerText (trim slug)) (hallows : v.allows role = true) :
    inEffect? views role (some slug) = .ok (some v) := by
  rw [inEffect?, Option.bind_some, withSlug?_eq_some hnodup hv hslug, Option.filter_some,
    if_pos hallows]

/-- The view in effect is one of the views, and the role may use it if it may use any. -/
theorem of_inEffect? (h : inEffect? views role asked = .ok (some v)) :
    v ∈ views ∧ ((∃ w ∈ views, w.allows role = true) → v.allows role = true) := by
  rw [inEffect?] at h
  split at h
  · next found hfound =>
    obtain rfl := Option.some.inj (Except.ok.inj h)
    obtain ⟨hasked, hallows⟩ := Option.filter_eq_some_iff.mp hfound
    obtain ⟨text, -, hslug⟩ := Option.bind_eq_some_iff.mp hasked
    exact ⟨(of_withSlug? hslug).1, fun _ => hallows⟩
  · rw [first?_eq] at h
    exact mem_allowed_iff.mp (firstRanked?_eq_some h).1

/-- No view is in effect exactly if there is none. -/
theorem eq_none_iff_of_inEffect? {result : Option EditorView}
    (h : inEffect? views role asked = .ok result) : result = none ↔ views = [] := by
  cases result with
  | some v => exact iff_of_false nofun (List.ne_nil_of_mem (of_inEffect? h).1)
  | none =>
    rw [inEffect?] at h
    split at h
    · cases h
    · rw [first?_eq] at h
      exact iff_of_true rfl (allowed_eq_nil_iff.mp (eq_nil_of_firstRanked? h))

theorem exists_allows_of_inEffect? {result : Option EditorView}
    (h : inEffect? views role asked = .ok result) (hallows : ∃ v ∈ views, v.allows role = true) :
    ∃ v, result = some v ∧ v.allows role = true := by
  cases result with
  | some v => exact ⟨v, rfl, (of_inEffect? h).2 hallows⟩
  | none =>
    obtain ⟨v, hv, -⟩ := hallows
    exact absurd ((eq_none_iff_of_inEffect? h).mp rfl) (List.ne_nil_of_mem hv)

/-- Only an identifier or a time that has no text keeps a view from being chosen. -/
theorem exists_of_inEffect?_eq_error {e : Fault} (h : inEffect? views role asked = .error e) :
    e = .badInteger ∧ ∃ v ∈ views, ∃ part ∈ [v.id, v.createdAt, v.updatedAt], ¬part.HasText := by
  rw [inEffect?] at h
  split at h
  · cases h
  · rw [first?_eq, firstRanked?_eq_error_iff fun v => ViewRecord.onlyFault_ofRecord role _] at h
    obtain ⟨rfl, v, hv, hrank⟩ := h
    rw [hasResult_rank] at hrank
    refine ⟨rfl, v, (mem_allowed_iff.mp hv).1, ?_⟩
    simpa only [not_forall, exists_prop] using hrank

/-- The view in effect among records that are read as some views. An empty slug asks for nothing. -/
theorem effective?_eq {records : List Obj} {sender : Value}
    (hviews : records.mapM ofRecord = .ok views) (hrole : roleName sender = .ok role)
    (slug : Option String) :
    effective? records sender (.ofText? slug) = inEffect? views role (slug.filter (· ≠ "")) := by
  rw [effective?, hrole, Outcome.ok_bind, hviews, Outcome.ok_bind]
  cases slug with
  | none => rfl
  | some text =>
    by_cases htext : text = ""
    · rw [htext]
      rfl
    · have hkept : (some text).filter (· ≠ "") = some text := by simp [htext]
      rw [Value.ofText?, if_pos (Value.truthy_str htext), hkept]
      rfl

/-- Of a list whose objects can be read as views, the view in effect for a role is nothing exactly
if there is no object, and else what one of them is read as. If the role may use any of the views,
it may use that one; and if no two slugs are the same in any case of letters, a view that is asked
for by its slug, and that the role may use, is that one. There is one exception: an identifier or a
time that is, or holds, an integer with more digits than a text may have can keep any view from
being chosen. -/
theorem view_in_effect {items : List Value} {sender : Value}
    (hviews : (items.filterMap Value.asObj?).mapM ofRecord = .ok views)
    (hrole : roleName sender = .ok role) (slug : Option String) :
    (∃ result, effective? (items.filterMap Value.asObj?) sender (.ofText? slug) = .ok result ∧
      (result = none ↔ ∀ item ∈ items, item.asObj? = none) ∧
      (∀ v, result = some v → ∃ item ∈ items, ∃ record,
        item.asObj? = some record ∧ ofRecord record = .ok v) ∧
      ((∃ v ∈ views, v.allows role = true) → ∃ v, result = some v ∧ v.allows role = true) ∧
      ((views.map fun v => lowerText v.slug).Nodup → ∀ text, slug = some text → text ≠ "" →
        ∀ v ∈ views, lowerText v.slug = lowerText (trim text) → v.allows role = true →
          result = some v)) ∨
    (∃ v ∈ views, ∃ part ∈ [v.id, v.createdAt, v.updatedAt], ¬part.HasText) ∧
      effective? (items.filterMap Value.asObj?) sender (.ofText? slug) = .error .badInteger := by
  rw [effective?_eq hviews hrole]
  cases hresult : inEffect? views role (slug.filter (· ≠ "")) with
  | error e =>
    obtain ⟨rfl, hparts⟩ := exists_of_inEffect?_eq_error hresult
    exact .inr ⟨hparts, rfl⟩
  | ok result =>
    refine .inl ⟨result, rfl, ?_, fun v hv => ?_, exists_allows_of_inEffect? hresult,
      fun hnodup text hslug hne v hv hname hallows => ?_⟩
    · rw [eq_none_iff_of_inEffect? hresult, Outcome.eq_nil_iff_of_mapM hviews,
        List.filterMap_eq_nil_iff]
    · subst hv
      obtain ⟨record, hrecord, hread⟩ :=
        Outcome.exists_of_mem_mapM hviews (of_inEffect? hresult).1
      obtain ⟨item, hitem, hobj⟩ := List.mem_filterMap.mp hrecord
      exact ⟨item, hitem, record, hobj, hread⟩
    · have hasked : slug.filter (· ≠ "") = some text := by simp [hslug, hne]
      rw [hasked, inEffect?_of_asked hnodup hv hname hallows] at hresult
      exact (Except.ok.inj hresult).symm

end EditorView

/-! ### Two forms -/

/-- A list with records of a form for all and of a form for authors. -/
def listedForms : List Value :=
  [.obj [("id", .str "a"), ("slug", .str "basic"), ("is_default", .bool true)], .str "basic",
    .obj [("id", .str "b"), ("slug", .str "Writer"), ("roles", .list [.str "author"]),
      ("config", .str "\x7b\"sections\":[]\x7d")]]

/-- An author asks for the form for authors and gets it. -/
theorem author_gets_writer_form : ∃ views v,
    (listedForms.filterMap Value.asObj?).mapM EditorView.ofRecord = .ok views ∧ v ∈ views ∧
      v.slug = "Writer" ∧ v.roles = ["AUTHOR"] ∧ roleName (.str " author") = .ok "AUTHOR" ∧
      EditorView.effective? (listedForms.filterMap Value.asObj?) (.str " author")
        (.str " WRITER ") = .ok (some v) := by
  have hread : ((listedForms.filterMap Value.asObj?).mapM EditorView.ofRecord).toOption.map
      (fun views => views.map fun v => (v.slug, v.roles)) =
        some [("basic", []), ("Writer", ["AUTHOR"])] := by decide +kernel
  have hsome : (EditorView.effective? (listedForms.filterMap Value.asObj?) (.str " author")
      (.str " WRITER ")).toOption.isSome := by decide +kernel
  have hrole : roleName (.str " author") = .ok "AUTHOR" :=
    Outcome.eq_ok_of_toOption (by decide +kernel)
  obtain ⟨views, hviews, hparts⟩ := Option.map_eq_some_iff.mp hread
  have hviews := Outcome.eq_ok_of_toOption hviews
  have hmem : ("Writer", ["AUTHOR"]) ∈ views.map fun v => (v.slug, v.roles) := by
    rw [hparts]
    simp
  obtain ⟨v, hv, hwriter⟩ := List.mem_map.mp hmem
  obtain ⟨hslug, hroles⟩ := Prod.mk.inj hwriter
  have hnodup : (views.map fun v => lowerText v.slug).Nodup := by
    have hslugs : (views.map fun v => lowerText v.slug) =
        (views.map fun v => (v.slug, v.roles)).map fun part => lowerText part.1 := by simp
    rw [hslugs, hparts]
    decide +kernel
  have hname : lowerText v.slug = lowerText (trim " WRITER ") := by
    rw [hslug]
    decide +kernel
  have hallows : v.allows "AUTHOR" = true := by
    rw [EditorView.allows, hroles]
    decide
  refine ⟨views, v, hviews, hv, hslug, hroles, hrole, ?_⟩
  rcases EditorView.view_in_effect hviews hrole (some " WRITER ") with
    ⟨result, hresult, -, -, -, hasked⟩ | ⟨-, herror⟩
  · rw [← hasked hnodup " WRITER " rfl (by decide) v hv hname hallows]
    exact hresult
  · obtain ⟨result, hresult⟩ := Option.isSome_iff_exists.mp hsome
    have herror : EditorView.effective? (listedForms.filterMap Value.asObj?) (.str " author")
      (.str " WRITER ") = .error .badInteger := herror
    rw [herror] at hresult
    cases hresult

end ContentEngine
