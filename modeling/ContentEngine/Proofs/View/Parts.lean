import ContentEngine.Proofs.View.Again

/-!
# What a request makes of a view, part by part

A view is stored in seven parts (`EditorView.parts`). A part that a request gives is what the
request makes of it, and only for the other ones does it matter what the view has been. So two views
that agree in all parts that a request does not give become the same under that request
(`EditorView.prepare_congr`), whatever their identifiers and their times are.
-/

namespace ContentEngine

/-! ### Objects that agree under a key -/

namespace Obj

/-- Two objects agree under a key after a merge if they have done so before, or if the key has been
written. -/
theorem get?_merge_congr {a b members : Obj} {key : String}
    (h : key ∈ keys members ∨ get? a key = get? b key) :
    get? (merge a members) key = get? (merge b members) key := by
  induction members generalizing a b with
  | nil => exact h.resolve_left List.not_mem_nil
  | cons first rest ih =>
    refine ih ?_
    by_cases hkey : key = first.1
    · exact .inr (by rw [get?_set, get?_set, if_pos hkey, if_pos hkey])
    · rw [get?_set, get?_set, if_neg hkey, if_neg hkey]
      exact h.imp_left fun hmem => (List.mem_cons.mp hmem).resolve_left hkey

/-- A key that no member has is left alone by a merge. -/
theorem get?_merge_of_notMem {o members : Obj} {key : String} (h : key ∉ keys members) :
    get? (merge o members) key = get? o key := by
  induction members generalizing o with
  | nil => rfl
  | cons first rest ih =>
    have hkeys : key ≠ first.1 ∧ key ∉ keys rest := not_or.mp fun hmem => h (List.mem_cons.mpr hmem)
    exact (ih hkeys.2).trans (by rw [get?_set, if_neg hkeys.1])

theorem get?_set_congr {a b : Obj} {key : String} (h : get? a key = get? b key) (other : String)
    (v : Value) : get? (set a other v) key = get? (set b other v) key := by
  rw [get?_set, get?_set, h]

theorem get_congr {a b : Obj} {key : String} (h : get? a key = get? b key) :
    get a key = get b key := by
  rw [get, get, h]

end Obj

namespace EditorView

variable {record record' : Obj} {a b view : EditorView}

/-! ### Records that agree -/

/-- The keys under which a record is read for what is stored of a view. -/
def readKeys : List String :=
  ["slug", "label", "roles", "default_roles", "is_default", "priority", "config", "sections",
    "widgets"]

/-- A view with the identifiers and the times of a record. -/
def stampedBy (v : EditorView) (record : Obj) : EditorView :=
  { v with
    id := Obj.get record "id"
    contentTypeId := Obj.get record "content_type_id"
    createdAt := Obj.get record "created_at"
    updatedAt := Obj.get record "updated_at" }

theorem stored_openToAdmin_stampedBy (v : EditorView) (record : Obj) :
    (v.stampedBy record).openToAdmin.stored = v.openToAdmin.stored := by
  have hroles : (v.stampedBy record).roles = v.roles := rfl
  rw [openToAdmin, openToAdmin, hroles]
  split <;> rfl

/-- Records that agree under the keys that are read describe views that differ in nothing but their
identifiers and their times. -/
theorem ofRecord_congr (h : ∀ key ∈ readKeys, Obj.get? record key = Obj.get? record' key) :
    ofRecord record' = (do return (← ofRecord record).stampedBy record') := by
  simp only [readKeys, List.forall_mem_cons] at h
  obtain ⟨hslug, hlabel, hroles, hdefaultRoles, hisDefault, hpriority, hconfig, hsections, hwidgets,
    -⟩ := h
  have hlist (config : Obj) : sectionsIn? config record' = sectionsIn? config record := by
    rw [sectionsIn?, sectionsIn?]
    simp only [Layout.firstList?, Obj.get_congr hsections, Obj.get_congr hwidgets]
  rw [ofRecord, ofRecord, Obj.get_congr hslug, Obj.get_congr hlabel, Obj.get_congr hroles,
    Obj.get_congr hdefaultRoles, Obj.get_congr hisDefault, hpriority, Obj.get_congr hconfig]
  simp only [hlist, bind_assoc, pure_bind]
  rfl

/-! ### Parts -/

theorem slug_eq_of_stored_eq (h : a.stored = b.stored) : a.slug = b.slug :=
  Value.str.inj (congrArg (fun o => Obj.get o "slug") h)

/-- The parts of a view that are stored. -/
def parts : List String :=
  ["slug", "label", "roles", "default_roles", "is_default", "priority", "config"]

/-- Whether a request gives a part of a view, so that it does not matter what the part has been. An
empty text for the label or the slug gives none. -/
def Gives (request : Obj) (key : String) : Prop :=
  if key ∈ ["slug", "label"] then (Obj.get request key).truthy = true
  else Obj.has request key = true

/-- Whether two views agree in all parts that a request does not give. -/
def AgreeBeside (request : Obj) (a b : EditorView) : Prop :=
  ∀ key ∈ parts, Gives request key ∨ Obj.get? a.stored key = Obj.get? b.stored key

section

variable {request : Obj} {key : String}

/-- What is stored of a view under the key of a part is what its record holds there. -/
theorem get?_toRecord_congr (hkey : key ∈ parts)
    (h : Obj.get? a.stored key = Obj.get? b.stored key) :
    Obj.get? a.toRecord key = Obj.get? b.toRecord key := by
  have hsame (v : EditorView) : Obj.get? v.toRecord key = Obj.get? v.stored key := by
    simp only [parts, List.mem_cons, List.not_mem_nil, or_false] at hkey
    rcases hkey with rfl | rfl | rfl | rfl | rfl | rfl | rfl <;> rfl
  rw [hsame, hsame, h]

theorem requestedText_congr (h : AgreeBeside request a b) (hkey : key ∈ ["slug", "label"]) :
    requestedText request a.toRecord key = requestedText request b.toRecord key := by
  have hpart : key ∈ parts := List.mem_append_left _ hkey
  rw [requestedText, requestedText]
  rcases h key hpart with hgives | hsame
  · rw [Gives, if_pos hkey] at hgives
    rw [Value.orElse, Value.orElse, if_pos hgives, if_pos hgives]
  · rw [Obj.get_congr (get?_toRecord_congr hpart hsame)]

/-- With the parts of a request written into them, the records of two views agree under every key
that is read, except for the label and the slug. -/
theorem get?_withParts_congr (h : AgreeBeside request a b) (hkey : key ∈ readKeys)
    (hname : key ∉ ["slug", "label"]) :
    Obj.get? (withParts a.toRecord request) key = Obj.get? (withParts b.toRecord request) key := by
  have hmerged : Obj.get? (Obj.merge a.toRecord
        (request.filter fun member => replaceable.contains member.1)) key =
      Obj.get? (Obj.merge b.toRecord
        (request.filter fun member => replaceable.contains member.1)) key := by
    refine Obj.get?_merge_congr ?_
    by_cases hpart : key ∈ parts
    · refine (h key hpart).imp (fun hgives => ?_) (get?_toRecord_congr hpart)
      rw [Gives, if_neg hname] at hgives
      obtain ⟨member, hmember, rfl⟩ := List.mem_map.mp (Table.mem_keys_iff.mpr hgives)
      have hreplaceable : replaceable.contains member.1 = true :=
        List.contains_iff_mem.mpr ((List.mem_append.mp hpart).resolve_left hname)
      exact List.mem_map.mpr ⟨member, List.mem_filter.mpr ⟨hmember, hreplaceable⟩, rfl⟩
    · -- no record of a view has sections outside of its configuration
      have hother : key ∈ ["sections", "widgets"] :=
        (List.mem_append.mp hkey).resolve_left hpart
      simp only [List.mem_cons, List.not_mem_nil, or_false] at hother
      rcases hother with rfl | rfl <;> exact .inr rfl
  simp only [withParts]
  split
  · exact Obj.get?_set_congr hmerged _ _
  · exact hmerged

/-- With a label and a slug as well, the records agree under every key that is read. -/
theorem get?_named_congr (h : AgreeBeside request a b) (label slug : String) :
    ∀ key ∈ readKeys,
      Obj.get? (Obj.merge (withParts a.toRecord request)
        [("label", .str label), ("slug", .str slug)]) key =
      Obj.get? (Obj.merge (withParts b.toRecord request)
        [("label", .str label), ("slug", .str slug)]) key := by
  intro key hkey
  refine Obj.get?_merge_congr ?_
  by_cases hname : key ∈ ["slug", "label"]
  · exact .inl ((List.Perm.swap "label" "slug" []).mem_iff.mp hname)
  · exact .inr (get?_withParts_congr h hkey hname)

/-- What a request makes of the record of a settled view. -/
theorem prepare_toRecord_eq_ok_iff {body : Value} (hbody : body.asObj? = some request)
    (ha : a.IsSettled) :
    prepare body a.toRecord = .ok view ↔ ∃ label given before,
      requestedText request a.toRecord "label" = .ok label ∧
      requestedText request a.toRecord "slug" = .ok given ∧ label ≠ "" ∧
      slugify (if given = "" then label else given) ≠ "" ∧
      ofRecord (Obj.merge (withParts a.toRecord request) [("label", .str label),
        ("slug", .str (slugify (if given = "" then label else given)))]) = .ok before ∧
      before.openToAdmin = view := by
  have hbase : baseRecord a.toRecord = .ok a.toRecord := by
    have hempty : ¬a.toRecord.isEmpty = true := Bool.false_ne_true
    rw [baseRecord, if_neg hempty, ofRecord_toRecord ha]
    rfl
  simp only [prepare_eq_ok_iff hbody, hbase, Except.ok.injEq, exists_and_left, exists_eq_left']

/-- The label of what a request makes is the one that it gives, or the one that there has been. -/
theorem label_of_prepare {body : Value} (hbody : body.asObj? = some request) (ha : a.IsSettled)
    (hview : prepare body a.toRecord = .ok view) :
    requestedText request a.toRecord "label" = .ok view.label := by
  obtain ⟨label, given, before, hlabel, -, hlabelNe, -, hbefore, rfl⟩ :=
    (prepare_toRecord_eq_ok_iff hbody ha).mp hview
  rw [openToAdmin_eq, hlabel, ← (of_ofRecord_merge hlabelNe hbefore).1]

/-- A request makes the same of two settled views that agree in all parts that it does not give. -/
theorem prepare_congr {body : Value} (hbody : body.asObj? = some request) (ha : a.IsSettled)
    (hb : b.IsSettled) (h : AgreeBeside request a b)
    (hview : prepare body a.toRecord = .ok view) :
    ∃ view', prepare body b.toRecord = .ok view' ∧ view'.stored = view.stored := by
  obtain ⟨label, given, before, hlabel, hgiven, hlabelNe, hslugNe, hbefore, rfl⟩ :=
    (prepare_toRecord_eq_ok_iff hbody ha).mp hview
  rw [requestedText_congr h (by decide)] at hlabel hgiven
  have hafter := ofRecord_congr (get?_named_congr h label
    (slugify (if given = "" then label else given)))
  rw [hbefore] at hafter
  exact ⟨_, (prepare_toRecord_eq_ok_iff hbody hb).mpr
    ⟨label, given, _, hlabel, hgiven, hlabelNe, hslugNe, hafter, rfl⟩,
    stored_openToAdmin_stampedBy before _⟩

end

end EditorView

/-- A request makes the same of two stored views that hold the same under every part that it does
not give. -/
theorem StoredView.prepare_congr {u v : StoredView} {body : Value} {request : Obj}
    {view : EditorView} (hbody : body.asObj? = some request) (hu : u.IsSettled) (hv : v.IsSettled)
    (h : ∀ key ∈ EditorView.parts, EditorView.Gives request key ∨
      Obj.get? u.values key = Obj.get? v.values key)
    (hview : EditorView.prepare body u.toObj = .ok view) :
    ∃ view', EditorView.prepare body v.toObj = .ok view' ∧ view'.stored = view.stored := by
  obtain ⟨a, hrecord, hvalues, ha, -⟩ := hu.prepare_nothing
  obtain ⟨b, hrecord', hvalues', hb, -⟩ := hv.prepare_nothing
  rw [← hrecord] at hview
  rw [← hrecord']
  refine EditorView.prepare_congr hbody ha hb ?_ hview
  rwa [EditorView.AgreeBeside, hvalues, hvalues']

end ContentEngine
