import ContentEngine.Proofs.View.Parts

/-!
# Sections that a request gives

A request may give the sections of a view beside its configuration. They are written into the record
of the view as it was, and of a record the configuration is read first: so the new list of sections
counts where the view had none, and where it had one, that one stays
(`EditorView.given_sections_count_iff`).
-/

namespace ContentEngine

namespace EditorView

variable {record request base existing : Obj} {body : Value} {given : List Value}
variable {view : EditorView}

/-! ### The record that is read -/

/-- A request gives sections exactly if it has one of the keys for them. -/
theorem has_of_getEither_eq_list (h : Obj.getEither request "sections" "widgets" = .list given) :
    (Obj.has request "sections" || Obj.has request "widgets") = true := by
  rw [Bool.or_eq_true, Obj.has_eq_isSome, Obj.has_eq_isSome]
  rw [Obj.getEither] at h
  cases hsections : Obj.get? request "sections" with
  | some v => exact .inl rfl
  | none =>
    rw [hsections] at h
    cases hwidgets : Obj.get? request "widgets" with
    | some v => exact .inr rfl
    | none => simp [Obj.get, hwidgets] at h

/-- A request without a configuration leaves the one of the record alone. -/
theorem get_config_withParts (hconfig : Obj.has request "config" = false) (label slug : String) :
    Obj.get (Obj.merge (withParts base request) [("label", .str label), ("slug", .str slug)])
      "config" = Obj.get base "config" := by
  have hparts : "config" ∉
      Obj.keys (request.filter fun member => replaceable.contains member.1) := by
    intro hmem
    obtain ⟨member, hmember, hkey⟩ := List.mem_map.mp hmem
    have hhas : Obj.has request "config" = true :=
      Table.mem_keys_iff.mp (List.mem_map.mpr ⟨member, (List.mem_filter.mp hmember).1, hkey⟩)
    rw [hconfig] at hhas
    contradiction
  have hmerged := Obj.get?_merge_of_notMem (o := base) hparts
  refine Obj.get_congr ((Obj.get?_merge_of_notMem (by simp [Obj.keys, Table.keys])).trans ?_)
  rw [withParts]
  split
  · rw [Obj.get?_set, if_neg (by decide), hmerged]
  · exact hmerged

/-- The sections that a request gives stand in the record beside the configuration. -/
theorem get_sections_withParts (h : Obj.getEither request "sections" "widgets" = .list given)
    (label slug : String) :
    Obj.get (Obj.merge (withParts base request) [("label", .str label), ("slug", .str slug)])
      "sections" = .list given := by
  have hnames : "sections" ∉ Obj.keys [("label", Value.str label), ("slug", .str slug)] := by
    simp [Obj.keys, Table.keys]
  rw [Obj.get, Obj.get?_merge_of_notMem hnames, withParts, if_pos (has_of_getEither_eq_list h),
    Obj.get?_set, if_pos rfl, h]
  rfl

/-- Beside a configuration without a list of sections, the list of a record counts. -/
theorem sectionsIn?_of_given {config : Obj}
    (hconfig : Layout.firstList? config ["sections", "widgets"] = none)
    (h : Obj.get record "sections" = .list given) : sectionsIn? config record = some given := by
  have hfirst : Layout.firstList? record ["sections", "widgets"] = some given := by
    rw [Layout.firstList?, h]
    rfl
  rw [sectionsIn?, hconfig, hfirst]
  rfl

/-- What a request is written into has its sections in its configuration, if there have been any. -/
theorem sections_of_baseRecord (h : baseRecord existing = .ok base) :
    ∃ config, viewConfig (Obj.get base "config") = .ok config ∧
      ((sectionsOf? (.obj existing) = .ok none ∧
          Layout.firstList? config ["sections", "widgets"] = none) ∨
        ∃ raws items, sectionsOf? (.obj existing) = .ok (some raws) ∧
          ViewSection.listFrom 0 raws = .ok items ∧
          Layout.firstList? config ["sections", "widgets"] =
            some (items.map ViewSection.toValue)) := by
  rw [baseRecord] at h
  split at h
  · next hempty =>
    obtain rfl := List.isEmpty_iff.mp hempty
    obtain rfl := Except.ok.inj h
    exact ⟨[], rfl, .inl ⟨rfl, rfl⟩⟩
  · rw [map_eq_pure_bind, Outcome.bind_eq_ok_iff] at h
    obtain ⟨old, hold, h⟩ := h
    obtain rfl := Outcome.pure_eq_ok_iff.mp h
    obtain ⟨listed, hlisted, hread⟩ := mapM_sectionsOf?_of_ofRecord hold
    refine ⟨old.config, rfl, ?_⟩
    rw [hlisted, EditorView.config]
    cases listed with
    | none =>
      obtain hnone : none = old.sections := Except.ok.inj hread
      rw [← hnone]
      exact .inl ⟨rfl, rfl⟩
    | some raws =>
      obtain ⟨items, hitems, hsome⟩ := Outcome.mapM_some_eq_ok_iff.mp hread
      rw [← hsome]
      exact .inr ⟨raws, items, rfl, hitems, rfl⟩

/-! ### The sections that count -/

/-- The sections that a request gives beside the configuration are those of the view that it makes,
if the view had no list of sections before. A view that had one keeps it. So what the request gives
counts exactly if there has been no list of sections, or one that describes the same sections. -/
theorem given_sections_count_iff (hbody : body.asObj? = some request)
    (hgiven : Obj.getEither request "sections" "widgets" = .list given)
    (hconfig : Obj.has request "config" = false) (hview : prepare body existing = .ok view) :
    ∃ listed sections, sectionsOf? (.obj existing) = .ok listed ∧
      view.sections = some sections ∧
      ViewSection.listFrom 0 (listed.getD given) = .ok sections ∧
      (ViewSection.listFrom 0 given = .ok sections ↔
        ∀ raws, listed = some raws →
          ViewSection.listFrom 0 raws = ViewSection.listFrom 0 given) := by
  obtain ⟨base, label, slug, before, hbase, -, -, -, -, hbefore, rfl⟩ :=
    (prepare_eq_ok_iff hbody).mp hview
  obtain ⟨config, hread, hlisted⟩ := sections_of_baseRecord hbase
  obtain ⟨config', hconfig', hsections⟩ := mapM_sectionsIn?_of_ofRecord hbefore
  rw [get_config_withParts hconfig, hread] at hconfig'
  obtain rfl := Except.ok.inj hconfig'
  have hopen : before.openToAdmin.sections = before.sections := by
    rw [openToAdmin_eq]
  rw [hopen]
  rcases hlisted with ⟨hnone, hfirst⟩ | ⟨raws, items, hraws, hitems, hfirst⟩
  · rw [sectionsIn?_of_given hfirst (get_sections_withParts hgiven _ _)] at hsections
    obtain ⟨sections, hsections, hsome⟩ := Outcome.mapM_some_eq_ok_iff.mp hsections
    exact ⟨none, sections, hnone, hsome.symm, hsections, iff_of_true hsections nofun⟩
  · have hkept : ViewSection.listFrom 0 (items.map ViewSection.toValue) = .ok items :=
      ViewSection.listFrom_toValue hitems 0
    rw [sectionsIn?, hfirst, Option.some_or, Option.some_or] at hsections
    obtain ⟨sections, hsections, hsome⟩ := Outcome.mapM_some_eq_ok_iff.mp hsections
    obtain rfl : items = sections := Except.ok.inj (hkept.symm.trans hsections)
    refine ⟨some raws, items, hraws, hsome.symm, hitems, ?_⟩
    simp only [Option.some.injEq, forall_eq', hitems, eq_comm]

end EditorView

/-! ### A view with and without sections -/

/-- A view as it may have been stored, with a configuration. -/
def storedForm (config : Obj) : Obj :=
  [("slug", .str "main"), ("label", .str "Main"), ("config", .obj config)]

/-- A section with one field. -/
def bodySection : Value :=
  .obj [("title", .str "Copy"), ("fields", .list [.str "body"])]

/-- Sections are given to a view that had none. -/
theorem sections_given_to_view : ∃ view sections,
    EditorView.prepare (.obj [("widgets", .list [bodySection])]) (storedForm []) = .ok view ∧
      view.sections = some sections ∧
      ViewSection.listFrom 0 [bodySection] = .ok sections := by
  have hsome : (EditorView.prepare (.obj [("widgets", .list [bodySection])])
      (storedForm [])).toOption.isSome := by
    decide +kernel
  obtain ⟨view, hview⟩ := Option.isSome_iff_exists.mp hsome
  have hview := Outcome.eq_ok_of_toOption hview
  obtain ⟨listed, sections, hlisted, hsections, hread, -⟩ :=
    EditorView.given_sections_count_iff rfl rfl rfl hview
  obtain rfl : none = listed := Except.ok.inj hlisted
  exact ⟨view, sections, hview, hsections, hread⟩

/-- A view with a section is given an empty list of sections, and keeps its section. -/
theorem sections_not_replaced : ∃ view,
    EditorView.prepare (.obj [("sections", .list [])])
        (storedForm [("sections", .list [bodySection])]) = .ok view ∧
      view.sections ≠ some [] ∧ ViewSection.listFrom 0 [] = .ok [] := by
  have hkept : (EditorView.prepare (.obj [("sections", .list [])])
      (storedForm [("sections", .list [bodySection])])).toOption.map (fun view =>
        view.sections == some []) = some false := by
    decide +kernel
  obtain ⟨view, hview, hne⟩ := Option.map_eq_some_iff.mp hkept
  exact ⟨view, Outcome.eq_ok_of_toOption hview, by simpa using hne, rfl⟩

end ContentEngine
