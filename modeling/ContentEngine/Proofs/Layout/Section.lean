import Mathlib.Data.List.Nodup
import ContentEngine.View.Layout
import ContentEngine.Proofs.View.Layout

/-!
# What a layout shows

A layout leaves out what shows nothing, and nothing else: the references of a section that are not
idle become its rows, one by one (`rows_forall₂`), and the sections that have such references become
the sections of the layout (`sectionsFrom_forall₂`). A view whose sections leave nothing has the
empty layout, of which a warning tells, and so it differs from a view without sections, which shows
every field. A reference leads to a declared field exactly if its name spells the key of the field
(`resolve_eq_iff`).
-/

namespace ContentEngine

namespace Layout

variable {fields : List Obj} {key : String} {columns : Int} {refs : List Value}
variable {shown : List LayoutRow} {o : Obj} {index : Nat}

/-! ### What a reference leads to -/

/-- Whether a reference by a key leads to a field: to the one that is declared under the key, to the
one under the key that it spells if there is none, and otherwise to a field that no type declares.
-/
inductive ResolvesTo (fields : List Obj) (key : String) : Value → Prop
  | declared {f : Obj} (hmem : f ∈ fields) (hkey : Obj.get f "key" = .str key)
      (honly : ∀ g ∈ fields, Obj.get g "key" = .str key → g = f) : ResolvesTo fields key (.obj f)
  | spelled {f : Obj} (hnone : ∀ g ∈ fields, Obj.get g "key" ≠ .str key) (hmem : f ∈ fields)
      (hkey : Obj.get f "key" = .str (snakeCase key))
      (honly : ∀ g ∈ fields, Obj.get g "key" = .str (snakeCase key) → g = f) :
      ResolvesTo fields key (.obj f)
  | builtin {f : Obj} (hnone : ∀ g ∈ fields, Obj.get g "key" ≠ .str key)
      (hspelled : ∀ g ∈ fields, Obj.get g "key" ≠ .str (snakeCase key))
      (hkey : Obj.get f "key" = .str key) (htype : Obj.get f "type" = .str "builtin")
      (hlabel : Obj.get? f "label" = (builtinFields.lookup key).map Value.str) :
      ResolvesTo fields key (.obj f)

theorem exists_of_declared? {v : Value} (h : declared? fields key = some v) :
    ∃ f ∈ fields, v = .obj f ∧ Obj.get f "key" = .str key := by
  obtain ⟨f, hfound, rfl⟩ := Option.map_eq_some_iff.mp h
  refine ⟨f, List.mem_reverse.mp (List.mem_of_find?_eq_some hfound), rfl, ?_⟩
  have hkey := List.find?_some hfound
  split at hkey
  · next k hk => rw [hk, eq_of_beq hkey]
  · contradiction

theorem ne_of_declared?_eq_none (h : declared? fields key = none) :
    ∀ g ∈ fields, Obj.get g "key" ≠ .str key := by
  intro g hg hkey
  have hnone := List.find?_eq_none.mp (Option.map_eq_none_iff.mp h) g (List.mem_reverse.mpr hg)
  simp [hkey] at hnone

/-- What a key is resolved to is what a reference by the key leads to. Keys are distinct, so that
the last field with a key is the only one. -/
theorem resolvesTo_resolve (hdistinct : (fields.map fun f => Obj.get f "key").Nodup)
    (key : String) : ResolvesTo fields key (resolve fields key) := by
  have honly {k : String} {f : Obj} (hmem : f ∈ fields) (hkey : Obj.get f "key" = .str k) :
      ∀ g ∈ fields, Obj.get g "key" = .str k → g = f := fun g hg hsame =>
    List.inj_on_of_nodup_map hdistinct hg hmem (hsame.trans hkey.symm)
  rw [resolve]
  cases hfound : declared? fields key with
  | some v =>
    obtain ⟨f, hmem, rfl, hkey⟩ := exists_of_declared? hfound
    exact .declared hmem hkey (honly hmem hkey)
  | none =>
    have hnone := ne_of_declared?_eq_none hfound
    rw [Option.none_or]
    cases hfound : declared? fields (snakeCase key) with
    | some v =>
      obtain ⟨f, hmem, rfl, hkey⟩ := exists_of_declared? hfound
      exact .spelled hnone hmem hkey (honly hmem hkey)
    | none =>
      have hspelled := ne_of_declared?_eq_none hfound
      rw [Option.getD_none, builtin]
      cases hlabel : builtinFields.lookup key with
      | some label => exact .builtin hnone hspelled rfl rfl (by rw [hlabel]; rfl)
      | none => exact .builtin hnone hspelled rfl rfl (by rw [hlabel]; rfl)

/-- Whether fields are declared under distinct keys. -/
structure DeclaresKeys (fields : List Obj) : Prop where
  distinct : (fields.map fun f => Obj.get f "key").Nodup
  isKey : ∀ f ∈ fields, ∃ key, IsKey key ∧ Obj.get f "key" = .str key

/-- A name leads to a declared field exactly if it spells the key of the field. A name under which
a field is declared is a key, and spells itself. -/
theorem resolve_eq_iff (h : DeclaresKeys fields) {f : Obj} (hf : f ∈ fields)
    (hkey : Obj.get f "key" = .str key) {name : String} :
    resolve fields name = .obj f ↔ snakeCase name = key := by
  have hleads := resolvesTo_resolve h.distinct name
  generalize resolve fields name = v at hleads ⊢
  cases hleads with
  | @declared g hmem hname honly =>
    obtain ⟨k, hk, hgiven⟩ := h.isKey g hmem
    obtain rfl : name = k := Value.str.inj (hname.symm.trans hgiven)
    rw [hk.snakeCase_eq]
    constructor
    · rintro ⟨⟩
      exact Value.str.inj (hname.symm.trans hkey)
    · rintro rfl
      rw [honly f hf hkey]
  | @spelled g hnone hmem hname honly =>
    constructor
    · rintro ⟨⟩
      exact Value.str.inj (hname.symm.trans hkey)
    · rintro rfl
      rw [honly f hf hkey]
  | @builtin b hnone hspelled hname =>
    constructor
    · rintro ⟨⟩
      exact absurd hname (hnone f hf)
    · rintro rfl
      exact absurd hkey (hspelled f hf)

/-! ### The rows of a section -/

instance : DecidablePred IsIdle :=
  fun ref => inferInstanceAs (Decidable (FieldRef.isHidden ref = true ∨ FieldRef.key ref = ""))

/-- Whether a row shows the field that a reference leads to, as wide as the reference asks for, but
at least one column wide and no wider than the section. -/
structure IsPlaced (fields : List Obj) (columns : Int) (ref : Value) (row : LayoutRow) : Prop where
  key : row.key = .str (FieldRef.key ref)
  one_le_width : 1 ≤ row.width
  width_le : row.width ≤ columns
  width : ∃ asked, FieldRef.width? ref = .ok asked ∧
    row.width = max 1 (min (asked.getD 1) columns)
  field : ResolvesTo fields (FieldRef.key ref) row.field

theorem clampWidth_eq (hcolumns : 1 ≤ columns) (asked : Option Int) :
    clampWidth columns asked = max 1 (min (asked.getD 1) columns) := by
  cases asked with
  | none =>
    rw [clampWidth, Option.getD_none]
    omega
  | some width =>
    rw [clampWidth, Option.getD_some]
    split <;> omega

theorem isPlaced_of_width? (hdistinct : (fields.map fun f => Obj.get f "key").Nodup)
    (hcolumns : 1 ≤ columns) {ref : Value} {asked : Option Int}
    (hasked : FieldRef.width? ref = .ok asked) :
    IsPlaced fields columns ref ⟨.str (FieldRef.key ref), clampWidth columns asked,
      resolve fields (FieldRef.key ref)⟩ := by
  have hwidth := clampWidth_eq hcolumns asked
  have hone : 1 ≤ clampWidth columns asked := by omega
  have hle : clampWidth columns asked ≤ columns := by omega
  exact ⟨rfl, hone, hle, ⟨asked, hasked, hwidth⟩, resolvesTo_resolve hdistinct _⟩

/-- The references that are not idle become the rows of a section, one by one. -/
theorem rows_forall₂ (hdistinct : (fields.map fun f => Obj.get f "key").Nodup)
    (hcolumns : 1 ≤ columns) (h : rows fields columns refs = .ok shown) :
    List.Forall₂ (IsPlaced fields columns) (refs.filter fun ref => ¬IsIdle ref) shown := by
  induction refs generalizing shown with
  | nil =>
    rw [rows, Except.ok.injEq] at h
    subst h
    exact .nil
  | cons ref rest ih =>
    rw [rows] at h
    split at h
    · next hidle =>
      have hidle : IsIdle ref := hidle
      rw [List.filter_cons_of_neg (by simpa using hidle)]
      exact ih h
    · next hidle =>
      simp only [Outcome.bind_eq_ok_iff, Outcome.pure_eq_ok_iff] at h
      obtain ⟨asked, hasked, tail, htail, rfl⟩ := h
      have hshows : ¬IsIdle ref := hidle
      rw [List.filter_cons_of_pos (by simpa using hshows)]
      exact .cons (isPlaced_of_width? hdistinct hcolumns hasked) (ih htail)

/-! ### The sections of a layout -/

/-- The references of a section that show a field. -/
def shownRefs (o : Obj) : List Value :=
  (references o).filter fun ref => ¬IsIdle ref

/-- The objects among some values that have references which show a field, each with its place in
the list, where the first value has the given place. -/
def shownSections (index : Nat) (raws : List Value) : List (Obj × Nat) :=
  ((raws.zipIdx index).filterMap fun raw => raw.1.asObj?.map (·, raw.2)).filter
    fun place => shownRefs place.1 ≠ []

theorem shownSections_cons_of_obj {raw : Value} (ho : raw.asObj? = some o) (rest : List Value) :
    shownSections index (raw :: rest) =
      if shownRefs o = [] then shownSections (index + 1) rest
      else (o, index) :: shownSections (index + 1) rest := by
  simp [shownSections, List.zipIdx_cons, ho, List.filter_cons]

theorem shownSections_cons_of_none {raw : Value} (ho : raw.asObj? = none) (rest : List Value) :
    shownSections index (raw :: rest) = shownSections (index + 1) rest := by
  simp [shownSections, List.zipIdx_cons, ho]

/-- Whether a section of a layout is what an object at a place of the list asks for. -/
structure IsCompiled (fields : List Obj) (place : Obj × Nat) (s : LayoutSection) : Prop where
  id : textOr place.1 "id" ("widget-" ++ sectionNumber place.2) = .ok s.id
  title : textOr place.1 "title" ("Widget " ++ sectionNumber place.2) = .ok s.title
  description : textOr place.1 "description" "" = .ok s.description
  columns : Layout.columns place.1 = .ok s.columns
  one_le_columns : 1 ≤ s.columns
  rows : List.Forall₂ (IsPlaced fields s.columns) (shownRefs place.1) s.rows

/-- An object shows nothing if all of its references are idle, and otherwise it becomes a section.
-/
theorem section?_cases (hdistinct : (fields.map fun f => Obj.get f "key").Nodup) {raw : Value}
    (ho : raw.asObj? = some o) {found : Option LayoutSection}
    (h : section? fields index raw = .ok found) :
    shownRefs o = [] ∧ found = none ∨
      shownRefs o ≠ [] ∧ ∃ s, found = some s ∧ IsCompiled fields (o, index) s := by
  obtain ⟨n, shown, hn, hshown, hfound⟩ := (section?_eq_ok_iff ho).mp h
  have hrows := rows_forall₂ hdistinct (one_le_columns hn) hshown
  split at hfound
  · next hempty =>
    subst hempty
    exact .inl ⟨List.forall₂_nil_right_iff.mp hrows, hfound.symm⟩
  · next hne =>
    obtain ⟨id, title, description, hid, htitle, hdescription, rfl⟩ := hfound
    refine .inr ⟨fun hempty => hne ?_, _, rfl,
      ⟨hid, htitle, hdescription, hn, one_le_columns hn, hrows⟩⟩
    rw [← shownRefs, hempty] at hrows
    exact List.forall₂_nil_left_iff.mp hrows

/-- The objects with references that show a field become the sections of a layout, one by one. -/
theorem sectionsFrom_forall₂ (hdistinct : (fields.map fun f => Obj.get f "key").Nodup)
    {raws : List Value} {sections : List LayoutSection}
    (h : sectionsFrom fields index raws = .ok sections) :
    List.Forall₂ (IsCompiled fields) (shownSections index raws) sections := by
  induction raws generalizing index sections with
  | nil =>
    rw [sectionsFrom, Except.ok.injEq] at h
    subst h
    exact .nil
  | cons raw rest ih =>
    rw [sectionsFrom, Outcome.bind_eq_ok_iff] at h
    obtain ⟨found, hfound, h⟩ := h
    cases ho : raw.asObj? with
    | none =>
      rw [section?, ho, Except.ok.injEq] at hfound
      subst hfound
      rw [shownSections_cons_of_none ho]
      exact ih h
    | some o =>
      rw [shownSections_cons_of_obj ho]
      rcases section?_cases hdistinct ho hfound with ⟨hempty, rfl⟩ | ⟨hne, s, rfl, hs⟩
      · rw [if_pos hempty]
        exact ih h
      · simp only [Outcome.bind_eq_ok_iff, Outcome.pure_eq_ok_iff] at h
        obtain ⟨others, hothers, rfl⟩ := h
        rw [if_neg hne]
        exact .cons hs (ih hothers)

/-! ### Layouts -/

theorem of_compile_eq_ok {fields config : Value} {sections : List LayoutSection}
    (h : compile fields config = .ok sections) :
    match sections? config with
    | none => [fallbackSection (declaredFields fields)] = sections
    | some raws => sectionsFrom (declaredFields fields) 0 raws = .ok sections := by
  rw [compile] at h
  split at h
  · contradiction
  · cases hraws : sections? config with
    | none =>
      rw [hraws] at h
      exact Except.ok.inj h
    | some raws =>
      rw [hraws] at h
      exact h

end Layout

/-- A view that has been read gets the layout of its configuration, and a warning if it lists
sections and the layout is empty. -/
theorem ViewLayout.ofRecord_toRecord {fields : Value} {view : EditorView} {l : ViewLayout}
    (h : ofRecord fields (.obj view.toRecord) = .ok l) :
    Layout.compile fields (.obj view.config) = .ok l.sections ∧
      l.warningsValue = .list (if view.sections.isSome = true ∧ l.sections = [] then
        [warning view.id (.str view.slug)] else []) := by
  have hhas : Obj.has view.config "sections" = view.sections.isSome := by
    rw [EditorView.config]
    cases view.sections <;> rfl
  have hread : ofRecord fields (.obj view.toRecord) = (do
      let sections ← Layout.compile fields (.obj view.config)
      return ⟨sections, if sections.isEmpty && Obj.has view.config "sections" then
        some (view.id, .str view.slug) else none⟩) := rfl
  simp only [hread, Outcome.bind_eq_ok_iff, Outcome.pure_eq_ok_iff] at h
  obtain ⟨sections, hsections, rfl⟩ := h
  refine ⟨hsections, ?_⟩
  rw [warningsValue, hhas]
  cases view.sections <;> cases sections <;> rfl

/-- A view that has been read lists sections exactly if its record carries a list of them. -/
theorem EditorView.isSome_sections_iff {record : Obj} {view : EditorView}
    (h : ofRecord record = .ok view) : view.sections.isSome = true ↔
      ∃ raws, sectionsOf? (.obj record) = .ok (some raws) := by
  obtain ⟨listed, hlisted, hread⟩ := mapM_sectionsOf?_of_ofRecord h
  rw [hlisted]
  cases listed with
  | none =>
    obtain hnone : none = view.sections := Except.ok.inj hread
    simp [← hnone]
  | some raws =>
    obtain ⟨items, -, hsome⟩ := Outcome.mapM_some_eq_ok_iff.mp hread
    simp [← hsome]

/-- A layout shows what is asked for, and nothing else. Without a list of sections it is one section
with every declared field; with one, the objects in the list that have references which show a field
become its sections, in order, and these references become their rows, in order, each as wide as the
section has room for and with the field that it leads to. A view that has been read gets a warning
exactly if it lists sections and its layout is empty. -/
theorem Layout.compile_faithful {fields : List Value}
    (hdistinct : ((declaredFields (.list fields)).map fun f => Obj.get f "key").Nodup) :
    (∀ config sections, compile (.list fields) config = .ok sections →
      (sections? config = none → ∃ s, sections = [s] ∧
        s.rows = (declaredFields (.list fields)).map fun f => ⟨Obj.get f "key", 1, .obj f⟩) ∧
      ∀ raws, sections? config = some raws →
        List.Forall₂ (IsCompiled (declaredFields (.list fields))) (shownSections 0 raws) sections) ∧
    ∀ record view, EditorView.ofRecord record = .ok view →
      (view.sections.isSome = true ↔
        ∃ raws, EditorView.sectionsOf? (.obj record) = .ok (some raws)) ∧
      ∀ l, ViewLayout.ofRecord (.list fields) (.obj view.toRecord) = .ok l →
        compile (.list fields) (.obj view.config) = .ok l.sections ∧
        l.warningsValue = .list (if view.sections.isSome = true ∧ l.sections = [] then
          [ViewLayout.warning view.id (.str view.slug)] else []) := by
  refine ⟨fun config sections h => ⟨fun hnone => ?_, fun raws hraws => ?_⟩, fun record view hview =>
    ⟨EditorView.isSome_sections_iff hview, fun l hl => ViewLayout.ofRecord_toRecord hl⟩⟩
  · have hsections := of_compile_eq_ok h
    rw [hnone] at hsections
    exact ⟨_, hsections.symm, rfl⟩
  · have hsections := of_compile_eq_ok h
    rw [hraws] at hsections
    exact sectionsFrom_forall₂ hdistinct hsections

/-- The layout of an article has one section with three rows, and a view whose list of sections has
no section in it leads to a warning. -/
theorem Layout.article_faithful :
    (∃ given, compile articleFields (.obj olderConfig) = .ok given ∧
      given.map (fun s => s.rows.length) = [3]) ∧
    ∃ view l, EditorView.ofRecord [("sections", .list [.str "body"])] = .ok view ∧
      ViewLayout.ofRecord articleFields (.obj view.toRecord) = .ok l ∧ view.sections.isSome = true ∧
      l.warningsValue = .list [ViewLayout.warning view.id (.str view.slug)] := by
  have hdistinct : ((declaredFields articleFields).map fun f => Obj.get f "key").Nodup := by
    change [Value.str "body", .str "cover"].Nodup
    simp
  obtain ⟨hlayouts, hviews⟩ := compile_faithful hdistinct
  constructor
  · have hgiven : (compile articleFields (.obj olderConfig)).toOption.isSome := by decide +kernel
    obtain ⟨given, hgiven⟩ := Option.isSome_iff_exists.mp hgiven
    have hgiven := Outcome.eq_ok_of_toOption hgiven
    have hsections := (hlayouts _ _ hgiven).2 ((sections? (.obj olderConfig)).getD []) rfl
    have hrows : ((shownSections 0 ((sections? (.obj olderConfig)).getD [])).map
        fun place => (shownRefs place.1).length) = given.map fun s => s.rows.length := by
      rw [← List.forall₂_eq_eq_eq, List.forall₂_map_left_iff, List.forall₂_map_right_iff]
      exact hsections.imp fun place s hs => hs.rows.length_eq
    exact ⟨given, hgiven, hrows.symm.trans (by decide +kernel)⟩
  · have hempty : ((EditorView.ofRecord [("sections", .list [.str "body"])]).toOption.bind
        fun view => (ViewLayout.ofRecord articleFields (.obj view.toRecord)).toOption.map
          fun l => l.sections.length) = some 0 := by decide +kernel
    obtain ⟨view, hview, hempty⟩ := Option.bind_eq_some_iff.mp hempty
    obtain ⟨l, hl, hempty⟩ := Option.map_eq_some_iff.mp hempty
    have hview := Outcome.eq_ok_of_toOption hview
    have hl := Outcome.eq_ok_of_toOption hl
    obtain ⟨hsome, hwarnings⟩ := hviews _ _ hview
    have hlisted := hsome.mpr ⟨_, rfl⟩
    refine ⟨view, l, hview, hl, hlisted, ?_⟩
    rw [(hwarnings l hl).2, if_pos ⟨hlisted, List.eq_nil_of_length_eq_zero hempty⟩]

end ContentEngine
