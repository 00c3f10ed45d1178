import ContentEngine.Proofs.View.Stored

/-!
# Layouts of views that have been read

A configuration gives a layout twice: as it was sent, and as it stands in the view that has been
read of it. A section keeps its texts, its number of columns and the references under `fields` with
their widths, so that both layouts agree section by section (`Layout.section?_members`). The older
names of the list of references are known to the layout alone, and a section that uses one of them
is read as a section without references. `layout_kept_iff` says that this is the only difference.
-/

namespace ContentEngine

variable {fields : List Obj} {o : Obj} {ref : Value} {index : Nat}

/-! ### References -/

namespace FieldRef

theorem trim_firstText (o : Obj) (names : List String) :
    trim (firstText o names) = firstText o names := by
  induction names with
  | nil => rfl
  | cons name rest ih =>
    rw [firstText]
    split
    · exact ih
    · exact trim_trim _

theorem trim_key (ref : Value) : trim (key ref) = key ref := by
  unfold key
  split
  · exact trim_trim _
  · exact trim_firstText _ _

end FieldRef

namespace SectionRef

variable {r : SectionRef}

theorem key_eq_empty_of_ofValue? (h : ofValue? ref = .ok none) : FieldRef.key ref = "" := by
  rw [ofValue?] at h
  split at h
  · assumption
  · rw [Outcome.bind_eq_ok_iff] at h
    obtain ⟨width, -, h⟩ := h
    rw [Outcome.pure_eq_ok_iff] at h
    contradiction

theorem key_toValue (htrim : trim r.key = r.key) (hne : r.key ≠ "") :
    FieldRef.key r.toValue = r.key := by
  have hget : Obj.get r.toValue.members "key" = .str r.key := rfl
  have hkey : FieldRef.key r.toValue = FieldRef.firstText r.toValue.members FieldRef.keyNames := rfl
  rw [hkey, FieldRef.keyNames, FieldRef.firstText, hget, Value.asText?, Option.getD_some, htrim,
    if_neg hne]

theorem isHidden_toValue (r : SectionRef) : FieldRef.isHidden r.toValue = r.hidden := by
  rcases r with ⟨key, width, _ | _⟩ <;> rfl

/-- A reference that has been read names its field as before and is hidden as before; it has a width
of at least one. -/
theorem of_ofValue? (h : ofValue? ref = .ok (some r)) :
    FieldRef.key ref ≠ "" ∧ FieldRef.key r.toValue = FieldRef.key ref ∧
      FieldRef.isHidden r.toValue = FieldRef.isHidden ref ∧
      ∃ width, FieldRef.width? ref = .ok width ∧
        FieldRef.width? r.toValue = .ok (some ((width.filter (0 < ·)).getD 1)) := by
  rw [ofValue?] at h
  split at h
  · rw [Except.ok.injEq] at h
    contradiction
  · next hkey =>
    simp only [Outcome.bind_eq_ok_iff, Outcome.pure_eq_ok_iff, Option.some.injEq] at h
    obtain ⟨width, hwidth, rfl⟩ := h
    exact ⟨hkey, key_toValue (FieldRef.trim_key ref) hkey, isHidden_toValue _, width, hwidth, rfl⟩

end SectionRef

namespace Layout

/-- A width that has been brought to at least one takes as many columns as before. -/
theorem clampWidth_filter {columns : Int} (hcolumns : 1 ≤ columns) (width : Option Int) :
    clampWidth columns (some ((width.filter (0 < ·)).getD 1)) = clampWidth columns width := by
  cases width with
  | none => simp [clampWidth]; omega
  | some width =>
    by_cases hpos : 0 < width
    · simp [clampWidth, Option.filter, hpos]
    · have hless : width < 1 := by omega
      simp [clampWidth, Option.filter, hpos, hless]
      omega

variable {columns : Int} {refs : List Value} {found : List (Option SectionRef)}
variable {shown again : List LayoutRow}

/-- References that have been read lead to the same rows. -/
theorem rows_toValue (hcolumns : 1 ≤ columns) (hfound : refs.mapM SectionRef.ofValue? = .ok found)
    (hshown : rows fields columns refs = .ok shown) :
    rows fields columns ((found.filterMap fun r => r).map SectionRef.toValue) = .ok shown := by
  induction refs generalizing found shown with
  | nil =>
    rw [List.mapM_nil, Outcome.pure_eq_ok_iff] at hfound
    subst hfound
    exact hshown
  | cons ref rest ih =>
    simp only [List.mapM_cons, Outcome.bind_eq_ok_iff, Outcome.pure_eq_ok_iff] at hfound
    obtain ⟨first, hfirst, others, hothers, rfl⟩ := hfound
    rw [rows] at hshown
    cases first with
    | none =>
      rw [if_pos (.inr (SectionRef.key_eq_empty_of_ofValue? hfirst))] at hshown
      rw [List.filterMap_cons_none rfl]
      exact ih hothers hshown
    | some r =>
      obtain ⟨hne, hkey, hhidden, width, hwidth, hagain⟩ := SectionRef.of_ofValue? hfirst
      have hsome : (some r :: others).filterMap (fun r => r) = r :: others.filterMap fun r => r :=
        rfl
      rw [hsome, List.map_cons, rows, hkey, hhidden, hagain]
      split at hshown
      · next hskip =>
        rw [if_pos hskip]
        exact ih hothers hshown
      · next hskip =>
        rw [hwidth, Outcome.ok_bind, Outcome.bind_eq_ok_iff] at hshown
        obtain ⟨tail, htail, hshown⟩ := hshown
        rw [if_neg hskip, Outcome.ok_bind, ih hothers htail, clampWidth_filter hcolumns]
        exact hshown

/-- Whether a reference shows no field: it is hidden, or it names none. -/
def IsIdle (ref : Value) : Prop :=
  FieldRef.isHidden ref = true ∨ FieldRef.key ref = ""

theorem rows_eq_nil_iff (h : rows fields columns refs = .ok shown) :
    shown = [] ↔ ∀ ref ∈ refs, IsIdle ref := by
  induction refs generalizing shown with
  | nil =>
    rw [rows, Except.ok.injEq] at h
    simp [← h]
  | cons ref rest ih =>
    rw [rows] at h
    rw [List.forall_mem_cons]
    split at h
    · next hidle => rw [ih h, IsIdle, and_iff_right hidle]
    · next hidle =>
      simp only [Outcome.bind_eq_ok_iff, Outcome.pure_eq_ok_iff] at h
      obtain ⟨width, -, tail, -, rfl⟩ := h
      exact iff_of_false (List.cons_ne_nil _ _) fun hall => hidle hall.1

end Layout

/-! ### Sections -/

namespace Layout

theorem one_le_namedColumns (name : String) : 1 ≤ namedColumns name := by
  rw [namedColumns]
  split
  · decide
  · split <;> decide

theorem columns_eq_ok_iff {n : Int} : columns o = .ok n ↔
    ∃ given, (Obj.get o "columns").toInteger = .ok given ∧
      match given.filter (0 < ·) with
      | some columns => columns = n
      | none => ∃ name, (Obj.get o "layout").presentText = .ok name ∧
          namedColumns (lowerText (trim name)) = n := by
  rw [columns, Outcome.bind_eq_ok_iff]
  refine exists_congr fun given => and_congr_right fun _ => ?_
  cases given.filter (0 < ·) <;> simp only [Outcome.bind_eq_ok_iff, Outcome.pure_eq_ok_iff]

theorem one_le_columns {n : Int} (h : columns o = .ok n) : 1 ≤ n := by
  obtain ⟨given, -, h⟩ := columns_eq_ok_iff.mp h
  cases hgiven : given.filter (0 < ·) with
  | none =>
    rw [hgiven] at h
    obtain ⟨name, -, rfl⟩ := h
    exact one_le_namedColumns _
  | some columns =>
    rw [hgiven] at h
    have hpos := (Option.filter_eq_some_iff.mp hgiven).2
    obtain rfl : columns = n := h
    exact of_decide_eq_true hpos

end Layout

theorem ne_empty_of_textOr {key default text : String} (h : textOr o key default = .ok text)
    (hdefault : default ≠ "") : text ≠ "" := by
  rw [textOr, Value.orElse] at h
  split at h
  · next htruthy => exact Value.text_ne_empty htruthy h
  · rw [Value.text, Except.ok.injEq] at h
    exact h ▸ hdefault

theorem textOr_of_text {key text default : String} (h : Obj.get o key = .str text)
    (hne : text = "" → default = "") : textOr o key default = .ok text := by
  rw [textOr, h, Value.orElse]
  by_cases hempty : text = ""
  · rw [hempty, hne hempty]
    rfl
  · rw [if_pos (Value.truthy_str hempty)]
    rfl

namespace ViewSection

variable {s : ViewSection}

/-- What a section is read as, in terms of the object that describes it. -/
structure IsReadOf (s : ViewSection) (index : Nat) (o : Obj) : Prop where
  id : textOr o "id" ("widget-" ++ Layout.sectionNumber index) = .ok s.id
  title : textOr o "title" ("Widget " ++ Layout.sectionNumber index) = .ok s.title
  description : textOr o "description" "" = .ok s.description
  layout : textOr o "layout" "one-column" = .ok s.layout
  refs : ∃ found, (Obj.getList o "fields").mapM SectionRef.ofValue? = .ok found ∧
    s.refs = found.filterMap fun r => r
  columns : ∃ given, (Obj.get o "columns").toInteger = .ok given ∧ s.columns = given.filter (0 < ·)

theorem isReadOf_of_ofObj (h : ofObj index o = .ok s) : s.IsReadOf index o := by
  simp only [ofObj, Outcome.bind_eq_ok_iff, Outcome.pure_eq_ok_iff] at h
  obtain ⟨id, hid, title, htitle, description, hdescription, layout, hlayout, refs, hrefs, columns,
    hcolumns, rfl⟩ := h
  exact ⟨hid, htitle, hdescription, hlayout, ⟨refs, hrefs, rfl⟩, ⟨columns, hcolumns, rfl⟩⟩

namespace IsReadOf

variable (h : s.IsReadOf index o)
include h

theorem textOr_id (default : String) : textOr s.members "id" default = .ok s.id :=
  textOr_of_text rfl fun hempty => absurd hempty (ne_empty_of_textOr h.id (by simp))

theorem textOr_title (default : String) : textOr s.members "title" default = .ok s.title :=
  textOr_of_text rfl fun hempty => absurd hempty (ne_empty_of_textOr h.title (by simp))

/-- The name of the usual arrangement stands for as many columns as no name does. -/
theorem namedColumns_layout {name : String} (hname : (Obj.get o "layout").presentText = .ok name) :
    Layout.namedColumns (lowerText (trim s.layout)) =
      Layout.namedColumns (lowerText (trim name)) := by
  have hlayout := h.layout
  rw [textOr, Value.orElse] at hlayout
  rw [Value.presentText] at hname
  split at hname
  · next htruthy =>
    rw [if_pos htruthy, hname, Except.ok.injEq] at hlayout
    rw [hlayout]
  · next hempty =>
    rw [if_neg hempty, Value.text, Except.ok.injEq] at hlayout
    rw [Except.ok.injEq] at hname
    rw [← hlayout, ← hname]
    decide +kernel

/-- A section that has been read has as many columns as before. -/
theorem columns_members {n : Int} (hn : Layout.columns o = .ok n) :
    Layout.columns s.members = .ok n := by
  obtain ⟨given, hgiven, hn⟩ := Layout.columns_eq_ok_iff.mp hn
  obtain ⟨given', hgiven', hcolumns⟩ := h.columns
  rw [hgiven, Except.ok.injEq] at hgiven'
  subst hgiven'
  have hread : (Obj.get s.members "columns").toInteger = .ok s.columns := by
    rcases s with ⟨_, _, _, _, _, _ | columns⟩ <;> rfl
  have hfilter : s.columns.filter (0 < ·) = s.columns := by
    rw [hcolumns, Option.filter_filter]
    simp
  refine Layout.columns_eq_ok_iff.mpr ⟨s.columns, hread, ?_⟩
  rw [hfilter, hcolumns]
  cases hpositive : given.filter (0 < ·) with
  | some columns =>
    rw [hpositive] at hn
    exact hn
  | none =>
    rw [hpositive] at hn
    obtain ⟨name, hname, hn⟩ := hn
    exact ⟨s.layout, Value.presentText_str _, (h.namedColumns_layout hname).trans hn⟩

end IsReadOf

end ViewSection

/-! ### Layouts -/

namespace Layout

/-- Whether a section lists its references under the current name, or shows no field anyway. -/
def IsCurrent (o : Obj) : Prop :=
  (Obj.get o "fields").asList? = none → ∀ ref ∈ references o, IsIdle ref

variable {raw : Value} {s : ViewSection}

theorem references_of_fields {items : List Value} (h : (Obj.get o "fields").asList? = some items) :
    references o = items := by
  rw [references, firstList?, h]
  rfl

theorem references_members (s : ViewSection) :
    references s.members = s.refs.map SectionRef.toValue :=
  references_of_fields rfl

theorem section?_eq_ok_iff {found : Option LayoutSection} (ho : raw.asObj? = some o) :
    Layout.section? fields index raw = .ok found ↔ ∃ n shown, columns o = .ok n ∧
      rows fields n (references o) = .ok shown ∧
      if shown = [] then none = found
      else ∃ id title description,
        textOr o "id" ("widget-" ++ sectionNumber index) = .ok id ∧
        textOr o "title" ("Widget " ++ sectionNumber index) = .ok title ∧
        textOr o "description" "" = .ok description ∧
        some ⟨id, title, description, n, shown⟩ = found := by
  rw [section?, ho]
  simp only [Outcome.bind_eq_ok_iff, exists_and_left]
  refine exists_congr fun n => and_congr_right fun _ => exists_congr fun shown =>
    and_congr_right fun _ => ?_
  cases shown with
  | nil => simp only [Outcome.pure_eq_ok_iff, if_true]
  | cons row rest =>
    simp only [Outcome.bind_eq_ok_iff, Outcome.pure_eq_ok_iff, reduceCtorEq, if_false]

/-- A section that has been read is shown as before if its references stand under the current name,
and otherwise it is not shown. -/
theorem section?_toValue {found : Option LayoutSection} (ho : raw.asObj? = some o)
    (hs : ViewSection.ofObj index o = .ok s) (h : section? fields index raw = .ok found)
    (place : Nat) : section? fields place s.toValue =
      .ok (if (Obj.get o "fields").asList? = none then none else found) := by
  have hread := ViewSection.isReadOf_of_ofObj hs
  obtain ⟨refs, hrefs, hsrefs⟩ := hread.refs
  obtain ⟨n, shown, hn, hshown, hfound⟩ := (section?_eq_ok_iff ho).mp h
  refine (section?_eq_ok_iff (o := s.members) rfl).mpr ?_
  rw [references_members, hsrefs]
  cases hfields : (Obj.get o "fields").asList? with
  | none =>
    rw [Obj.getList, hfields, Option.getD_none, List.mapM_nil, Outcome.pure_eq_ok_iff] at hrefs
    subst hrefs
    exact ⟨n, [], hread.columns_members hn, rfl, by simp⟩
  | some items =>
    rw [references_of_fields hfields] at hshown
    rw [Obj.getList, hfields, Option.getD_some] at hrefs
    refine ⟨n, shown, hread.columns_members hn, rows_toValue (one_le_columns hn) hrefs hshown, ?_⟩
    simp only [reduceCtorEq, if_false]
    split at hfound
    · next hempty => rw [if_pos hempty, hfound]
    · next hsome =>
      obtain ⟨id, title, description, hid, htitle, hdescription, hfound⟩ := hfound
      have hsame := Except.ok.inj (hid.symm.trans hread.id)
      have htitles := Except.ok.inj (htitle.symm.trans hread.title)
      have htexts := Except.ok.inj (hdescription.symm.trans hread.description)
      rw [if_neg hsome]
      exact ⟨s.id, s.title, s.description, hread.textOr_id _, hread.textOr_title _,
        textOr_of_text rfl fun _ => rfl, by rw [← hfound, hsame, htitles, htexts]⟩

theorem isCurrent_iff {found : Option LayoutSection} (ho : raw.asObj? = some o)
    (h : section? fields index raw = .ok found) :
    IsCurrent o ↔ ((Obj.get o "fields").asList? = none → found = none) := by
  obtain ⟨n, shown, -, hshown, hfound⟩ := (section?_eq_ok_iff ho).mp h
  rw [IsCurrent, ← rows_eq_nil_iff hshown]
  refine imp_congr_right fun _ => ?_
  split at hfound
  · next hempty => simp [hempty, ← hfound]
  · next hsome =>
    obtain ⟨id, title, description, -, -, -, rfl⟩ := hfound
    simp [hsome]

/-- Sections that have been read make up a layout with no more sections than before, and with the
same ones exactly if each of them is current. -/
theorem sectionsFrom_toValue {raws : List Value} {sections : List ViewSection}
    {given : List LayoutSection} (hsections : ViewSection.listFrom index raws = .ok sections)
    (hgiven : sectionsFrom fields index raws = .ok given) (place : Nat) :
    ∃ again, sectionsFrom fields place (sections.map ViewSection.toValue) = .ok again ∧
      again.length ≤ given.length ∧
      (again = given ↔ ∀ raw ∈ raws, ∀ o, raw.asObj? = some o → IsCurrent o) := by
  induction raws generalizing index place sections given with
  | nil =>
    rw [ViewSection.listFrom, Except.ok.injEq] at hsections
    rw [sectionsFrom, Except.ok.injEq] at hgiven
    subst hsections hgiven
    exact ⟨[], rfl, Nat.le_refl _, by simp⟩
  | cons raw rest ih =>
    rw [sectionsFrom, Outcome.bind_eq_ok_iff] at hgiven
    obtain ⟨found, hfound, hgiven⟩ := hgiven
    rw [ViewSection.listFrom] at hsections
    cases ho : raw.asObj? with
    | none =>
      -- what is no object is passed over on both sides
      rw [ho] at hsections
      rw [section?, ho, Except.ok.injEq] at hfound
      subst hfound
      obtain ⟨again, hagain, hle, hiff⟩ := ih hsections hgiven place
      exact ⟨again, hagain, hle, hiff.trans (by simp [ho])⟩
    | some o =>
      simp only [ho, Outcome.bind_eq_ok_iff, Outcome.pure_eq_ok_iff] at hsections
      obtain ⟨s, hs, others, hothers, rfl⟩ := hsections
      have hsection := section?_toValue ho hs hfound place
      have hcurrent := isCurrent_iff ho hfound
      have hforall : (∀ raw' ∈ raw :: rest, ∀ o, raw'.asObj? = some o → IsCurrent o) ↔
          IsCurrent o ∧ ∀ raw' ∈ rest, ∀ o, raw'.asObj? = some o → IsCurrent o := by
        simp [ho]
      rw [hforall]
      cases found with
      | none =>
        obtain ⟨again, hagain, hle, hiff⟩ := ih hothers hgiven (place + 1)
        refine ⟨again, ?_, hle, ?_⟩
        · rw [List.map_cons, sectionsFrom, hsection, ite_self]
          exact hagain
        · rw [hiff, and_iff_right (hcurrent.mpr fun _ => rfl)]
      | some shown =>
        simp only [Outcome.bind_eq_ok_iff, Outcome.pure_eq_ok_iff] at hgiven
        obtain ⟨later, hlater, rfl⟩ := hgiven
        obtain ⟨again, hagain, hle, hiff⟩ := ih hothers hlater (place + 1)
        by_cases hfields : (Obj.get o "fields").asList? = none
        · -- the section is lost, so that there are too few of them
          have hlost : ¬IsCurrent o := fun h => by simpa using hcurrent.mp h hfields
          refine ⟨again, ?_, Nat.le_succ_of_le hle, iff_of_false ?_ fun h => hlost h.1⟩
          · rw [List.map_cons, sectionsFrom, hsection, if_pos hfields]
            exact hagain
          · rintro rfl
            exact absurd hle (Nat.not_succ_le_self _)
        · refine ⟨shown :: again, ?_, Nat.succ_le_succ hle, ?_⟩
          · rw [List.map_cons, sectionsFrom, hsection, if_neg hfields, Outcome.ok_bind]
            simp only [hagain, Outcome.ok_bind]
            rfl
          · rw [List.cons.injEq, and_iff_right rfl, hiff,
              and_iff_right (hcurrent.mpr fun hnone => absurd hnone hfields)]

end Layout

/-- A view whose configuration lists sections is read with these. -/
theorem EditorView.sections_of_ofRecord {cfg : Obj} {sections : List Value}
    (hsections : Layout.sections? (.obj cfg) = some sections) {view : EditorView}
    (h : ofRecord [("config", .obj cfg)] = .ok view) :
    ∃ items, view.sections = some items ∧ ViewSection.listFrom 0 sections = .ok items := by
  have hfirst : Layout.firstList? cfg ["sections", "widgets"] = some sections := hsections
  obtain ⟨config, hconfig, hread⟩ := mapM_sectionsIn?_of_ofRecord h
  obtain rfl : cfg = config := Except.ok.inj hconfig
  rw [sectionsIn?, hfirst, Option.some_or, Option.some_or] at hread
  obtain ⟨items, hitems, hview⟩ := Outcome.mapM_some_eq_ok_iff.mp hread
  exact ⟨items, hview.symm, hitems⟩

/-- The layout that a configuration with a list of sections gives to some fields is also the layout
of the view that is read of it, exactly if no section that shows a field lists its references under
an older name than `fields`. Otherwise sections are lost. -/
theorem layout_kept_iff {fields : Value} {cfg : Obj} {sections : List Value}
    (hsections : Layout.sections? (.obj cfg) = some sections) {view : EditorView}
    (hview : EditorView.ofRecord [("config", .obj cfg)] = .ok view) {given : List LayoutSection}
    (hgiven : Layout.compile fields (.obj cfg) = .ok given) :
    ∃ again, Layout.compile fields (.obj view.config) = .ok again ∧ again.length ≤ given.length ∧
      (again = given ↔ ∀ raw ∈ sections, ∀ o, raw.asObj? = some o →
        (Obj.get o "fields").asList? = none → ∀ ref ∈ Layout.references o,
          FieldRef.isHidden ref = true ∨ FieldRef.key ref = "") := by
  obtain ⟨items, hview, hitems⟩ := EditorView.sections_of_ofRecord hsections hview
  have hagain : Layout.sections? (.obj view.config) =
      some (items.map ViewSection.toValue) := by
    rw [EditorView.config, hview]
    rfl
  rw [Layout.compile, hsections] at hgiven
  rw [Layout.compile, hagain]
  simp only at hgiven ⊢
  split at hgiven
  · contradiction
  · next hkeys =>
    rw [if_neg hkeys]
    exact Layout.sectionsFrom_toValue hitems hgiven 0

/-! ### Sections in older spellings -/

/-- The fields of an article. -/
def articleFields : Value :=
  .list [.obj [("key", .str "body"), ("type", .str "text")],
    .obj [("key", .str "cover"), ("type", .str "image")]]

/-- A configuration in which references have older spellings, and a section that lists its
references under an older name shows none of them. -/
def olderConfig : Obj :=
  [("widgets", .list [
    .obj [("layout", .str "two-column"), ("fields", .list [.str " title ",
      .obj [("field_key", .str "body"), ("colSpan", .str "2")],
      .obj [("id", .str "cover"), ("width", .int 9)]])],
    .str "cover",
    .obj [("rows", .list [.obj [("key", .str "body"), ("visible", .bool false)]])]])]

/-- A configuration with a section that lists its references under an older name. -/
def rowsConfig : Obj :=
  [("sections", .list [.obj [("rows", .list [.str "body"])]])]

/-- Whatever spelling the references have, they keep their places. -/
theorem older_references_kept : ∃ view given,
    EditorView.ofRecord [("config", .obj olderConfig)] = .ok view ∧
      Layout.compile articleFields (.obj olderConfig) = .ok given ∧ given.length = 1 ∧
      Layout.compile articleFields (.obj view.config) = .ok given := by
  have hsome : (EditorView.ofRecord [("config", .obj olderConfig)]).toOption.isSome := by
    decide +kernel
  have hlength : (Layout.compile articleFields (.obj olderConfig)).toOption.map List.length =
      some 1 := by decide +kernel
  obtain ⟨view, hview⟩ := Option.isSome_iff_exists.mp hsome
  obtain ⟨given, hgiven, hone⟩ := Option.map_eq_some_iff.mp hlength
  have hview := Outcome.eq_ok_of_toOption hview
  have hgiven := Outcome.eq_ok_of_toOption hgiven
  obtain ⟨again, hagain, -, hiff⟩ := layout_kept_iff rfl hview hgiven
  have hkept : again = given := hiff.mpr fun raw hraw o ho hfields => by
    rcases hraw with _ | ⟨_, _ | ⟨_, _ | ⟨_, hraw⟩⟩⟩
    · obtain rfl := Option.some.inj ho
      contradiction
    · contradiction
    · obtain rfl := Option.some.inj ho
      exact fun ref href => .inl (List.mem_singleton.mp href ▸ rfl)
    · contradiction
  exact ⟨view, given, hview, hgiven, hone, hkept ▸ hagain⟩

/-- A section that lists its references under an older name is lost when the view is read. -/
theorem rows_lost : ∃ view given,
    EditorView.ofRecord [("config", .obj rowsConfig)] = .ok view ∧
      Layout.compile articleFields (.obj rowsConfig) = .ok given ∧ given.length = 1 ∧
      Layout.compile articleFields (.obj view.config) = .ok [] := by
  have hread : (EditorView.ofRecord [("config", .obj rowsConfig)]).toOption.map (fun view =>
      (Layout.compile articleFields (.obj view.config)).toOption.map List.length) =
        some (some 0) := by decide +kernel
  have hlength : (Layout.compile articleFields (.obj rowsConfig)).toOption.map List.length =
      some 1 := by decide +kernel
  obtain ⟨view, hview, hnone⟩ := Option.map_eq_some_iff.mp hread
  obtain ⟨given, hgiven, hone⟩ := Option.map_eq_some_iff.mp hlength
  obtain ⟨again, hagain, hempty⟩ := Option.map_eq_some_iff.mp hnone
  rw [List.eq_nil_of_length_eq_zero hempty] at hagain
  exact ⟨view, given, Outcome.eq_ok_of_toOption hview, Outcome.eq_ok_of_toOption hgiven, hone,
    Outcome.eq_ok_of_toOption hagain⟩

end ContentEngine
