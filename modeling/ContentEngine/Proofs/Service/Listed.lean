import ContentEngine.Proofs.Display.Users
import ContentEngine.Proofs.Json.Text
import ContentEngine.Proofs.Repeater.WellFormed
import ContentEngine.Proofs.Service.Outage
import ContentEngine.Proofs.Service.Resolve
import ContentEngine.Proofs.Title.Line
import ContentEngine.Proofs.World.Attained

/-!
# Lists of entries with their values as texts

How a value is shown depends on its field. A field that is read is in strict form, and so is every
subfield of a repeater, to any depth; nothing about such a field keeps a value from being shown
(`Display.hasResult_valueText`). All that can is an integer with too many digits, in the value or in
what is known of a user. Rows are shown by showing some of what is in them, so the induction is on
the weight of the value.

Where an entry refers to a user, the user is shown by label. Between the stored entries and the
texts lie the strict form of the fields, the identifiers that are collected from all entries, one
look-up, and the writing of the texts, each of which derives keys from the same values on its own.
`World.ShowsUsers` says what comes of it without any of them, and `Service.user_fields_displayed`
that it does, in every world where users can be looked up.

What an item is shown as depends on its text alone. An item that is no identifier, such as an
integer, is shown as a user if its text is the identifier of a user that some entry of the list
mentions (`ServiceCall.integer_shown_as_user`).
-/

namespace ContentEngine

open Outcome (HasResult hasResult_bind_left hasResult_bind_pure hasResult_mapM hasResult_ok
  hasResult_pure)

namespace Value

variable {v a b : Value}

theorem eq_null_of_isNull (h : v.isNull = true) : v = null := by
  cases v <;> first | rfl | cases h

theorem hasResult_plainText : HasResult v.plainText ↔ v.HasText := by
  rw [plainText]
  split
  · next hnull =>
    obtain rfl := eq_null_of_isNull hnull
    exact iff_of_true (hasResult_ok _) hasText_null
  · rw [hasResult_bind_pure, hasResult_text]

theorem HasText.orElse (ha : a.HasText) (hb : b.HasText) : (a.orElse b).HasText := by
  rw [Value.orElse]
  split
  · exact ha
  · exact hb

/-- The items of a list that has a text, or else the value alone, have texts. -/
theorem HasText.items (h : v.HasText) : ∀ item ∈ v.asList?.getD [v], item.HasText := by
  cases v with
  | list items => exact hasText_list.mp h
  | _ => exact List.forall_mem_singleton.mpr h

theorem HasText.get_members (h : v.HasText) (key : String) : (Obj.get v.members key).HasText := by
  rw [members]
  cases ho : v.asObj? with
  | none => exact hasText_null
  | some o => exact (h.asObj? ho).get key

end Value

namespace Display

variable {c : UserContext} {e : Extent} {field v : Value}

/-! ### Values that are no rows -/

theorem hasResult_userText (h : c.HasLabels) {display : UserDisplay} {id : Value} :
    HasResult (userText c.users display id) ↔ id.HasText := by
  rw [userText, ← Value.hasResult_plainText]
  refine (Outcome.hasResult_bind_iff (q := True) fun text _ => ?_).trans (and_iff_left trivial)
  dsimp only
  split
  · simp
  · exact iff_true_intro (hasResult_bind_pure.mpr
      (hasResult_userLabel.mpr (h text)))

theorem hasResult_userTexts (h : c.HasLabels) (hv : v.HasText) :
    HasResult (userTexts c field v) := by
  rw [userTexts]
  refine hasResult_bind_pure.mpr (hasResult_mapM.mpr fun item hitem => ?_)
  exact (hasResult_userText h).mpr (hv.items item hitem)

theorem hasResult_choiceTexts (hv : v.HasText) : HasResult (choiceTexts v) := by
  cases v with
  | list items =>
    exact hasResult_mapM.mpr fun item hitem =>
      Value.hasResult_plainText.mpr (Value.hasText_list.mp hv item hitem)
  | str text => exact hasResult_ok _
  | _ =>
    exact hasResult_bind_pure.mpr (Value.hasResult_plainText.mpr hv)

theorem hasResult_relationText (hv : v.HasText) : HasResult (relationText v) := by
  cases v with
  | list items =>
    refine hasResult_bind_pure.mpr (hasResult_mapM.mpr ?_)
    exact fun item hitem => Value.hasResult_text.mpr (Value.hasText_list.mp hv item hitem)
  | _ => exact Value.hasResult_text.mpr hv

theorem hasResult_joinParts {separator : String} {o : Obj} {keys : List String}
    (ho : (Value.obj o).HasText) : HasResult (joinParts separator o keys) :=
  hasResult_bind_pure.mpr (hasResult_mapM.mpr fun key _ =>
    Value.hasResult_plainText.mpr (ho.get key))

theorem hasResult_of_objectText? {kind : FieldKind} {o : Obj} {shown : Outcome String}
    (ho : (Value.obj o).HasText) (h : objectText? kind o = some shown) : HasResult shown := by
  have hmember (key : String) : HasResult (Obj.get o key).plainText :=
    Value.hasResult_plainText.mpr (ho.get key)
  cases kind <;> cases h <;> first
    | exact hmember _
    | exact hasResult_joinParts ho
    | exact Value.hasResult_plainText.mpr (((ho.get _).orElse (ho.get _)).orElse (ho.get _))

theorem hasResult_scalarText (hv : v.HasText) : HasResult (scalarText v) := by
  cases v with
  | bool b => exact hasResult_ok _
  | _ => exact Value.hasResult_scalarLine hv

/-- Every value that has a text can be shown where it is no repeater's. -/
theorem hasResult_plainValue (h : c.HasLabels) (hv : v.HasText) (kind : FieldKind) :
    HasResult (plainValue kind c field v) := by
  have hobject {shown : Outcome String} (hshown : v.asObj?.bind (objectText? kind) = some shown) :
      HasResult shown := by
    obtain ⟨o, ho, hshown⟩ := Option.bind_eq_some_iff.mp hshown
    exact hasResult_of_objectText? (hv.asObj? ho) hshown
  cases kind with
  | checkbox | multiselect | tags =>
    exact hasResult_bind_pure.mpr (hasResult_choiceTexts hv)
  | relationUser => exact hasResult_userTexts h hv
  | relation => exact hasResult_relationText hv
  | json => exact hasResult_ok _
  | _ =>
    simp only [plainValue]
    split
    · next hshown => exact hobject hshown
    · first | exact hasResult_ok _ | exact hasResult_scalarText hv

/-! ### Fields in strict form -/

/-- Whether a value is a field of one of the kinds, with a configuration in strict form. -/
structure IsStrictField (kind : FieldKind) (field : Value) : Prop where
  type : Obj.get field.members "type" = .str kind.name
  config : ∃ source, FieldDef.normalConfig kind source = .ok (fieldConfig field)

theorem IsStrictField.ofValue_type {kind : FieldKind} (h : IsStrictField kind field) :
    FieldKind.ofValue (Obj.get field.members "type") = .ok kind := by
  rw [h.type, FieldKind.ofValue_name]

theorem isStrictField_presented {stored : List Obj} {fields : List PresentedField}
    (h : PresentedField.listOf stored = .ok fields) {p : PresentedField} (hp : p ∈ fields) :
    IsStrictField p.definition.kind (.obj p.toObj) where
  type := rfl
  config := by
    have hconfig : fieldConfig (.obj p.toObj) = p.definition.config :=
      fieldConfig_of_config rfl rfl rfl
    rw [hconfig]
    exact PresentedField.exists_normalConfig_of_listOf h hp

/-- A repeater in strict form has its subfields under their keys, and they are in strict form. -/
theorem IsStrictField.subfieldsOf_eq (h : IsStrictField .repeater field) :
    ∃ fields : List FieldDef, subfieldsOf field = .ok (fields.map fun f => (f.key, f.toValue)) ∧
      ∀ f ∈ fields, IsStrictField f.kind f.toValue := by
  obtain ⟨source, hsource⟩ := h.config
  obtain ⟨limits, texts, fields, rules, -, -, hfields, -, hholds⟩ :=
    FieldDef.exists_of_repeaterConfigOf hsource
  have hstrict : ∀ f ∈ fields, f.IsHeader ∧ IsStrictField f.kind f.toValue := by
    intro f hf
    obtain ⟨hheader, hconfig⟩ := FieldDef.exists_normalConfig_of_mem hfields hf
    exact ⟨hheader, rfl, by rwa [FieldDef.fieldConfig_toValue]⟩
  have hlist : Obj.getList (fieldConfig field) "subfields" = fields.map FieldDef.toValue :=
    hholds.getList (by simp [repeaterMembers])
  have hkeyed : (fields.map FieldDef.toValue).mapM
      (fun sub => do return (← subfieldKey sub, sub)) =
        (.ok (fields.map fun f => (f.key, f.toValue)) : Outcome (List (String × Value))) := by
    rw [List.mapM_map]
    refine Outcome.mapM_eq_ok_map fun f hf => ?_
    have hheader := (hstrict f hf).1
    have hkey : subfieldKey f.toValue = .ok f.key := by
      have hmissing : Obj.get f.toObj "field_key" = .null := rfl
      rw [subfieldKey, FieldDef.toValue, Value.asObj?]
      dsimp only
      rw [Obj.firstTruthy, hmissing]
      exact Obj.snakeCase_firstTruthy rfl hheader.isKey hheader.key_ne
    rw [Function.comp_apply, hkey]
    rfl
  refine ⟨fields, ?_, fun f hf => (hstrict f hf).2⟩
  have hfilter : (fields.map fun f => (f.key, f.toValue)).filter (fun entry => entry.1 != "") =
      fields.map fun f => (f.key, f.toValue) := by
    refine List.filter_eq_self.mpr fun entry hentry => ?_
    obtain ⟨f, hf, rfl⟩ := List.mem_map.mp hentry
    exact bne_iff_ne.mpr (hstrict f hf).1.key_ne
  rw [subfieldsOf, hlist, hkeyed, Outcome.ok_bind, hfilter]
  rfl

/-! ### Rows -/

theorem hasResult_rowParts {row : Obj} {room : Nat} {subfields : List (String × Value)}
    (h : ∀ sub ∈ subfields, HasResult (valueText .empty e.inner sub.2 (Obj.get row sub.1))) :
    HasResult (rowParts e row room subfields) := by
  induction subfields generalizing room with
  | nil =>
    rw [rowParts]
    exact hasResult_ok _
  | cons sub rest ih =>
    obtain ⟨key, sub⟩ := sub
    rw [List.forall_mem_cons] at h
    cases room with
    | zero =>
      rw [rowParts]
      exact hasResult_ok _
    | succ more =>
      rw [rowParts]
      refine (hasResult_bind_left fun piece => ?_).mpr h.1
      split
      · exact ih h.2
      · exact hasResult_bind_pure.mpr (ih h.2)

theorem hasResult_rowTexts {subfields : List (String × Value)} {index count : Nat}
    {rows : List Value} (h : ∀ row ∈ rows, ∀ sub ∈ subfields,
      HasResult (valueText .empty e.inner sub.2 (Obj.get row.members sub.1))) :
    HasResult (rowTexts e subfields index count rows) := by
  induction rows generalizing index count with
  | nil =>
    rw [rowTexts]
    exact hasResult_ok _
  | cons row rest ih =>
    rw [List.forall_mem_cons] at h
    cases count with
    | zero =>
      rw [rowTexts]
      exact hasResult_ok _
    | succ more =>
      rw [rowTexts]
      refine (hasResult_bind_left fun _ => ?_).mpr (hasResult_rowParts h.1)
      exact hasResult_bind_pure.mpr (ih h.2)

/-! ### All values -/

theorem hasLabels_empty : UserContext.empty.HasLabels := fun _ _ h => nomatch h

theorem weight_lt_of_mem_rows {rows : List Value} {row : Value} (h : row ∈ rows) (key : String) :
    (Obj.get row.members key).weight < (Value.list rows).weight := by
  have hget := Value.weight_get_le row.members key
  have hmembers := Value.membersWeight_members_le row
  have hrow := Value.weight_lt_of_mem h
  rw [Value.weight]
  omega

/-- Every value that has a text can be shown as the value of a field in strict form. -/
theorem hasResult_valueText {kind : FieldKind} {c : UserContext} {e : Extent} {field v : Value}
    (h : c.HasLabels) (hfield : IsStrictField kind field) (hv : v.HasText) :
    HasResult (valueText c e field v) := by
  unfold valueText
  split
  · exact hasResult_ok _
  · rw [hfield.ofValue_type, Outcome.ok_bind]
    cases kind with
    | repeater =>
      obtain ⟨fields, hfields, hstrict⟩ := hfield.subfieldsOf_eq
      cases hrows : v with
      | list rows =>
        dsimp only
        split
        · exact hasResult_pure _
        · rw [hfields, Outcome.ok_bind]
          refine hasResult_bind_pure.mpr (hasResult_rowTexts ?_)
          -- what is in a row is lighter than the list of rows
          intro row hrow sub hsub
          obtain ⟨f, hf, rfl⟩ := List.mem_map.mp hsub
          exact hasResult_valueText hasLabels_empty (hstrict f hf)
            ((Value.hasText_list.mp (hrows ▸ hv) row hrow).get_members f.key)
      | _ => exact hasResult_pure _
    | _ => exact hasResult_plainValue h hv _
termination_by v.weight
decreasing_by exact hrows ▸ weight_lt_of_mem_rows hrow f.key

/-- Every entry can be shown whose data have texts. -/
theorem hasResult_entryTexts {data : Obj} {fields : List Obj} (h : c.HasLabels)
    (hfields : ∀ f ∈ fields, ∃ kind, IsStrictField kind (.obj f))
    (hdata : ∀ key, (Obj.get data key).HasText) : HasResult (entryTexts c data fields) := by
  rw [entryTexts]
  refine hasResult_bind_pure.mpr (hasResult_mapM.mpr fun f hf => ?_)
  obtain ⟨kind, hstrict⟩ := hfields f (List.mem_of_mem_filter hf)
  exact hasResult_bind_pure.mpr (hasResult_valueText h hstrict (hdata _))

end Display

/-! ### What users are shown as -/

namespace World

/-- Whether an item of a value that refers to users is shown as a text, in a list of entries that
mention some users. An item that names a user who is known is shown by the label of the user, or by
its own text if the label is empty, and so is any item with the text of an identifier that is
mentioned. Every other item is shown by its own text; null has none. -/
inductive ShowsItem (w : World) (mentioned : String → Prop) (display : UserDisplay) :
    Value → String → Prop
  | named {item : Value} {id label : String} {u : User} : item.NamesUser id →
      w.users.find? (fun u => u.id == id) = some u → userLabel (.obj u.toObj) display = .ok label →
      ShowsItem w mentioned display item (firstOf label id)
  | sameText {item : Value} {id label : String} {u : User} : item.plainText = .ok id →
      mentioned id → w.users.find? (fun u => u.id == id) = some u →
      userLabel (.obj u.toObj) display = .ok label →
      ShowsItem w mentioned display item (firstOf label id)
  | own {item : Value} {text : String} : item.plainText = .ok text →
      (item.NamesUser text ∨ mentioned text → w.users.find? (fun u => u.id == text) = none) →
      ShowsItem w mentioned display item text

/-- Whether a value that refers to users is shown as a text: an empty value as no text, and any
other one by its items, with commas between those that are not shown as blank. -/
def ShowsUsers (w : World) (mentioned : String → Prop) (display : UserDisplay) (v : Value)
    (text : String) : Prop :=
  if v.isEmptyValue then text = ""
  else ∃ pieces, List.Forall₂ (w.ShowsItem mentioned display) (v.asList?.getD [v]) pieces ∧
    text = Display.joinPresent ", " pieces

end World

variable {w : World}

/-- What holds of each item and its result holds all along a list that is gone through. -/
theorem Outcome.forall₂_of_mapM {α β : Type} {f : α → Outcome β} {R : α → β → Prop} {xs : List α}
    {ys : List β} (h : xs.mapM f = .ok ys) (hR : ∀ x ∈ xs, ∀ y, f x = .ok y → R x y) :
    List.Forall₂ R xs ys := by
  induction xs generalizing ys with
  | nil =>
    rw [List.mapM_nil, pure_eq_ok_iff] at h
    exact h ▸ .nil
  | cons x rest ih =>
    rw [List.forall_mem_cons] at hR
    simp only [List.mapM_cons, bind_eq_ok_iff, pure_eq_ok_iff] at h
    obtain ⟨y, hy, others, hothers, rfl⟩ := h
    exact .cons (hR.1 y hy) (ih hothers hR.2)

theorem UserDisplay.ofText_text (display : UserDisplay) : ofText display.text = display := by
  cases display <;> rfl

/-- The identifier of a user who is named is not the empty text. -/
theorem Value.NamesUser.ne_empty {item : Value} {id : String} (h : item.NamesUser id) :
    id ≠ "" := by
  rintro rfl
  generalize hid : "" = id at h
  cases h with
  | identifier u => simp [Identifier.text, eq_comm (a := "")] at hid
  | text hspells =>
    rw [← hid] at hspells
    exact absurd hspells (by decide)

theorem Value.Mentions.ne_empty {v : Value} {id : String} (h : v.Mentions id) : id ≠ "" := by
  rcases h with hnames | ⟨-, hnames⟩ <;> exact hnames.ne_empty

/-- A value mentions whom its items name. -/
theorem Value.NamesUser.mentions {v item : Value} {id : String} (h : item.NamesUser id)
    (hitem : item ∈ v.asList?.getD [v]) : v.Mentions id := by
  cases v with
  | list items => exact .item hitem h
  | _ =>
    obtain rfl := List.mem_singleton.mp hitem
    exact .itself h

namespace Display

variable {display : UserDisplay} {users : Obj} {mentioned : String → Prop}

/-- An item is shown as a user if its text is the identifier of one who is mentioned and known. -/
theorem showsItem_of_userText {item : Value} {piece : String}
    (husers : ∀ id v, Obj.get? users id = some v ↔
      mentioned id ∧ ∃ u, w.users.find? (fun u => u.id == id) = some u ∧ v = .obj u.toObj)
    (hempty : ¬mentioned "") (hnamed : ∀ id, item.NamesUser id → mentioned id)
    (h : userText users display item = .ok piece) : w.ShowsItem mentioned display item piece := by
  rw [userText, Outcome.bind_eq_ok_iff] at h
  obtain ⟨text, htext, h⟩ := h
  have hown (hnone : Obj.get? users text = none) : w.ShowsItem mentioned display item text := by
    refine .own htext fun hmentioned => Option.eq_none_iff_forall_ne_some.mpr fun u hu => ?_
    have hsome := (husers text _).mpr ⟨hmentioned.elim (hnamed text) id, u, hu, rfl⟩
    rw [hnone] at hsome
    contradiction
  dsimp only at h
  split at h
  · next hnull =>
    -- null has no text, and nobody has the empty text for an identifier
    obtain rfl := Value.eq_null_of_isNull hnull
    obtain rfl : "" = text := Except.ok.inj htext
    obtain rfl : firstOf "" "" = piece := Except.ok.inj h
    refine hown (Option.eq_none_iff_forall_ne_some.mpr fun v hv => ?_)
    exact hempty ((husers "" v).mp hv).1
  · simp only [Outcome.bind_eq_ok_iff, Outcome.pure_eq_ok_iff] at h
    obtain ⟨label, hlabel, rfl⟩ := h
    rw [Obj.get] at hlabel
    cases hfound : Obj.get? users text with
    | none =>
      rw [hfound] at hlabel
      obtain rfl : "" = label := Except.ok.inj hlabel
      exact hown hfound
    | some v =>
      obtain ⟨hmentioned, u, hu, rfl⟩ := (husers text v).mp hfound
      rw [hfound] at hlabel
      exact .sameText htext hmentioned hu hlabel

theorem valueText_of_relationUser
    (h : FieldKind.ofValue (Obj.get field.members "type") = .ok .relationUser) :
    valueText c e field v = if v.isEmptyValue then .ok "" else userTexts c field v := by
  unfold valueText
  rw [h]
  rfl

/-- A value of a user field is shown by showing its items. -/
theorem showsUsers_of_valueText
    (htype : FieldKind.ofValue (Obj.get field.members "type") = .ok .relationUser)
    (hdisplay : Obj.get (Obj.getObj c.fields ((Obj.get field.members "key").asText?.getD ""))
      "display" = .str display.text)
    (husers : ∀ id v, Obj.get? c.users id = some v ↔
      mentioned id ∧ ∃ u, w.users.find? (fun u => u.id == id) = some u ∧ v = .obj u.toObj)
    (hempty : ¬mentioned "") (hnamed : ∀ id, v.Mentions id → mentioned id) {text : String}
    (h : valueText c e field v = .ok text) : w.ShowsUsers mentioned display v text := by
  rw [valueText_of_relationUser htype] at h
  rw [World.ShowsUsers]
  split at h
  · next hvoid =>
    rw [if_pos hvoid]
    exact (Except.ok.inj h).symm
  · next hfull =>
    obtain ⟨pieces, hpieces, h⟩ := Outcome.bind_eq_ok_iff.mp h
    rw [hdisplay, Value.asText?, Option.getD_some, display.ofText_text] at hpieces
    rw [if_neg hfull]
    refine ⟨pieces, Outcome.forall₂_of_mapM hpieces fun item hitem piece hpiece => ?_,
      (Except.ok.inj h).symm⟩
    exact showsItem_of_userText husers hempty
      (fun id hnames => hnamed id (hnames.mentions hitem)) hpiece

/-- The texts of an entry stand under the keys of its fields. -/
theorem get?_entryTexts {fields : List PresentedField} {data texts : Obj}
    (hkeys : ∀ p ∈ fields, p.definition.key ≠ "")
    (hnodup : (fields.map fun p => p.definition.key).Nodup)
    (h : entryTexts c data (fields.map fun p => p.toObj) = .ok texts) {p : PresentedField}
    (hp : p ∈ fields) : ∃ text, Obj.get? texts p.definition.key = some (.str text) ∧
      valueText c .usual (.obj p.toObj) (Obj.get data p.definition.key) = .ok text := by
  have hkeyed : (fields.map fun p => p.toObj).filter (fun o => (Obj.get o "key").truthy) =
      fields.map fun p => p.toObj := by
    refine List.filter_eq_self.mpr fun o ho => ?_
    obtain ⟨q, hq, rfl⟩ := List.mem_map.mp ho
    exact Value.truthy_str (hkeys q hq)
  rw [entryTexts, hkeyed, Outcome.bind_eq_ok_iff] at h
  obtain ⟨shown, hshown, h⟩ := h
  rw [List.mapM_map] at hshown
  have hmembers : List.Forall₂ (fun q m => q.definition.key = m.1) fields shown := by
    refine Outcome.forall₂_of_mapM hshown fun q _ m hm => ?_
    obtain ⟨text, -, hm⟩ := Outcome.bind_eq_ok_iff.mp hm
    exact congrArg Prod.fst (Outcome.pure_eq_ok_iff.mp hm)
  have hsame : (fields.map fun q => q.definition.key) = shown.map (·.1) :=
    List.forall₂_eq_eq_eq ▸ List.forall₂_map_left_iff.mpr (List.forall₂_map_right_iff.mpr hmembers)
  rw [hsame] at hnodup
  obtain ⟨m, hm⟩ := hasResult_mapM.mp ⟨shown, hshown⟩ p hp
  have hmem : m ∈ shown := (Outcome.mem_mapM_iff hshown).mpr ⟨p, hp, hm⟩
  obtain ⟨text, htext, hm⟩ := Outcome.bind_eq_ok_iff.mp hm
  rw [← Outcome.pure_eq_ok_iff.mp hm] at hmem
  rw [← Outcome.pure_eq_ok_iff.mp h, Obj.ofMembers_eq_self hnodup]
  exact ⟨text, (Table.mem_iff_get? hnodup).mp hmem, htext⟩

end Display

/-! ### Fields that refer to users -/

/-- The settings of a user field are found under its key. -/
theorem Relation.getObj_userSettings {fields : List PresentedField} {p : PresentedField}
    (hnodup : (fields.map fun p => p.definition.key).Nodup) (hp : p ∈ fields)
    (hkind : p.definition.kind = .relationUser) :
    Obj.getObj (userSettings fields) p.definition.key = settingsOf p := by
  have hsub : (userFieldsOf fields).Sublist fields := List.filter_sublist
  have hkeys : (Table.keys (userSettings fields)).Nodup := by
    have heq := keys_userSettings fields
    rw [Obj.keys] at heq
    rw [heq]
    exact (hsub.map _).nodup hnodup
  have hmem : (p.definition.key, Value.obj (settingsOf p)) ∈ userSettings fields :=
    List.mem_map.mpr ⟨p, List.mem_filter.mpr ⟨hp, decide_eq_true hkind⟩, rfl⟩
  have hget : Obj.get? (userSettings fields) p.definition.key = some (.obj (settingsOf p)) :=
    (Table.mem_iff_get? hkeys).mp hmem
  rw [Obj.getObj, Obj.get_of_get?_eq_some hget]
  rfl

namespace Service

variable {typeName : String} {t : ContentType} {fields : List PresentedField}

/-- What is known about the users that some entries refer to, where users can be looked up. -/
def listedContext (w : World) (fields : List PresentedField) (entries : List Obj) :
    Display.UserContext :=
  ⟨Relation.userSettings fields, knownUsers w (referredIds fields entries)⟩

/-- The fields of a type that is there are those that are stored for it. -/
theorem listOf_of_run_getFields (h : w.Regular) (ht : t ∈ w.types)
    (hfields : (Memory.getFields t.id).run w = (.ok fields, w)) :
    PresentedField.listOf ((w.fieldsOf t.id).map StoredField.toObj) = .ok fields :=
  congrArg Prod.fst ((Memory.run_getFields (h.types.findType?_id ht)).symm.trans hfields)

/-- A list with texts is that of the stored entries, each with what is known about the users of
all. -/
theorem run_listEntries_texts (h : w.Regular) (hup : w.usersDown = false)
    (ht : w.findType? typeName = some t)
    (hfields : (Memory.getFields t.id).run w = (.ok fields, w)) {entries : List Obj}
    (hentries : (Memory.stores.listEntries t.id).run w = (.ok entries, w)) :
    (listEntries Memory.stores typeName true).run w =
      ((entries.map (withUsers (listedContext w fields entries))).mapM (withTexts fields), w) := by
  have hmem := World.mem_of_findType? ht
  -- the fields of a type without an identifier would not be looked at
  have hid : t.id ≠ "" := by
    obtain ⟨n, -, hn⟩ := h.types.issued t hmem
    intro hempty
    have hdash := dash_mem_identifier n
    rw [← hn, hempty] at hdash
    exact absurd hdash List.not_mem_nil
  have hlist := listOf_of_run_getFields h hmem hfields
  have hkeys := PresentedField.keys_of_listOf (h.fields.fieldsOf t.id) hlist
  have hsettings := Relation.userFields_eq hlist (fun p hp => (hkeys.1 p hp).2) hkeys.2
  have husers := run_lookUpUsers w (nodup_referredIds fields entries)
  rw [hup, if_neg Bool.false_ne_true] at husers
  have hresolve : (resolve Memory.stores t.id entries).run w =
      (.ok (entries.map (withUsers (listedContext w fields entries))), w) :=
    run_resolve (s := Memory.stores) hid hfields hsettings husers
  have hstored : (Memory.stores.fieldsOf t.id).run w = (.ok fields, w) := hfields
  rw [listEntries, Action.run_bind, run_contentType, ht, Option.elim_some]
  simp only [recordId_toObj, Action.run_bind, hentries, hresolve, if_true, hstored,
    Action.run_lift]

/-- Every user that is known of has a label. -/
theorem hasLabels_listedContext (h : w.Regular) (entries : List Obj) :
    (listedContext w fields entries).HasLabels := by
  intro id o ho
  have hnodup := nodup_referredIds fields entries
  cases hfound : Obj.get? (knownUsers w (referredIds fields entries)) id with
  | none =>
    rw [listedContext, Obj.get, hfound] at ho
    contradiction
  | some v =>
    obtain ⟨-, u, hu, rfl⟩ := (get?_knownUsers hnodup).mp hfound
    rw [listedContext, Obj.get, hfound] at ho
    obtain rfl := Option.some.inj ho
    exact h.labels u (List.mem_of_find?_eq_some hu)

/-- A list with texts can be shown if the data of all entries have texts. -/
theorem hasResult_withTexts (h : w.Regular) {stored : List Obj}
    (hlist : PresentedField.listOf stored = .ok fields) {entries : List Obj}
    (hdata : ∀ entry ∈ entries, (Obj.get entry "data").HasText) :
    HasResult ((entries.map (withUsers (listedContext w fields entries))).mapM
      (withTexts fields)) := by
  rw [hasResult_mapM, List.forall_mem_map]
  intro entry hentry
  rw [withTexts_withUsers]
  refine hasResult_bind_pure.mpr (Display.hasResult_entryTexts
    (hasLabels_listedContext h entries) ?_ fun key => (hdata entry hentry).get_members key)
  rw [List.forall_mem_map]
  exact fun p hp => ⟨_, Display.isStrictField_presented hlist hp⟩

/-- The text of an entry under the key of a field that refers to users shows the users. -/
theorem showsUsers_of_entryTexts {stored : List Obj}
    (hlist : PresentedField.listOf stored = .ok fields)
    (hkeys : ∀ p ∈ fields, p.definition.key ≠ "")
    (hnodup : (fields.map fun p => p.definition.key).Nodup) {entries : List Obj} {entry : Obj}
    (hentry : entry ∈ entries) {texts : Obj}
    (h : Display.entryTexts (listedContext w fields entries) (Obj.getObj entry "data")
      (fields.map fun p => p.toObj) = .ok texts) {p : PresentedField} (hp : p ∈ fields)
    (hkind : p.definition.kind = .relationUser) :
    ∃ display text, Obj.get p.definition.config "display" = .str (UserDisplay.text display) ∧
      Obj.get? texts p.definition.key = some (.str text) ∧
      w.ShowsUsers (fun id => ∃ other ∈ entries, Relation.RefersTo fields other id) display
        (Obj.get (Obj.getObj entry "data") p.definition.key) text := by
  obtain ⟨r, hsettings⟩ := Relation.exists_userReference hlist hp hkind
  have hdisplay : Obj.get p.definition.config "display" = .str r.display.text :=
    Obj.get_of_get?_eq_some
      (hsettings.members ("display", .str r.display.text) (by simp [UserReference.toObj]))
  obtain ⟨text, htext, hvalue⟩ := Display.get?_entryTexts hkeys hnodup h hp
  refine ⟨r.display, text, hdisplay, htext, Display.showsUsers_of_valueText ?_ ?_ ?_ ?_ ?_ hvalue⟩
  · rw [(Display.isStrictField_presented hlist hp).ofValue_type, hkind]
  · have hkey : (Obj.get (Value.obj p.toObj).members "key").asText?.getD "" = p.definition.key :=
      rfl
    rw [hkey, listedContext, Relation.getObj_userSettings hnodup hp hkind]
    exact hdisplay
  · -- the users that are known of are those whose identifiers have been collected
    intro id v
    rw [← Relation.mem_collectUsers]
    exact get?_knownUsers (nodup_referredIds fields entries)
  · rintro ⟨other, -, q, -, -, hmentions⟩
    exact hmentions.ne_empty rfl
  · exact fun id hmentions => ⟨entry, hentry, p, hp, hkind, hmentions⟩

/-- Users are shown by label in lists. Where users can be looked up, a list of entries with texts
shows each stored entry of the type as it is, with the same account of users for all; under the key
of each field that refers to users stands a text that shows the value of the entry as `ShowsUsers`
says, in the way that the field has them shown. There is such a list as soon as the data of all
entries have texts. -/
theorem user_fields_displayed (h : w.Attained) (hup : w.usersDown = false)
    (ht : w.findType? typeName = some t)
    (hfields : (Memory.getFields t.id).run w = (.ok fields, w)) :
    ∃ entries : List Obj, (Memory.stores.listEntries t.id).run w = (.ok entries, w) ∧
      ((∀ entry ∈ entries, (Obj.get entry "data").HasText) →
        HasResult ((listEntries Memory.stores typeName true).run w).1) ∧
      ∀ shown, ((listEntries Memory.stores typeName true).run w).1 = .ok shown →
        ∃ resolved, List.Forall₂ (fun entry out => ∃ texts,
          out = Obj.set (Obj.set entry "_resolved" resolved) "_display" (.obj texts) ∧
          ∀ p ∈ fields, p.definition.kind = .relationUser → ∃ display text,
            Obj.get p.definition.config "display" = .str (UserDisplay.text display) ∧
            Obj.get? texts p.definition.key = some (.str text) ∧
            w.ShowsUsers (fun id => ∃ other ∈ entries, Relation.RefersTo fields other id) display
              (Obj.get (Obj.getObj entry "data") p.definition.key) text) entries shown := by
  have hregular := h.regular
  have hlist := listOf_of_run_getFields hregular (World.mem_of_findType? ht) hfields
  have hkeys := PresentedField.keys_of_listOf (hregular.fields.fieldsOf t.id) hlist
  obtain ⟨entries, hentries⟩ :
      ∃ entries, (Memory.stores.listEntries t.id).run w = (.ok entries, w) := ⟨_, rfl⟩
  have hrun := run_listEntries_texts hregular hup ht hfields hentries
  refine ⟨entries, hentries, fun hdata => ?_, fun shown hshown => ?_⟩
  · rw [hrun]
    exact hasResult_withTexts hregular hlist hdata
  · rw [hrun, List.mapM_map] at hshown
    refine ⟨resolution fields (knownUsers w (referredIds fields entries)),
      Outcome.forall₂_of_mapM hshown fun entry hentry out hout => ?_⟩
    rw [Function.comp_apply, withTexts_withUsers] at hout
    obtain ⟨texts, htexts, hout⟩ := Outcome.bind_eq_ok_iff.mp hout
    exact ⟨texts, (Outcome.pure_eq_ok_iff.mp hout).symm, fun p hp hkind =>
      showsUsers_of_entryTexts hlist (fun q hq => (hkeys.1 q hq).2) hkeys.2 hentry htexts hp hkind⟩

end Service

/-! ### Tasks of users whose identifiers are digits -/

namespace ServiceCall

/-- What is told of a user by name. -/
def userNamed (id name : String) : Obj := [("id", .str id), ("name", .str name)]

/-- The world with two users, whose identifiers are digits alone. -/
def digitsWorld : World :=
  { fieldWorld with
    users := [⟨"12345678901234567890123456789012", .null, .str "Ada", none, .str "active"⟩,
      ⟨"98765432109876543210987654321098", .null, .str "Bob", none, .str "active"⟩] }

/-- A task that refers to the first user by identifier, and to both by integers. -/
def sharedTask : EntryValues :=
  ⟨.str "T", "t", .str "draft", .obj [("owner", .list [.str "12345678901234567890123456789012",
    .int 12345678901234567890123456789012, .int 98765432109876543210987654321098])]⟩

/-- The world with the task. -/
def sharedWorld : World := digitsWorld.withNew taskType.id sharedTask

theorem attained_sharedWorld : sharedWorld.Attained := by
  have hempty : World.empty.Attained := Relation.ReflTransGen.refl
  have hfields : fieldWorld.Attained :=
    (hempty.operation (.step step_typeWorld rfl)).operation (.step step_fieldWorld rfl)
  have hada : readJson ("\x7b\"id\":\"12345678901234567890123456789012\"," ++
      "\"name\":\"Ada\"\x7d").toList =
        some (.obj (userNamed "12345678901234567890123456789012" "Ada")) := by cbv
  have hbob : readJson ("\x7b\"id\":\"98765432109876543210987654321098\"," ++
      "\"name\":\"Bob\"\x7d").toList =
        some (.obj (userNamed "98765432109876543210987654321098" "Bob")) := by cbv
  have husers : digitsWorld.Attained := (hfields.operation (.user hada)).operation (.user hbob)
  refine husers.operation (.step (.entry (.create taskType.id sharedTask) fun _ _ heq => ?_) rfl)
  cases heq
  exact ⟨taskType, List.mem_singleton_self _, rfl⟩

theorem run_getFields_sharedWorld :
    (Memory.getFields taskType.id).run sharedWorld = (.ok [shownOwner], sharedWorld) := by
  have hid : sharedWorld.findType? taskType.id = some taskType := by decide
  rw [Memory.run_getFields hid]
  exact congrArg (·, sharedWorld) listOf_ownerField

/-- The task as it is stored. -/
def storedTask : Obj := (digitsWorld.newEntry taskType.id sharedTask).toObj

theorem run_listEntries_sharedWorld : (Memory.stores.listEntries taskType.id).run sharedWorld =
    (.ok [storedTask], sharedWorld) := by
  have hentries : sharedWorld.entries.ofType taskType.id =
      [digitsWorld.newEntry taskType.id sharedTask] := rfl
  have hrun : (Memory.listEntries taskType.id).run sharedWorld =
      (.ok ((sharedWorld.entries.ofType taskType.id).mergeSort sharedWorld.entries.newerFirst),
        sharedWorld) := rfl
  have hstores : Memory.stores.listEntries taskType.id =
      (do return (← Memory.listEntries taskType.id).map Entry.toObj) := rfl
  rw [hstores, Action.run_bind, hrun, hentries, List.mergeSort_singleton]
  rfl

theorem valueText_storedTask :
    Display.valueText (Service.listedContext sharedWorld [shownOwner] [storedTask]) .usual
      (.obj shownOwner.toObj) (Obj.get (Obj.getObj storedTask "data") "owner") =
        .ok "Ada, Ada, 98765432109876543210987654321098" := by
  have hids : Service.referredIds [shownOwner] [storedTask] =
      ["12345678901234567890123456789012"] := by decide +kernel
  have htype : FieldKind.ofValue (Obj.get (Value.obj shownOwner.toObj).members "type") =
      .ok .relationUser := FieldKind.ofValue_name .relationUser
  rw [Display.valueText_of_relationUser htype, Service.listedContext, hids]
  exact Outcome.eq_ok_of_toOption (by decide +kernel)

theorem withTexts_storedTask :
    Service.withTexts [shownOwner]
        (Service.withUsers (Service.listedContext sharedWorld [shownOwner] [storedTask])
          storedTask) =
      .ok (Obj.set (Service.withUsers (Service.listedContext sharedWorld [shownOwner] [storedTask])
          storedTask) "_display"
        (.obj [("owner", .str "Ada, Ada, 98765432109876543210987654321098")])) := by
  have hkeyed : [shownOwner.toObj].filter (fun o => (Obj.get o "key").truthy) =
      [shownOwner.toObj] := rfl
  have hkey : (Obj.get shownOwner.toObj "key").asText?.getD "" = "owner" := rfl
  rw [Service.withTexts_withUsers, List.map_singleton, Display.entryTexts, hkeyed]
  simp only [List.mapM_cons, List.mapM_nil, hkey, valueText_storedTask, Outcome.ok_bind]
  rfl

/-- Users are shown by label in the list of tasks, where one of them is referred to by identifier
and by an integer. -/
theorem shared_task_listed :
    sharedWorld.Attained ∧ ∃ entries shown,
      (Memory.stores.listEntries taskType.id).run sharedWorld = (.ok entries, sharedWorld) ∧
      ((Service.listEntries Memory.stores "tasks" true).run sharedWorld).1 = .ok shown ∧
      List.Forall₂ (fun entry out => ∃ text,
        Obj.get? (Obj.getObj out "_display") "owner" = some (.str text) ∧
        sharedWorld.ShowsUsers (fun id => ∃ other ∈ entries,
          Relation.RefersTo [shownOwner] other id) .nameEmail
            (Obj.get (Obj.getObj entry "data") "owner") text) entries shown := by
  have hfind : sharedWorld.findType? "tasks" = some taskType := by decide
  obtain ⟨entries, hentries, hresult, hshown⟩ := Service.user_fields_displayed
    attained_sharedWorld rfl hfind run_getFields_sharedWorld
  obtain rfl : [storedTask] = entries :=
    Except.ok.inj (congrArg Prod.fst (run_listEntries_sharedWorld.symm.trans hentries))
  have hshort : ∀ n ∈ [12345678901234567890123456789012, 98765432109876543210987654321098],
      (digitText n).length ≤ maxIntegerDigits := by decide +kernel
  rw [List.forall_mem_cons, List.forall_mem_singleton] at hshort
  have hdata : (Obj.get storedTask "data").HasText := by
    refine Value.hasText_obj.mpr (List.forall_mem_singleton.mpr (Value.hasText_list.mpr ?_))
    rw [List.forall_mem_cons, List.forall_mem_cons, List.forall_mem_singleton]
    exact ⟨Value.hasText_str _, Value.hasText_int.mpr hshort.1, Value.hasText_int.mpr hshort.2⟩
  obtain ⟨shown, hlisted⟩ := hresult (List.forall_mem_singleton.mpr hdata)
  obtain ⟨resolved, hentry⟩ := hshown shown hlisted
  refine ⟨attained_sharedWorld, _, shown, hentries, hlisted, hentry.imp ?_⟩
  rintro entry out ⟨texts, rfl, htexts⟩
  obtain ⟨display, text, hdisplay, htext, hshows⟩ :=
    htexts shownOwner (List.mem_singleton_self _) rfl
  obtain rfl : display = .nameEmail := by
    have hname := Value.str.inj hdisplay
    revert hname
    cases display <;> decide
  refine ⟨text, ?_, hshows⟩
  rw [Obj.getObj, Obj.get_set_self]
  exact htext

/-- An integer is no identifier, and is shown as a user all the same if its text is one that the
list mentions. Of the two integers here the first is shown as a user and the second is not, though
both have the text of the identifier of a user who is known. -/
theorem integer_shown_as_user :
    ∃ out, (Service.listEntries Memory.stores "tasks" true).run sharedWorld =
        (.ok [out], sharedWorld) ∧
      sharedWorld.Attained ∧ sharedWorld.usersDown = false ∧
      sharedWorld.findType? "tasks" = some taskType ∧
      (Memory.getFields taskType.id).run sharedWorld = (.ok [shownOwner], sharedWorld) ∧
      shownOwner.definition.kind = .relationUser ∧
      sharedWorld.users.map (·.id) =
        ["12345678901234567890123456789012", "98765432109876543210987654321098"] ∧
      Obj.get (Obj.getObj out "data") "owner" = .list [.str "12345678901234567890123456789012",
        .int 12345678901234567890123456789012, .int 98765432109876543210987654321098] ∧
      Obj.get (Obj.getObj out "_display") "owner" =
        .str "Ada, Ada, 98765432109876543210987654321098" ∧
      (∀ n id, ¬(Value.int n).NamesUser id) ∧
      (Value.int 12345678901234567890123456789012).plainText =
        .ok "12345678901234567890123456789012" ∧
      Display.joinPresent ", " ["Ada", "12345678901234567890123456789012",
          "98765432109876543210987654321098"] ≠
        "Ada, Ada, 98765432109876543210987654321098" := by
  have hfind : sharedWorld.findType? "tasks" = some taskType := by decide
  have hrun := Service.run_listEntries_texts attained_sharedWorld.regular rfl hfind
    run_getFields_sharedWorld run_listEntries_sharedWorld
  rw [List.map_singleton, List.mapM_cons, withTexts_storedTask] at hrun
  refine ⟨_, hrun, attained_sharedWorld, rfl, hfind, run_getFields_sharedWorld, rfl, rfl, rfl,
    rfl, nofun, Outcome.eq_ok_of_toOption (by decide +kernel), by decide +kernel⟩

end ServiceCall

end ContentEngine
