import ContentEngine.Proofs.Entry.Aliases
import ContentEngine.Proofs.Format.Canonical
import ContentEngine.Proofs.Repeater.Prune

/-!
# The data that is stored for an entry

Storing the values of fields rewrites the members of an object (`storeValues_eq_rewriteAll`), so
that what is stored is told key by key (`StoredData`). Storing the data of an entry a second time
moves nothing any more, so that it changes the data only where some stored value is not settled
(`storedValue_storedValue_iff`).
-/

namespace ContentEngine

namespace Entry

variable {mail : Format.MailReader} {fields : Value} {field data out : Obj}
variable {declared : List (String × Obj)} {v w : Value}

/-! ### The keys of fields -/

/-- Every field that is looked at has a key in its one form. -/
theorem isKey_of_mem_keyedFields (h : keyedFields fields = .ok declared) :
    ∀ key ∈ declared.map (·.1), IsKey key := by
  intro key hmem
  obtain ⟨entry, hentry, rfl⟩ := List.mem_map.mp hmem
  simp only [keyedFields, Outcome.bind_eq_ok_iff, Outcome.pure_eq_ok_iff] at h
  obtain ⟨keyed, hkeyed, rfl⟩ := h
  obtain ⟨field, -, hfield⟩ := Outcome.exists_of_mem_mapM hkeyed (List.mem_of_mem_filter hentry)
  simp only [Outcome.bind_eq_ok_iff, Outcome.pure_eq_ok_iff] at hfield
  obtain ⟨_, hkey, rfl⟩ := hfield
  exact isKey_of_snakeCase hkey

/-! ### One value -/

theorem storedValue_of_repeater
    (htype : FieldKind.ofValue (Obj.get field "type") = .ok .repeater) (v : Value) :
    storedValue mail field v = (do
      let config ← Repeater.configOf ((Obj.get field "config").orElse (.obj []))
      (Repeater.ofConfig config).prune 1 v) := by
  rw [storedValue, htype]
  rfl

theorem storedValue_of_ne_repeater {kind : FieldKind}
    (htype : FieldKind.ofValue (Obj.get field "type") = .ok kind) (hne : kind ≠ .repeater)
    (v : Value) : storedValue mail field v = .ok (kind.canonicalValue mail v) := by
  rw [storedValue, htype, Outcome.ok_bind]
  split
  · contradiction
  · rfl

/-- What has been stored for a value is stored again as it is, if mail addresses are, unless it is
an unsettled web address. -/
theorem storedValue_storedValue_iff
    (hmail : ∀ v w, Format.canonicalEmailWith mail v = .ok w →
      Format.canonicalEmailWith mail w = .ok w)
    (h : storedValue mail field v = .ok w) :
    storedValue mail field w = .ok w ↔
      (FieldKind.ofValue (Obj.get field "type") = .ok .url → Format.isUnsettledUrl w = false) := by
  cases htype : FieldKind.ofValue (Obj.get field "type") with
  | error fault =>
    rw [storedValue, htype] at h
    contradiction
  | ok kind =>
    by_cases hrepeater : kind = .repeater
    · subst hrepeater
      rw [storedValue_of_repeater htype, Outcome.bind_eq_ok_iff] at h
      obtain ⟨config, hconfig, hprune⟩ := h
      have hagain := Repeater.prune_prune (Repeater.isStrict_of_configOf hconfig) hprune
      rw [storedValue_of_repeater htype, hconfig, Outcome.ok_bind]
      simp [hagain]
    · rw [storedValue_of_ne_repeater htype hrepeater, Except.ok.injEq] at h
      subst h
      rw [storedValue_of_ne_repeater htype hrepeater, Except.ok.injEq,
        FieldKind.canonicalValue_settled_iff hmail, Except.ok.injEq]

/-! ### All values -/

/-- The rules by which the values of fields are stored. -/
def fieldRules (mail : Format.MailReader) (declared : List (String × Obj)) : List Obj.Rule :=
  declared.map fun entry => (entry.1, fun v => some <$> storedValue mail entry.2 v)

theorem map_fst_fieldRules (mail : Format.MailReader) (declared : List (String × Obj)) :
    (fieldRules mail declared).map (·.1) = declared.map (·.1) := by
  rw [fieldRules, List.map_map]
  rfl

theorem storeValues_eq_rewriteAll (mail : Format.MailReader) (data : Obj)
    (declared : List (String × Obj)) :
    storeValues mail data declared = Obj.rewriteAll data (fieldRules mail declared) := by
  induction declared generalizing data with
  | nil => rfl
  | cons entry rest ih =>
    obtain ⟨key, field⟩ := entry
    rw [storeValues, fieldRules, List.map_cons, Obj.rewriteAll, Obj.rewrite]
    cases hkey : Obj.get? data key with
    | none =>
      rw [if_neg (by simp [Obj.has_of_get?_eq_none hkey]), Outcome.ok_bind]
      exact ih data
    | some v =>
      rw [if_pos (Obj.has_of_get?_eq_some hkey), Obj.get_of_get?_eq_some hkey]
      simp only [map_eq_pure_bind, bind_assoc, pure_bind]
      exact bind_congr fun w => ih _

/-- Whether an object is what is stored of another one under the declared keys. -/
abbrev StoredData (mail : Format.MailReader) (declared : List (String × Obj)) (data out : Obj) :
    Prop :=
  Obj.IsRewritten (fieldRules mail declared) data out

theorem StoredData.value (h : StoredData mail declared data out) {entry : String × Obj}
    (hentry : entry ∈ declared) (hv : Obj.get? data entry.1 = some v) :
    ∃ w, storedValue mail entry.2 v = .ok w ∧ Obj.get? out entry.1 = some w := by
  have hmember : some <$> storedValue mail entry.2 v = .ok (Obj.get? out entry.1) :=
    h.member (entry.1, fun v => some <$> storedValue mail entry.2 v)
      (List.mem_map.mpr ⟨entry, hentry, rfl⟩) v hv
  rw [map_eq_pure_bind, Outcome.bind_eq_ok_iff] at hmember
  obtain ⟨w, hw, hout⟩ := hmember
  rw [Outcome.pure_eq_ok_iff] at hout
  exact ⟨w, hw, hout.symm⟩

/-- Storing puts nothing where nothing has been, and takes nothing away. -/
theorem StoredData.has_eq (h : StoredData mail declared data out) (k : String) :
    Obj.has out k = Obj.has data k := by
  rw [Obj.has_eq_isSome, Obj.has_eq_isSome]
  cases hv : Obj.get? data k with
  | none => rw [h.get?_eq_none hv]
  | some v =>
    by_cases hk : k ∈ declared.map (·.1)
    · obtain ⟨entry, hentry, rfl⟩ := List.mem_map.mp hk
      obtain ⟨w, -, hw⟩ := h.value hentry hv
      rw [hw]
      rfl
    · rw [h.other k (by rwa [map_fst_fieldRules]), hv]

theorem storedData_of_storeValues (hnodup : (declared.map (·.1)).Nodup)
    (h : storeValues mail data declared = .ok out) : StoredData mail declared data out := by
  rw [storeValues_eq_rewriteAll] at h
  exact Obj.isRewritten_of_rewriteAll (by rwa [map_fst_fieldRules]) h

/-- Storing leaves data as it is exactly if it leaves every declared value as it is. -/
theorem storeValues_eq_self_iff (hnodup : (declared.map (·.1)).Nodup) :
    storeValues mail data declared = .ok data ↔
      ∀ entry ∈ declared, ∀ v, Obj.get? data entry.1 = some v →
        storedValue mail entry.2 v = .ok v := by
  rw [storeValues_eq_rewriteAll, Obj.rewriteAll_eq_self_iff (by rwa [map_fst_fieldRules]),
    fieldRules, List.forall_mem_map]
  simp only [map_eq_pure_bind, Outcome.bind_eq_ok_iff, Outcome.pure_eq_ok_iff, Option.some.injEq,
    exists_eq_right]

/-! ### The data of an entry -/

theorem normalDataWith_obj (hfields : keyedFields fields = .ok declared) (data : Obj) :
    normalDataWith mail fields (.obj data) =
      storeValues mail ((declared.map (·.1)).foldl moveAlias data) declared := by
  simp only [normalDataWith, Value.asObj?, hfields, Outcome.ok_bind]

/-- What is stored of data is what is stored of its members after the aliases have been moved. -/
theorem storedData_of_normalDataWith (hfields : keyedFields fields = .ok declared)
    (hnodup : (declared.map (·.1)).Nodup) (h : normalDataWith mail fields v = .ok out) :
    StoredData mail declared ((declared.map (·.1)).foldl moveAlias v.members) out := by
  cases hv : v.asObj? with
  | none =>
    -- what is no object has no members, and nothing is stored of it
    simp only [normalDataWith, hv, Outcome.pure_eq_ok_iff] at h
    have hsame : (declared.map (·.1)).foldl moveAlias v.members = out := by
      rw [Value.members, hv, ← h]
      exact foldl_moveAlias_eq_self fun _ _ _ => .inr rfl
    rw [hsame, ← h]
    exact ⟨fun _ _ => rfl, fun _ _ _ => rfl, fun _ _ _ hv => by simp at hv⟩
  | some data =>
    simp only [normalDataWith, hv, hfields, Outcome.ok_bind] at h
    rw [Value.members, hv]
    exact storedData_of_storeValues hnodup h

/-- In what is stored there is nothing to move. -/
theorem isSettled_of_normalDataWith (hfields : keyedFields fields = .ok declared)
    (hnodup : (declared.map (·.1)).Nodup) (h : normalDataWith mail fields v = .ok out) :
    ∀ key ∈ declared.map (·.1), IsSettled out key := by
  intro key hkey halias
  have hstored := storedData_of_normalDataWith hfields hnodup h
  -- whether there is something to move depends on the keys only, and storing keeps the keys
  rw [hstored.has_eq, hstored.has_eq]
  exact isSettled_foldl_moveAlias (isKey_of_mem_keyedFields hfields) v.members hkey halias

/-- What has been stored for an entry is stored again as it is, if mail addresses are, exactly if no
declared web address in it is unsettled. -/
theorem normalDataWith_settled_iff
    (hmail : ∀ v w, Format.canonicalEmailWith mail v = .ok w →
      Format.canonicalEmailWith mail w = .ok w)
    (hfields : keyedFields fields = .ok declared) (hnodup : (declared.map (·.1)).Nodup)
    (h : normalDataWith mail fields v = .ok out) :
    normalDataWith mail fields (.obj out) = .ok out ↔
      ∀ entry ∈ declared, FieldKind.ofValue (Obj.get entry.2 "type") = .ok .url →
        ∀ w, Obj.get? out entry.1 = some w → Format.isUnsettledUrl w = false := by
  have hstored := storedData_of_normalDataWith hfields hnodup h
  rw [normalDataWith_obj hfields,
    foldl_moveAlias_eq_self (isSettled_of_normalDataWith hfields hnodup h),
    storeValues_eq_self_iff hnodup]
  -- every value in what is stored has been stored for a value of the data
  have hvalue : ∀ entry ∈ declared, ∀ w, Obj.get? out entry.1 = some w →
      ∃ u, storedValue mail entry.2 u = .ok w := by
    intro entry hentry w hw
    cases hu : Obj.get? ((declared.map (·.1)).foldl moveAlias v.members) entry.1 with
    | none =>
      rw [hstored.get?_eq_none hu] at hw
      contradiction
    | some u =>
      obtain ⟨w', hstore, hw'⟩ := hstored.value hentry hu
      obtain rfl : w = w' := Option.some.inj (hw.symm.trans hw')
      exact ⟨u, hstore⟩
  constructor
  · intro hsettled entry hentry htype w hw
    obtain ⟨u, hu⟩ := hvalue entry hentry w hw
    exact (storedValue_storedValue_iff hmail hu).mp (hsettled entry hentry w hw) htype
  · intro hurls entry hentry w hw
    obtain ⟨u, hu⟩ := hvalue entry hentry w hw
    exact (storedValue_storedValue_iff hmail hu).mpr fun htype => hurls entry hentry htype w hw

/-- A reader of mail addresses that knows a single one, in two spellings. -/
def adaReader : Format.MailReader := fun text =>
  if text = "Ada@Example.com".toList then some "Ada@example.com".toList
  else if text = "ada@example.com".toList then some text
  else none

theorem canonicalEmailWith_adaReader (v w : Value)
    (h : Format.canonicalEmailWith adaReader v = .ok w) :
    Format.canonicalEmailWith adaReader w = .ok w := by
  cases v with
  | null =>
    obtain rfl := Except.ok.inj h
    rfl
  | str s =>
    simp only [Format.canonicalEmailWith] at h
    split at h
    · next hblank =>
      obtain rfl := Except.ok.inj h
      simp only [Format.canonicalEmailWith, hblank, if_true]
    · split at h
      · next found hfound =>
        -- both spellings lead to the same address in small letters
        have hlower : lower found = "ada@example.com".toList := by
          rw [adaReader] at hfound
          split at hfound
          · obtain rfl := Option.some.inj hfound
            rfl
          · split at hfound
            · next htext =>
              obtain rfl := Option.some.inj hfound
              rw [htext]
              rfl
            · contradiction
        obtain rfl := Except.ok.inj h
        rw [hlower]
        rfl
      · exact absurd h (Format.malformed_ne_ok _ _ _)
  | _ => simp [Format.canonicalEmailWith] at h

/-- The fields of a person with a home page and a mail address. -/
def contactFields : Value :=
  .list [.obj [("key", .str "home_page"), ("type", .str "url")],
    .obj [("key", .str "mail"), ("type", .str "email")]]

theorem contact_stored_again :
    normalDataWith adaReader contactFields
        (.obj [("mail", .str "Ada@Example.com"), ("homePage", .str "Example.com:443/a")]) =
      .ok [("mail", .str "ada@example.com"), ("home_page", .str "https://example.com/a")] ∧
    normalDataWith adaReader contactFields
        (.obj [("mail", .str "ada@example.com"), ("home_page", .str "https://example.com/a")]) =
      .ok [("mail", .str "ada@example.com"), ("home_page", .str "https://example.com/a")] := by
  have hstored : normalDataWith adaReader contactFields
      (.obj [("mail", .str "Ada@Example.com"), ("homePage", .str "Example.com:443/a")]) =
      .ok [("mail", .str "ada@example.com"), ("home_page", .str "https://example.com/a")] := rfl
  refine ⟨hstored, (normalDataWith_settled_iff canonicalEmailWith_adaReader rfl (by decide)
    hstored).mpr ?_⟩
  rintro entry (_ | ⟨_, _ | ⟨_, _ | _⟩⟩) - w hw
  · obtain rfl := Option.some.inj hw
    rfl
  · obtain rfl := Option.some.inj hw
    rfl

/-- A field for a web address. -/
def siteFields : Value :=
  .list [.obj [("key", .str "site"), ("type", .str "url")]]

/-- A web address whose path ends in a no-break space is stored with it, and loses it when it is
stored again. -/
theorem site_not_stored_again :
    normalData siteFields (.obj [("site", .str "https://h/a\u00a0?")]) =
      .ok [("site", .str "https://h/a\u00a0")] ∧
    normalData siteFields (.obj [("site", .str "https://h/a\u00a0")]) ≠
      .ok [("site", .str "https://h/a\u00a0")] := by
  have hagain : normalData siteFields (.obj [("site", .str "https://h/a\u00a0")]) =
      .ok [("site", .str "https://h/a")] := rfl
  refine ⟨rfl, ?_⟩
  rw [hagain]
  simp

end Entry

end ContentEngine
