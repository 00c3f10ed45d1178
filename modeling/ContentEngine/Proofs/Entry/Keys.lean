import Mathlib.Data.Set.Function
import ContentEngine.Proofs.Entry.Normal

/-!
# Where the values of an entry go

Every value of an entry is stored under one key, and `targetKey` says under which: the key that the
value is given under, or the first declared key that takes it from under its alias, which is one
under which the entry holds nothing. A key with an alias is no alias itself, so that no value moves
twice, and a value that has moved is never in the way of another one. So the targets are as many as
the keys, and they are the keys of what is stored (`bijOn_targetKey`).
-/

namespace ContentEngine

namespace Entry

variable {keys : List String} {data : Obj} {key k : String}

/-! ### Targets -/

/-- Whether a key takes the value that is given under its alias `k`: it must be free. -/
def takes (data : Obj) (k key : String) : Bool :=
  key != k && camelCase key == k && !Obj.has data key

theorem takes_iff : takes data k key = true ↔
    key ≠ k ∧ camelCase key = k ∧ Obj.has data key = false := by
  simp [takes, and_assoc]

/-- The key under which a value stands once all aliases have been moved, where `k` is the key that
it is given under. -/
def targetKey (keys : List String) (data : Obj) (k : String) : String :=
  (keys.find? (takes data k)).getD k

theorem targetKey_cons_of_takes (h : takes data k key = true) (keys : List String) :
    targetKey (key :: keys) data k = key := by
  rw [targetKey, List.find?_cons_of_pos h, Option.getD_some]

/-- A value stays under the key that it is given under, or it moves to a key that takes it. -/
theorem targetKey_cases (keys : List String) (data : Obj) (k : String) :
    targetKey keys data k = k ∨
      ∃ key ∈ keys, targetKey keys data k = key ∧ takes data k key = true := by
  cases hfound : keys.find? (takes data k) with
  | none => exact .inl (by rw [targetKey, hfound, Option.getD_none])
  | some key =>
    exact .inr ⟨key, List.mem_of_find?_eq_some hfound, by rw [targetKey, hfound, Option.getD_some],
      List.find?_some hfound⟩

/-- Values that are given under different keys have different targets: a value moves to a key that
is free, and it comes from the alias of that key. -/
theorem injOn_targetKey (keys : List String) (data : Obj) :
    Set.InjOn (targetKey keys data) {k | Obj.has data k = true} := by
  intro a (ha : Obj.has data a = true) b (hb : Obj.has data b = true) hsame
  rcases targetKey_cases keys data a with hstays | ⟨key, -, hmoves, htakes⟩ <;>
    rcases targetKey_cases keys data b with hstays' | ⟨other, -, hmoves', htakes'⟩
  · rw [← hstays, hsame, hstays']
  · rw [hstays, hmoves'] at hsame
    rw [hsame, (takes_iff.mp htakes').2.2] at ha
    contradiction
  · rw [hmoves, hstays'] at hsame
    rw [← hsame, (takes_iff.mp htakes).2.2] at hb
    contradiction
  · rw [hmoves, hmoves'] at hsame
    rw [← (takes_iff.mp htakes).2.1, hsame, (takes_iff.mp htakes').2.1]

/-- When a key has been looked at that does not take a value, the target of the value is among the
other keys. -/
theorem targetKey_moveAlias (hkey : IsKey key) (hnot : key ∉ keys)
    (htakes : ¬takes data k key = true) :
    targetKey keys (moveAlias data key) k = targetKey (key :: keys) data k := by
  have hsame : ∀ other ∈ keys, takes (moveAlias data key) k other = takes data k other := by
    intro other hother
    rw [Bool.eq_iff_iff, takes_iff, takes_iff]
    refine and_congr_right fun hne => and_congr_right fun hcamel => ?_
    rw [has_moveAlias_of_hasAlias hkey (hasAlias_iff.mpr (hcamel.trans_ne hne.symm))
      fun heq => hnot (heq ▸ hother)]
  rw [targetKey, targetKey, List.find?_cons_of_neg htakes, ← List.head?_filter,
    ← List.head?_filter, List.filter_congr hsame]

/-- A key with an alias keeps its value, since it is no alias itself. -/
theorem targetKey_of_hasAlias (hkeys : ∀ key ∈ keys, IsKey key) (halias : hasAlias k = true) :
    targetKey keys data k = k := by
  rcases targetKey_cases keys data k with hstays | ⟨key, hkey, -, htakes⟩
  · exact hstays
  · exact absurd (takes_iff.mp htakes).2.1.symm (ne_camelCase_of_hasAlias halias (hkeys key hkey))

/-! ### Moving all aliases -/

/-- What stands under the target of a key is what has been given under the key. -/
theorem get?_targetKey (hkeys : ∀ key ∈ keys, IsKey key) (hnodup : keys.Nodup) {v : Value}
    (hv : Obj.get? data k = some v) :
    Obj.get? (keys.foldl moveAlias data) (targetKey keys data k) = some v := by
  induction keys generalizing data k with
  | nil => exact hv
  | cons key rest ih =>
    have hrest : ∀ t ∈ rest, IsKey t := fun t ht => hkeys t (List.mem_cons_of_mem key ht)
    have hkey := hkeys key List.mem_cons_self
    obtain ⟨hnot, hnodup⟩ := List.nodup_cons.mp hnodup
    rw [List.foldl_cons]
    by_cases htakes : takes data k key = true
    · -- the value moves now, and stays where it is from now on
      rw [targetKey_cons_of_takes htakes]
      obtain ⟨hne, rfl, hfree⟩ := takes_iff.mp htakes
      have halias := hasAlias_iff.mpr hne.symm
      have hmoved : Obj.get? (moveAlias data key) key = some v := by
        have hnone : Obj.get? data key = none := by simpa [Obj.has_eq_isSome] using hfree
        rw [moveAlias_eq, hfree, if_neg (by decide), get?_alignKey_of_hasAlias _ halias, if_pos rfl,
          hnone, hv, Option.none_or]
      have hstays := ih hrest hnodup hmoved
      rwa [targetKey_of_hasAlias hrest halias] at hstays
    · rw [← targetKey_moveAlias hkey hnot htakes]
      exact ih hrest hnodup (get?_moveAlias_of_not_taken (fun h => htakes (takes_iff.mpr h)) hv)

/-- What is held once a key has been looked at has been held before, under the same key and not to
be moved, or under the alias of the key. -/
theorem has_moveAlias_cases (hk : Obj.has (moveAlias data key) k = true) :
    Obj.has data k = true ∧ ¬takes data k key = true ∨
      k = key ∧ hasAlias key = true ∧ Obj.has data (camelCase key) = true ∧
        Obj.has data key = false := by
  rw [moveAlias_eq] at hk
  cases hfree : Obj.has data key with
  | true =>
    rw [if_pos hfree] at hk
    exact .inl ⟨hk, fun htakes => by simp [(takes_iff.mp htakes).2.2] at hfree⟩
  | false =>
    rw [if_neg (by simp [hfree])] at hk
    by_cases halias : hasAlias key = true
    · by_cases hown : k = key
      · subst hown
        rw [Obj.has_eq_isSome, get?_alignKey_of_hasAlias _ halias, if_pos rfl] at hk
        have hnone : Obj.get? data k = none := by simpa [Obj.has_eq_isSome] using hfree
        rw [hnone, Option.none_or] at hk
        exact .inr ⟨rfl, halias, hk, rfl⟩
      · rw [Obj.has_eq_isSome, get?_alignKey_of_hasAlias _ halias, if_neg hown] at hk
        split at hk
        · contradiction
        · next hother => exact .inl ⟨hk, fun htakes => hother (takes_iff.mp htakes).2.1.symm⟩
    · rw [alignKey_eq_self fun htrue => absurd htrue halias] at hk
      refine .inl ⟨hk, fun htakes => halias (hasAlias_iff.mpr ?_)⟩
      exact (takes_iff.mp htakes).2.1.trans_ne (takes_iff.mp htakes).1.symm

/-- Whatever is held once all aliases have been moved has been given under some key. -/
theorem exists_targetKey_eq (hkeys : ∀ key ∈ keys, IsKey key) (hnodup : keys.Nodup)
    (hk : Obj.has (keys.foldl moveAlias data) k = true) :
    ∃ given, Obj.has data given = true ∧ targetKey keys data given = k := by
  induction keys generalizing data with
  | nil => exact ⟨k, hk, rfl⟩
  | cons key rest ih =>
    have hrest : ∀ t ∈ rest, IsKey t := fun t ht => hkeys t (List.mem_cons_of_mem key ht)
    have hkey := hkeys key List.mem_cons_self
    obtain ⟨hnot, hnodup⟩ := List.nodup_cons.mp hnodup
    obtain ⟨given, hgiven, htarget⟩ := ih hrest hnodup hk
    rcases has_moveAlias_cases hgiven with ⟨hgiven, htakes⟩ | ⟨rfl, halias, hgiven, hfree⟩
    · exact ⟨given, hgiven, (targetKey_moveAlias hkey hnot htakes).symm.trans htarget⟩
    · -- the value has come from the alias of the key, and does not move on
      rw [targetKey_of_hasAlias hrest halias] at htarget
      have htakes : takes data (camelCase given) given = true :=
        takes_iff.mpr ⟨(hasAlias_iff.mp halias).symm, rfl, hfree⟩
      exact ⟨camelCase given, hgiven, (targetKey_cons_of_takes htakes rest).trans htarget⟩

/-! ### What is stored -/

variable {mail : Format.MailReader} {fields : Value} {out : Obj}
variable {declared : List (String × Obj)} {v : Value}

section Stored

variable (hfields : keyedFields fields = .ok declared) (hnodup : (declared.map (·.1)).Nodup)
  (h : normalDataWith mail fields (.obj data) = .ok out)
include hfields hnodup h

/-- The targets of the keys of an entry are the keys of what is stored. -/
theorem bijOn_targetKey : Set.BijOn (targetKey (declared.map (·.1)) data)
    {k | Obj.has data k = true} {k | Obj.has out k = true} := by
  have hkeys := isKey_of_mem_keyedFields hfields
  have hstored := storedData_of_normalDataWith hfields hnodup h
  refine ⟨fun k (hk : Obj.has data k = true) => ?_, injOn_targetKey _ data,
    fun k (hk : Obj.has out k = true) => ?_⟩
  · rw [Set.mem_ofPred_eq, hstored.has_eq]
    exact Obj.has_of_get?_eq_some (get?_targetKey hkeys hnodup (Obj.get?_eq_some_get hk))
  · rw [hstored.has_eq] at hk
    exact exists_targetKey_eq hkeys hnodup hk

/-- What is stored under the target of a key comes from the value under the key: it is what is
stored for the value, if the target is declared, and otherwise the value. -/
theorem stored_of_targetKey (hv : Obj.get? data k = some v) :
    (targetKey (declared.map (·.1)) data k ∉ declared.map (·.1) →
        Obj.get? out (targetKey (declared.map (·.1)) data k) = some v) ∧
      ∀ entry ∈ declared, targetKey (declared.map (·.1)) data k = entry.1 →
        ∃ w, storedValue mail entry.2 v = .ok w ∧ Obj.get? out entry.1 = some w := by
  have hstored := storedData_of_normalDataWith hfields hnodup h
  have hmoved := get?_targetKey (isKey_of_mem_keyedFields hfields) hnodup hv
  refine ⟨fun hnot => ?_, fun entry hentry htarget => ?_⟩
  · rw [hstored.other _ (by rwa [map_fst_fieldRules])]
    exact hmoved
  · rw [htarget] at hmoved
    exact hstored.value hentry hmoved

end Stored

/-- What does not follow the format of its field is stored as it is. -/
theorem storedValue_of_canonical_eq_error {field : Obj} {kind : FieldKind} {format : Format}
    {fault : Fault} (htype : FieldKind.ofValue (Obj.get field "type") = .ok kind)
    (hformat : Format.ofKind? kind = some format)
    (hfault : Format.canonical mail format v = .error fault) :
    storedValue mail field v = .ok v := by
  have hne : kind ≠ .repeater := by
    rintro rfl
    contradiction
  rw [storedValue_of_ne_repeater htype hne, FieldKind.canonicalValue, hformat]
  simp only [Format.canonicalOrGiven, hfault]

/-- The keys of an entry and those of what is stored correspond to each other: a key to itself, or,
if it is the alias of a declared key that the entry lacks, perhaps to that key. Under a key that is
declared stands what is stored for the value, which is the value itself if it does not follow the
format of its field, and under any other key stands the value. -/
theorem keys_correspond (hfields : keyedFields fields = .ok declared)
    (hnodup : (declared.map (·.1)).Nodup)
    (h : normalDataWith mail fields (.obj data) = .ok out) :
    ∃ target : String → String,
      Set.BijOn target {k | Obj.has data k = true} {k | Obj.has out k = true} ∧
      (∀ k, target k = k ∨ ∃ entry ∈ declared, target k = entry.1 ∧ entry.1 ≠ k ∧
        camelCase entry.1 = k ∧ Obj.has data entry.1 = false) ∧
      (∀ k v, Obj.get? data k = some v →
        (target k ∉ declared.map (·.1) → Obj.get? out (target k) = some v) ∧
        ∀ entry ∈ declared, target k = entry.1 →
          (∃ w, storedValue mail entry.2 v = .ok w ∧ Obj.get? out entry.1 = some w) ∧
          ∀ kind format fault, FieldKind.ofValue (Obj.get entry.2 "type") = .ok kind →
            Format.ofKind? kind = some format → Format.canonical mail format v = .error fault →
            Obj.get? out entry.1 = some v) ∧
      ∀ k v, k ∉ declared.map (·.1) → (∀ entry ∈ declared, camelCase entry.1 ≠ k) →
        Obj.get? data k = some v → Obj.get? out k = some v := by
  have hcases (k : String) : targetKey (declared.map (·.1)) data k = k ∨
      ∃ entry ∈ declared, targetKey (declared.map (·.1)) data k = entry.1 ∧ entry.1 ≠ k ∧
        camelCase entry.1 = k ∧ Obj.has data entry.1 = false := by
    rcases targetKey_cases (declared.map (·.1)) data k with hstays | ⟨key, hkey, hmoves, htakes⟩
    · exact .inl hstays
    · obtain ⟨entry, hentry, rfl⟩ := List.mem_map.mp hkey
      exact .inr ⟨entry, hentry, hmoves, takes_iff.mp htakes⟩
  refine ⟨targetKey (declared.map (·.1)) data, bijOn_targetKey hfields hnodup h, hcases,
    fun k v hv => ?_, fun k v hnot halias hv => ?_⟩
  · obtain ⟨hother, hdeclared⟩ := stored_of_targetKey hfields hnodup h hv
    refine ⟨hother, fun entry hentry htarget => ?_⟩
    obtain ⟨w, hw, hout⟩ := hdeclared entry hentry htarget
    refine ⟨⟨w, hw, hout⟩, fun kind format fault htype hformat hfault => ?_⟩
    rw [storedValue_of_canonical_eq_error htype hformat hfault] at hw
    rw [hout, Except.ok.inj hw]
  · have hstays : targetKey (declared.map (·.1)) data k = k := by
      rcases hcases k with hstays | ⟨entry, hentry, -, -, hcamel, -⟩
      · exact hstays
      · exact absurd hcamel (halias entry hentry)
    have hother := (stored_of_targetKey hfields hnodup h hv).1
    rw [hstays] at hother
    exact hother hnot

/-- The home page of a contact moves, the mail address is none and stays as it is, and the note is
no field at all. -/
theorem contact_keys_correspond :
    normalDataWith adaReader contactFields
        (.obj [("mail", .str "nobody"), ("homePage", .str "Example.com:443/a"),
          ("note", .int 1)]) =
      .ok [("mail", .str "nobody"), ("note", .int 1),
        ("home_page", .str "https://example.com/a")] ∧
    ∃ target : String → String,
      Set.BijOn target
        {k | Obj.has [("mail", .str "nobody"), ("homePage", .str "Example.com:443/a"),
          ("note", .int 1)] k = true}
        {k | Obj.has [("mail", .str "nobody"), ("note", .int 1),
          ("home_page", .str "https://example.com/a")] k = true} ∧
      target "note" = "note" := by
  have hstored : normalDataWith adaReader contactFields
      (.obj [("mail", .str "nobody"), ("homePage", .str "Example.com:443/a"), ("note", .int 1)]) =
      .ok [("mail", .str "nobody"), ("note", .int 1),
        ("home_page", .str "https://example.com/a")] := rfl
  obtain ⟨target, hbij, hcases, -⟩ := keys_correspond rfl (by decide) hstored
  refine ⟨hstored, target, hbij, ?_⟩
  rcases hcases "note" with hstays | ⟨entry, hentry, -, -, halias, -⟩
  · exact hstays
  · rcases hentry with _ | ⟨_, _ | ⟨_, _ | _⟩⟩ <;> contradiction

end Entry

end ContentEngine
