import ContentEngine.Proofs.Registry.Run

/-!
# The identifiers of fields

The fields of a type are always replaced together, and identifiers are carried over by key: a field
whose key was there before keeps its identifier, and any other field is issued a new one
(`StoredField.IsRecorded`). `World.FieldsChange` says what a call to the registry may do to the
fields that are stored. Two things follow from it for all runs: no two fields share an identifier,
whichever types they belong to (`World.RegistryReached.settled`), and a key that stays present
keeps its identifier (`World.KeyStays.id_eq`).
-/

namespace ContentEngine

/-! ### Recording fields -/

/-- Whether a key is among those of some fields. -/
def StoredField.HasKey (fields : List StoredField) (key : String) : Prop :=
  ∃ f ∈ fields, f.input.key = key

/-- Whether some fields may have been recorded in the place of others while the identifiers from
`low` to `high` were issued. -/
structure StoredField.IsRecorded (before fields : List StoredField) (low high : Nat) : Prop where
  kept : ∀ f ∈ fields, ∀ b ∈ before, b.input.key = f.input.key → f.id = b.id
  issued : ∀ f ∈ fields, ¬HasKey before f.input.key →
    ∃ n, low < n ∧ n ≤ high ∧ f.id = Origin.identifier n
  apart : fields.Pairwise fun f g => ¬HasKey before f.input.key → ¬HasKey before g.input.key →
    f.id ≠ g.id

namespace StoredField.IsRecorded

variable {before fields : List StoredField} {low high : Nat} {typeId : String} {input : FieldInput}

/-- A field whose key was there before comes with the identifier that it had. -/
theorem cons_kept (h : IsRecorded before fields low high)
    (hbefore : (before.map (·.input.key)).Nodup) {b : StoredField} (hb : b ∈ before)
    (hkey : b.input.key = input.key) :
    IsRecorded before (⟨b.id, typeId, input⟩ :: fields) low high where
  kept := by
    rintro f (_ | ⟨_, hf⟩) b' hb' hkey'
    · rw [List.inj_on_of_nodup_map hbefore hb' hb (hkey'.trans hkey.symm)]
    · exact h.kept f hf b' hb' hkey'
  issued := by
    rintro f (_ | ⟨_, hf⟩) hnew
    · exact absurd ⟨b, hb, hkey⟩ hnew
    · exact h.issued f hf hnew
  apart := List.pairwise_cons.mpr ⟨fun g _ hnew => absurd ⟨b, hb, hkey⟩ hnew, h.apart⟩

/-- A field whose key was not there before comes with the identifier that is issued next. -/
theorem cons_issued (h : IsRecorded before fields (low + 1) high) (hle : low + 1 ≤ high)
    (hnew : ¬HasKey before input.key) :
    IsRecorded before (⟨Origin.identifier (low + 1), typeId, input⟩ :: fields) low high where
  kept := by
    rintro f (_ | ⟨_, hf⟩) b hb hkey
    · exact absurd ⟨b, hb, hkey⟩ hnew
    · exact h.kept f hf b hb hkey
  issued := by
    rintro f (_ | ⟨_, hf⟩) hf'
    · exact ⟨low + 1, Nat.lt_succ_self low, hle, rfl⟩
    · obtain ⟨n, hlow, hhigh, hid⟩ := h.issued f hf hf'
      exact ⟨n, Nat.lt_of_succ_lt hlow, hhigh, hid⟩
  apart := by
    refine List.pairwise_cons.mpr ⟨fun g hg _ hg' heq => ?_, h.apart⟩
    -- what is issued later has a greater number
    obtain ⟨n, hlow, -, hid⟩ := h.issued g hg hg'
    have hsame := Origin.identifier_injective (heq.trans hid)
    omega

theorem mono (h : IsRecorded before fields low high) {least : Nat} (hle : least ≤ low) :
    IsRecorded before fields least high where
  kept := h.kept
  issued f hf hnew := by
    obtain ⟨n, hlow, hn⟩ := h.issued f hf hnew
    exact ⟨n, Nat.lt_of_le_of_lt hle hlow, hn⟩
  apart := h.apart

/-- Identifiers that are issued in one go differ from each other. -/
theorem eq_of_id_eq (h : IsRecorded before fields low high) {f g : StoredField} (hf : f ∈ fields)
    (hg : g ∈ fields) (hfnew : ¬HasKey before f.input.key) (hgnew : ¬HasKey before g.input.key)
    (hid : f.id = g.id) : f = g := by
  by_contra hne
  have hsymm : Std.Symm fun f g : StoredField =>
      ¬HasKey before f.input.key → ¬HasKey before g.input.key → f.id ≠ g.id :=
    ⟨fun f g hapart hg hf heq => hapart hf hg heq.symm⟩
  exact h.apart.forall hf hg hne hfnew hgnew hid

end StoredField.IsRecorded

variable {w w' : World}

namespace Memory

/-- Recording fields carries identifiers over by key and issues all others, one after the other. -/
theorem isRecorded_of_run {typeId : String} {before fields : List StoredField}
    {inputs : List FieldInput} (hbefore : (before.map (·.input.key)).Nodup)
    (h : (recordFields typeId before inputs).run w = (.ok fields, w')) :
    StoredField.IsRecorded before fields w.origin.issued w'.origin.issued := by
  induction inputs generalizing w fields with
  | nil =>
    rw [recordFields, Action.run_pure_eq_ok_iff] at h
    obtain ⟨rfl, -⟩ := h
    exact ⟨by simp, by simp, .nil⟩
  | cons input rest ih =>
    cases hfind : before.find? fun f => f.input.key == input.key with
    | some b =>
      simp only [recordFields, hfind, Action.run_bind_eq_ok_iff, Action.run_pure_eq_ok_iff] at h
      obtain ⟨id, u, ⟨rfl, rfl⟩, others, u', hothers, rfl, rfl⟩ := h
      have hkey := List.find?_some hfind
      exact (ih hothers).cons_kept hbefore (List.mem_of_find?_eq_some hfind) (beq_iff_eq.mp hkey)
    | none =>
      simp only [recordFields, hfind, Action.run_bind_eq_ok_iff, Action.run_pure_eq_ok_iff] at h
      obtain ⟨id, u, hissue, others, u', hothers, rfl, rfl⟩ := h
      have hissued : World.issueId.run w = (.ok w.origin.issue.latest, w.issue) := rfl
      rw [hissued] at hissue
      obtain ⟨rfl, rfl⟩ := hissue
      obtain ⟨⟨issued, hu'⟩, -⟩ := of_run_recordFields hothers
      have hle : w.origin.issued + 1 ≤ u'.origin.issued := by
        rw [hu']
        exact Nat.le_add_right _ _
      refine (ih hothers).cons_issued hle ?_
      rintro ⟨b, hb, hkey⟩
      exact absurd (beq_iff_eq.mpr hkey) (List.find?_eq_none.mp hfind b hb)

end Memory

namespace World

open StoredField (HasKey IsRecorded)

/-! ### What calls do to fields -/

/-- What a call to the registry may do to the fields that are stored: it leaves them, or it replaces
those of one type by others, or by none. -/
inductive FieldsChange (w w' : World) : Prop
  | left : w.origin.issued ≤ w'.origin.issued → (∀ id, w'.fieldsOf id = w.fieldsOf id) →
      FieldsChange w w'
  | replaced {typeId : String} {fields : List StoredField} :
      w.origin.issued ≤ w'.origin.issued →
      (∃ n ≤ w'.origin.issued, typeId = Origin.identifier n) →
      IsRecorded (w.fieldsOf typeId) fields w.origin.issued w'.origin.issued →
      (∀ id, w'.fieldsOf id = if id = typeId then fields else w.fieldsOf id) → FieldsChange w w'

/-- What is known of the identifiers of fields: each has been issued, and belongs to one field only.
Only what has been issued an identifier has fields. -/
structure FieldIdsSound (w : World) : Prop where
  typed : ∀ a, w.fieldsOf a ≠ [] → ∃ n ≤ w.origin.issued, a = Origin.identifier n
  issued : ∀ a, ∀ f ∈ w.fieldsOf a, ∃ n ≤ w.origin.issued, f.id = Origin.identifier n
  apart : ∀ a b, ∀ f ∈ w.fieldsOf a, ∀ g ∈ w.fieldsOf b, f.id = g.id →
    a = b ∧ f.input.key = g.input.key

theorem issued_le_of_fieldsChange (h : w.FieldsChange w') : w.origin.issued ≤ w'.origin.issued := by
  cases h <;> assumption

/-- A key of a type that is there before and after a change has kept its identifier. -/
theorem id_eq_of_fieldsChange (hkeys : w.FieldsSound) (h : w.FieldsChange w') {a : String}
    {f g : StoredField} (hf : f ∈ w.fieldsOf a) (hg : g ∈ w'.fieldsOf a)
    (hkey : f.input.key = g.input.key) : g.id = f.id := by
  have hnodup := (hkeys.fieldsOf a).nodup
  rw [List.map_map] at hnodup
  have hsame (hg : g ∈ w.fieldsOf a) : g.id = f.id :=
    congrArg StoredField.id (List.inj_on_of_nodup_map hnodup hg hf hkey.symm)
  cases h with
  | left _ hleft => exact hsame (hleft a ▸ hg)
  | @replaced typeId fields _ _ hrecorded hset =>
    rw [hset] at hg
    split at hg
    · next ha =>
      subst ha
      exact hrecorded.kept g hg f hf hkey
    · exact hsame hg

namespace FieldIdsSound

/-- What has been recorded either has the identifier of a field that was there, or a new one. -/
theorem kept_or_issued {before fields : List StoredField} {low high : Nat}
    (h : IsRecorded before fields low high) {f : StoredField} (hf : f ∈ fields) :
    (∃ b ∈ before, b.input.key = f.input.key ∧ f.id = b.id) ∨
      ¬HasKey before f.input.key ∧ ∃ n, low < n ∧ n ≤ high ∧ f.id = Origin.identifier n := by
  by_cases hkey : HasKey before f.input.key
  · obtain ⟨b, hb, hsame⟩ := hkey
    exact .inl ⟨b, hb, hsame, h.kept f hf b hb hsame⟩
  · exact .inr ⟨hkey, h.issued f hf hkey⟩

variable (h : w.FieldIdsSound)
include h

/-- No field has an identifier that is issued later. -/
theorem id_ne_of_lt {a : String} {f : StoredField} (hf : f ∈ w.fieldsOf a) {n : Nat}
    (hn : w.origin.issued < n) : f.id ≠ Origin.identifier n := by
  obtain ⟨m, hm, hid⟩ := h.issued a f hf
  rw [hid]
  intro heq
  have hsame := Origin.identifier_injective heq
  omega

/-- A field that has been recorded for a type shares no identifier with those of other types. -/
theorem id_ne_of_recorded {typeId : String} {fields : List StoredField} {high : Nat}
    (hrecorded : IsRecorded (w.fieldsOf typeId) fields w.origin.issued high) {f : StoredField}
    (hf : f ∈ fields) {a : String} (ha : a ≠ typeId) {g : StoredField} (hg : g ∈ w.fieldsOf a) :
    f.id ≠ g.id := by
  rcases kept_or_issued hrecorded hf with ⟨b, hb, -, hid⟩ | ⟨-, n, hlow, -, hid⟩
  · exact fun heq => ha (h.apart typeId a b hb g hg (hid.symm.trans heq)).1.symm
  · exact fun heq => h.id_ne_of_lt hg hlow (heq.symm.trans hid)

/-- Fields that have been recorded for a type share an identifier only if they share a key. -/
theorem key_eq_of_recorded {typeId : String} {fields : List StoredField} {high : Nat}
    (hrecorded : IsRecorded (w.fieldsOf typeId) fields w.origin.issued high) {f g : StoredField}
    (hf : f ∈ fields) (hg : g ∈ fields) (hid : f.id = g.id) : f.input.key = g.input.key := by
  rcases kept_or_issued hrecorded hf with ⟨b, hb, hkey, hbid⟩ | ⟨hfnew, n, hlow, -, hfid⟩
  · rcases kept_or_issued hrecorded hg with ⟨c, hc, hkey', hcid⟩ | ⟨-, n, hlow, -, hgid⟩
    · -- both come from fields that were there, and these are told apart
      have hsame := h.apart typeId typeId b hb c hc (hbid.symm.trans (hid.trans hcid))
      exact hkey.symm.trans (hsame.2.trans hkey')
    · exact absurd (hbid.symm.trans (hid.trans hgid)) (h.id_ne_of_lt hb hlow)
  · rcases kept_or_issued hrecorded hg with ⟨c, hc, -, hcid⟩ | ⟨hgnew, -⟩
    · exact absurd (hcid.symm.trans (hid.symm.trans hfid)) (h.id_ne_of_lt hc hlow)
    · rw [hrecorded.eq_of_id_eq hf hg hfnew hgnew hid]

/-- Every change keeps what is known of the identifiers of fields. -/
theorem change (hchange : w.FieldsChange w') : w'.FieldIdsSound := by
  cases hchange with
  | left hle hleft =>
    constructor
    · intro a ha
      obtain ⟨n, hn, rfl⟩ := h.typed a (hleft a ▸ ha)
      exact ⟨n, Nat.le_trans hn hle, rfl⟩
    · intro a f hf
      obtain ⟨n, hn, hid⟩ := h.issued a f (hleft a ▸ hf)
      exact ⟨n, Nat.le_trans hn hle, hid⟩
    · intro a b f hf g hg
      exact h.apart a b f (hleft a ▸ hf) g (hleft b ▸ hg)
  | @replaced typeId fields hle hissued hrecorded hset =>
    constructor
    · intro a ha
      rw [hset] at ha
      split at ha
      · next hsame => exact hsame ▸ hissued
      · obtain ⟨n, hn, rfl⟩ := h.typed a ha
        exact ⟨n, Nat.le_trans hn hle, rfl⟩
    · intro a f hf
      rw [hset] at hf
      split at hf
      · rcases kept_or_issued hrecorded hf with ⟨b, hb, -, hid⟩ | ⟨-, n, -, hn, hid⟩
        · obtain ⟨n, hn, hbid⟩ := h.issued typeId b hb
          exact ⟨n, Nat.le_trans hn hle, hid.trans hbid⟩
        · exact ⟨n, hn, hid⟩
      · obtain ⟨n, hn, hid⟩ := h.issued a f hf
        exact ⟨n, Nat.le_trans hn hle, hid⟩
    · intro a b f hf g hg hid
      rw [hset] at hf hg
      split at hf <;> split at hg
      · next ha hb => exact ⟨ha.trans hb.symm, h.key_eq_of_recorded hrecorded hf hg hid⟩
      · next _ hb => exact absurd hid (h.id_ne_of_recorded hrecorded hf hb hg)
      · next ha _ => exact absurd hid.symm (h.id_ne_of_recorded hrecorded hg ha hf)
      · exact h.apart a b f hf g hg hid

end FieldIdsSound

/-! ### Calls -/

theorem fieldsOf_putFields (w : World) (typeId : String) (fields : List StoredField) (a : String) :
    (w.putFields typeId fields).fieldsOf a = if a = typeId then fields else w.fieldsOf a := by
  rw [putFields, fieldsOf, Table.get?_set]
  split <;> rfl

theorem fieldsOf_dropType (w : World) (typeId a : String) :
    (w.dropType typeId).fieldsOf a = if a = typeId then [] else w.fieldsOf a := by
  rw [dropType, fieldsOf, Table.get?_erase]
  split <;> rfl

theorem fieldsOf_addType (w : World) (t : ContentType) (a : String) :
    (w.addType t).fieldsOf a = if a = t.id then [] else w.fieldsOf a := by
  rw [addType, fieldsOf, Table.get?_set]
  split <;> rfl

/-- What is there after the fields of a type have been replaced. -/
theorem FieldsReplaced.exists_recorded {t : ContentType} {inputs : List FieldInput}
    (h : w.FieldsReplaced t inputs w') (hkeys : w.FieldsSound) :
    w.origin.issued ≤ w'.origin.issued ∧ ∃ fields, fields.map (·.input) = inputs ∧
      IsRecorded (w.fieldsOf t.id) fields w.origin.issued w'.origin.issued ∧
      ∀ a, w'.fieldsOf a = if a = t.id then fields else w.fieldsOf a := by
  obtain ⟨hrun⟩ := h
  have hnodup := (hkeys.fieldsOf t.id).nodup
  rw [List.map_map] at hnodup
  have hrecorded := Memory.isRecorded_of_run hnodup hrun
  obtain ⟨⟨issued, rfl⟩, hinputs, -⟩ := Memory.of_run_recordFields hrun
  exact ⟨Nat.le_add_right _ _, _, hinputs, hrecorded, fieldsOf_putFields _ t.id _⟩

/-- Fields are replaced in one change, also if other things have happened before. -/
theorem FieldsReplaced.fieldsChange {u : World} {t : ContentType} {inputs : List FieldInput}
    (h : u.FieldsReplaced t inputs w') (hkeys : u.FieldsSound)
    (hid : ∃ n ≤ u.origin.issued, t.id = Origin.identifier n)
    (hfields : ∀ a, u.fieldsOf a = w.fieldsOf a) (hle : w.origin.issued ≤ u.origin.issued) :
    w.FieldsChange w' := by
  obtain ⟨hlater, fields, -, hrecorded, hset⟩ := h.exists_recorded hkeys
  obtain ⟨n, hn, hid⟩ := hid
  rw [hfields] at hrecorded
  simp only [hfields] at hset
  exact .replaced (Nat.le_trans hle hlater) ⟨n, Nat.le_trans hn hlater, hid⟩ (hrecorded.mono hle)
    hset

theorem FieldsTaken.fieldsChange {u : World} {t : ContentType} {request : Value}
    (h : u.FieldsTaken t request w') (hkeys : u.FieldsSound)
    (hid : ∃ n ≤ u.origin.issued, t.id = Origin.identifier n)
    (hfields : ∀ a, u.fieldsOf a = w.fieldsOf a) (hle : w.origin.issued ≤ u.origin.issued) :
    w.FieldsChange w' := by
  cases h with
  | replaced _ _ hreplaced => exact hreplaced.fieldsChange hkeys hid hfields hle
  | left _ => exact .left hle hfields

/-- A type that is made has no fields at first, and none were there under its identifier. -/
theorem FieldIdsSound.fieldsOf_addType (h : w.FieldIdsSound) (values : TypeValues) (a : String) :
    (w.issue.addType (w.newType values)).fieldsOf a = w.fieldsOf a := by
  rw [World.fieldsOf_addType]
  split
  · next ha =>
    by_contra hne
    obtain ⟨n, hn, hid⟩ := h.typed a (Ne.symm hne)
    have hsame := Origin.identifier_injective (ha.symm.trans hid)
    exact Nat.not_succ_le_self _ (hsame ▸ hn)
  · rfl

/-- Every call changes fields in one of these ways. -/
theorem fieldsChange_next (h : w.RegistrySound) (hids : w.FieldIdsSound) (c : RegistryCall) :
    w.FieldsChange (c.next w) := by
  rcases (RegistryCall.next_eq_iff h c).mp rfl with hwrites | ⟨-, hsame⟩
  · generalize c.next w = w' at hwrites
    cases hwrites with
    | @create request values _ hvalues hfree htaken =>
      -- the fields are replaced in the world in which the type has been made
      have hsound := h.ofReaches (World.Step.addType hvalues hfree).reaches
      refine htaken.fieldsChange hsound.fields ⟨_, Nat.le_refl _, rfl⟩
        (hids.fieldsOf_addType values) (Nat.le_succ _)
    | @update _ _ t _ _ ht _ _ htaken =>
      exact htaken.fieldsChange h.fields (h.types.issued t (mem_of_findType? ht)) (fun _ => rfl)
        (Nat.le_refl _)
    | @replaceFields _ _ t _ _ ht _ hreplaced =>
      exact hreplaced.fieldsChange h.fields (h.types.issued t (mem_of_findType? ht))
        (fun _ => rfl) (Nat.le_refl _)
    | @delete _ t ht =>
      exact .replaced (Nat.le_refl _) (h.types.issued t (mem_of_findType? ht))
        ⟨by simp, by simp, .nil⟩ fun a => fieldsOf_dropType w t.id a
  · rw [hsame]
    exact .left (Nat.le_refl _) fun _ => rfl

/-! ### Runs -/

/-- What may happen to the registry: a call, or something elsewhere in the world. -/
inductive RegistryStep (w : World) : World → Prop
  | call (c : RegistryCall) : RegistryStep w (c.next w)
  | elsewhere {w' : World} : w'.types = w.types → w'.fields = w.fields →
      w.origin.issued ≤ w'.origin.issued → RegistryStep w w'

/-- What holds of the fields of a registry in every world that is reached. -/
structure RegistrySettled (w : World) : Prop where
  sound : w.RegistrySound
  ids : w.FieldIdsSound

theorem RegistrySettled.fieldsChange (h : w.RegistrySettled) (hstep : w.RegistryStep w') :
    w.FieldsChange w' := by
  cases hstep with
  | call c => exact fieldsChange_next h.sound h.ids c
  | elsewhere _ hfields hissued =>
    exact .left hissued fun a => by rw [fieldsOf, hfields, fieldsOf]

theorem RegistrySettled.step (h : w.RegistrySettled) (hstep : w.RegistryStep w') :
    w'.RegistrySettled where
  sound := by
    cases hstep with
    | call c => exact h.sound.next c
    | elsewhere htypes hfields hissued => exact h.sound.ofRest htypes hfields hissued
  ids := h.ids.change (h.fieldsChange hstep)

theorem RegistryReached.settled (h : w.RegistryReached) : w.RegistrySettled := by
  induction h with
  | @start w htypes hfields =>
    have hnone (a : String) : w.fieldsOf a = [] := by
      rw [fieldsOf, hfields]
      rfl
    refine ⟨RegistryReached.sound (.start htypes hfields), ?_⟩
    constructor <;> simp [hnone]
  | call c _ ih => exact ih.step (.call c)
  | elsewhere _ htypes hfields hissued ih => exact ih.step (.elsewhere htypes hfields hissued)

/-- Whether one world comes after another one. -/
def Precedes : World → World → Prop :=
  Relation.ReflTransGen RegistryStep

/-- Whether a world comes after another one while a type keeps having a field with a key. -/
inductive KeyStays (typeId key : String) (w : World) : World → Prop
  | refl : HasKey (w.fieldsOf typeId) key → KeyStays typeId key w w
  | step {u w' : World} : KeyStays typeId key w u → u.RegistryStep w' →
      HasKey (w'.fieldsOf typeId) key → KeyStays typeId key w w'

theorem RegistrySettled.precedes (h : w.RegistrySettled) (hrun : w.Precedes w') :
    w'.RegistrySettled ∧ w.origin.issued ≤ w'.origin.issued := by
  induction hrun with
  | refl => exact ⟨h, Nat.le_refl _⟩
  | tail _ hstep ih =>
    exact ⟨ih.1.step hstep, Nat.le_trans ih.2 (issued_le_of_fieldsChange (ih.1.fieldsChange hstep))⟩

/-- Fields with one key have one identifier. -/
theorem RegistrySettled.id_eq_of_key_eq (h : w.RegistrySettled) {a : String} {f g : StoredField}
    (hf : f ∈ w.fieldsOf a) (hg : g ∈ w.fieldsOf a) (hkey : f.input.key = g.input.key) :
    g.id = f.id :=
  id_eq_of_fieldsChange h.sound.fields (.left (Nat.le_refl _) fun _ => rfl) hf hg hkey

theorem KeyStays.precedes {typeId key : String} (h : KeyStays typeId key w w') :
    w.Precedes w' := by
  induction h with
  | refl _ => exact .refl
  | step _ hstep _ ih => exact ih.tail hstep

theorem KeyStays.hasKey {typeId key : String} (h : KeyStays typeId key w w') :
    HasKey (w'.fieldsOf typeId) key := by
  cases h <;> assumption

/-- A key that stays present keeps its identifier. -/
theorem KeyStays.id_eq {typeId key : String} (hrun : KeyStays typeId key w w')
    (h : w.RegistrySettled) {f g : StoredField} (hf : f ∈ w.fieldsOf typeId)
    (hfkey : f.input.key = key) (hg : g ∈ w'.fieldsOf typeId) (hgkey : g.input.key = key) :
    g.id = f.id := by
  induction hrun generalizing g with
  | refl _ => exact h.id_eq_of_key_eq hf hg (hfkey.trans hgkey.symm)
  | @step u w' hrun hstep _ ih =>
    -- the field that has the key before the last step links the two
    obtain ⟨e, he, hekey⟩ := hrun.hasKey
    have hu := (h.precedes hrun.precedes).1
    have hlast := id_eq_of_fieldsChange hu.sound.fields (hu.fieldsChange hstep) he hg
      (hekey.trans hgkey.symm)
    exact hlast.trans (ih he hekey)

end World

end ContentEngine
