import ContentEngine.Proofs.Service.Writes
import ContentEngine.Proofs.Title
import ContentEngine.Proofs.World.Fields

/-!
# Saving an entry unchanged

Each stage in which the values of an entry are prepared has a result for what it has stored, and
leaves it alone, but for web addresses that are not settled (`Prepares.exists_self`). So an entry
that has been saved for a role, by making it or by changing it, can be saved again with its own
values, as long as neither types nor fields nor views have changed, and keeps them if all its web
addresses are settled (`resave_unchanged_iff`).
-/

namespace ContentEngine

namespace Service

variable {mail : Format.MailReader} {w w' : World} {t : ContentType} {e : Entry}
variable {typeName typeId : String} {request role : Value} {values : EntryValues} {shown : Obj}

/-! ### Values that are stored again -/

theorem mem_of_requestedStatus {o : Obj} {status : String} (h : requestedStatus o = .ok status) :
    status ∈ entryStatuses := by
  rw [requestedStatus, ite_eq_iff] at h
  obtain ⟨hknown, h⟩ | ⟨-, h⟩ := h
  · rw [Except.ok.injEq] at h
    rw [h] at hknown
    exact List.contains_iff_mem.mp hknown
  · simp only [reduceCtorEq] at h

/-- A known status is the one that is asked for. -/
theorem requestedStatus_of_mem {o : Obj} {status : String} (hknown : status ∈ entryStatuses)
    (hget : Obj.get o "status" = .str status) : requestedStatus o = .ok status := by
  have htrim : ∀ status ∈ entryStatuses, trim status = status ∧ status ≠ "" := by decide
  obtain ⟨hself, hne⟩ := htrim status hknown
  rw [requestedStatus, hget, Value.trimmedText_str, hself, if_neg hne]
  exact if_pos (List.contains_iff_mem.mpr hknown)

theorem requestedData_of_get {o data : Obj} (hget : Obj.get o "data" = .obj data) :
    requestedData o = .ok (.obj data) := by
  rw [requestedData, hget]
  cases data <;> rfl

namespace Prepares

variable {stored : List StoredField} {views : List Obj} {o : Obj}

/-- A request with the values that have been stored of a request gives values, with the same slug
and the same status, and all of them are the same, if mail addresses are, exactly if no web address
among them is unsettled. -/
theorem exists_self (hmail : ∀ v w, Format.canonicalEmailWith mail v = .ok w →
      Format.canonicalEmailWith mail w = .ok w)
    (hstored : FieldInput.IsStrict (stored.map (·.input)))
    (h : Prepares mail stored views role o values) :
    ∃ again, Prepares mail stored views role values.toObj again ∧
      again.slug = values.slug ∧ again.status = values.status ∧
      (again = values ↔ ∀ f ∈ stored, f.input.kind = .url →
        ∀ v, Obj.get? values.data.members f.input.key = some v →
          Format.isUnsettledUrl v = false) := by
  cases h with
  | @intro given status title slug fields data core _ hstatus hfields hdata hcore htitle =>
    obtain ⟨hkeyed, hnodup⟩ := Entry.keyedFields_of_listOf hstored hfields
    obtain ⟨data', hdata', hdiffers⟩ :=
      Entry.exists_normalDataWith_again hmail hkeyed hnodup hdata
    obtain ⟨title', htitle'⟩ := exists_titleAndSlug hdiffers htitle
    refine ⟨_, .intro (requestedData_of_get rfl)
      (requestedStatus_of_mem (mem_of_requestedStatus hstatus) rfl) hfields hdata' hcore htitle',
      rfl, rfl, Iff.trans ?_ (Entry.normalDataWith_presented_iff hmail hstored hfields hdata)⟩
    constructor
    · intro hsame
      obtain ⟨-, -, -, hobj⟩ := EntryValues.mk.inj hsame
      rwa [Value.obj.inj hobj] at hdata'
    · intro hsettled
      -- from the same data comes the same title
      obtain rfl := Except.ok.inj (hdata'.symm.trans hsettled)
      obtain ⟨rfl, -⟩ := Prod.mk.inj (Except.ok.inj (htitle'.symm.trans (titleAndSlug_self htitle)))
      rfl

end Prepares

/-! ### Entries that have been saved -/

/-- Whether some values are what a request gives to an entry of a type, for a writer in some role,
and entries of the type can be shown. -/
structure IsSavable (mail : Format.MailReader) (w : World) (typeId : String) (role : Value)
    (values : EntryValues) : Prop where
  prepares : ∃ o, Prepares mail (w.fieldsOf typeId) (viewsOf w typeId) role o values
  showable : IsShowable typeId (w.fieldsOf typeId)

/-- Whether values can be saved is told by the fields and the views. -/
theorem IsSavable.of_eq (h : IsSavable mail w typeId role values) (hfields : w'.fields = w.fields)
    (hviews : w'.views = w.views) : IsSavable mail w' typeId role values := by
  have hfieldsOf : w'.fieldsOf typeId = w.fieldsOf typeId := by
    rw [World.fieldsOf, hfields, World.fieldsOf]
  have hviewsOf : viewsOf w' typeId = viewsOf w typeId := by rw [viewsOf, hviews, viewsOf]
  constructor
  · rw [hfieldsOf, hviewsOf]
    exact h.prepares
  · rw [hfieldsOf]
    exact h.showable

/-- An entry that has been made has values that can be saved. -/
theorem exists_of_createEntryWith (hw : w.Sound)
    (h : (createEntryWith mail Memory.stores typeName request role).run w = (.ok shown, w')) :
    ∃ t e, w'.findType? typeName = some t ∧ w'.entries.find? t.id (recordId shown) = some e ∧
      IsSavable mail w' t.id role e.values := by
  obtain ⟨t, ht⟩ := exists_findType?_of_run h
  have hid : w.findType? t.id = some t := hw.types.findType?_id (World.mem_of_findType? ht)
  obtain ⟨o, values, -, hprepares, -, rfl, hshown⟩ := (run_createEntryWith_eq_ok_iff ht hid).mp h
  refine ⟨t, w.newEntry t.id values, ht, ?_, ⟨o, hprepares⟩, ?_⟩
  · rw [(of_run_resolveOne hshown).1]
    exact w.find?_withNew t.id values
  · have hafter : (w.withNew t.id values).findType? t.id = some t := hid
    exact (exists_run_resolveOne_iff hafter _).mp ⟨shown, hshown⟩

/-- An entry that has been changed has values that can be saved. -/
theorem exists_of_updateEntryWith (hw : w.Sound) {name : Value}
    (h : (updateEntryWith mail Memory.stores typeName name request role).run w =
      (.ok shown, w')) :
    ∃ t e, w'.findType? typeName = some t ∧ w'.entries.find? t.id (recordId shown) = some e ∧
      IsSavable mail w' t.id role e.values := by
  obtain ⟨t, ht⟩ := exists_findType?_of_run h
  have hid : w.findType? t.id = some t := hw.types.findType?_id (World.mem_of_findType? ht)
  obtain ⟨e, hname⟩ : ∃ e, Memory.entryNamed? w t.id name = some e := by
    rw [updateEntryWith, Action.run_bind, run_contentType, ht] at h
    exact exists_entryNamed?_of_run h
  have he := find?_of_entryNamed? hw.entries hname
  obtain ⟨o, values, -, hprepares, -, rfl, hshown⟩ :=
    (run_updateEntryWith_eq_ok_iff ht hid hname he).mp h
  refine ⟨t, w.changedEntry e values, ht, ?_, ⟨o, hprepares⟩, ?_⟩
  · rw [(of_run_resolveOne hshown).1]
    exact World.find?_withChanged values he
  · have hafter : (w.withChanged e values).findType? t.id = some t := hid
    exact (exists_run_resolveOne_iff hafter _).mp ⟨shown, hshown⟩

/-! ### Saving an entry again -/

/-- A request with the own values of an entry, which can be saved, changes the entry. It keeps its
slug and its status, and if mail addresses are kept, it keeps all values exactly if no web address
among them is unsettled. -/
theorem exists_run_updateEntryWith_self
    (hmail : ∀ v w, Format.canonicalEmailWith mail v = .ok w →
      Format.canonicalEmailWith mail w = .ok w)
    (hw : w.Sound) (hfields : w.FieldsSound) (ht : w.findType? typeName = some t) {name : Value}
    (hname : Memory.entryNamed? w t.id name = some e)
    (hsavable : IsSavable mail w t.id role e.values) :
    ∃ shown values,
      (updateEntryWith mail Memory.stores typeName name (.obj e.values.toObj) role).run w =
        (.ok shown, w.withChanged e values) ∧
      values.slug = e.values.slug ∧ values.status = e.values.status ∧
      (values = e.values ↔ ∀ f ∈ w.fieldsOf t.id, f.input.kind = .url →
        ∀ v, Obj.get? e.values.data.members f.input.key = some v →
          Format.isUnsettledUrl v = false) := by
  have hid : w.findType? t.id = some t := hw.types.findType?_id (World.mem_of_findType? ht)
  have he := find?_of_entryNamed? hw.entries hname
  obtain ⟨o, hprepares⟩ := hsavable.prepares
  obtain ⟨values, hself, hslug, hrest⟩ := hprepares.exists_self hmail (hfields.fieldsOf t.id)
  have hfree : w.entries.slugTaken t.id values.slug (some e.id) = false := by
    rw [hslug]
    exact EntryStore.slugTaken_own hw.entries.sound he
  have hafter : (w.withChanged e values).findType? t.id = some t := hid
  obtain ⟨shown, hshown⟩ := (exists_run_resolveOne_iff hafter
    (w.changedEntry e values).toObj).mpr hsavable.showable
  exact ⟨shown, values, (run_updateEntryWith_eq_ok_iff ht hid hname he).mpr
    ⟨_, values, rfl, hself, hfree, rfl, hshown⟩, hslug, hrest⟩

/-- Saving an entry unchanged: when an entry has been made or changed in a world that is reached,
and neither types nor fields nor views have changed since, a request with its own values for a
writer in the same role succeeds. The slug and the status stay, and if mail addresses are kept, all
values stay exactly if no web address among them is unsettled; then nothing changes but the time of
the last change, and there is one new version. -/
theorem resave_unchanged_iff
    (hmail : ∀ v w, Format.canonicalEmailWith mail v = .ok w →
      Format.canonicalEmailWith mail w = .ok w)
    {before after : World} (hbefore : World.empty.Reaches before)
    (hsaved : (createEntryWith mail Memory.stores typeName request role).run before =
        (.ok shown, after) ∨
      ∃ name, (updateEntryWith mail Memory.stores typeName name request role).run before =
        (.ok shown, after)) :
    ∃ t e, after.findType? typeName = some t ∧
      after.entries.find? t.id (recordId shown) = some e ∧
      ∀ later, after.Reaches later → later.types = after.types → later.fields = after.fields →
        later.views = after.views →
        ∀ name, Memory.entryNamed? later t.id name = some e → ∃ shown' values,
          (updateEntryWith mail Memory.stores typeName name (.obj e.values.toObj) role).run later =
            (.ok shown', later.withChanged e values) ∧
          values.slug = e.values.slug ∧ values.status = e.values.status ∧
          (values = e.values ↔ ∀ f ∈ later.fieldsOf t.id, f.input.kind = .url →
            ∀ v, Obj.get? e.values.data.members f.input.key = some v →
              Format.isUnsettledUrl v = false) := by
  have hsound := hbefore.sound World.sound_empty
  have hafter : before.Reaches after := by
    rcases hsaved with hcreate | ⟨name, hupdate⟩
    · have hreaches := reaches_createEntryWith mail typeName request role before
      rwa [hcreate] at hreaches
    · have hreaches := reaches_updateEntryWith mail typeName name request role before
      rwa [hupdate] at hreaches
  obtain ⟨t, e, ht, he, hsavable⟩ : ∃ t e, after.findType? typeName = some t ∧
      after.entries.find? t.id (recordId shown) = some e ∧
      IsSavable mail after t.id role e.values := by
    rcases hsaved with hcreate | ⟨name, hupdate⟩
    · exact exists_of_createEntryWith hsound hcreate
    · exact exists_of_updateEntryWith hsound hupdate
  refine ⟨t, e, ht, he, fun later hlater htypes hfields hviews name hname => ?_⟩
  have hreached : World.empty.Reaches later := (hbefore.trans hafter).trans hlater
  have hstill : later.findType? typeName = some t := by
    rw [World.findType?, htypes]
    exact ht
  exact exists_run_updateEntryWith_self hmail (hreached.sound World.sound_empty)
    hreached.fieldsSound hstill hname (hsavable.of_eq hfields hviews)

/-! ### Links -/

/-- The type of links. -/
def linkType : ContentType := World.empty.newType ⟨"links", .content, "Link", "Links", "", ""⟩

/-- The world with the type of links, before it gets its fields. -/
def linkWorld : World := World.empty.issue.addType linkType

/-- The one field of a link, for a web address. -/
def siteField : StoredField :=
  ⟨linkWorld.origin.issue.latest, linkType.id, ⟨"site", "Site", .url, false, "", 0, []⟩⟩

/-- The world with the type of links and its field. -/
def siteWorld : World :=
  (linkWorld.issue.putFields linkType.id [siteField]).putType
    { linkType with updatedAt := linkWorld.origin.now }

theorem reaches_siteWorld : World.empty.Reaches siteWorld := by
  have hvalues : ContentType.prepare (.obj [("label_singular", .str "Link")]) [] =
      .ok linkType.values := Outcome.eq_ok_of_toOption (by decide +kernel)
  have hinputs : FieldInput.listOf
      (.list [.obj [("key", .str "site"), ("label", .str "Site"), ("type", .str "url")]]) =
      .ok [siteField.input] := rfl
  have hrecord : (Memory.recordFields linkType.id (linkWorld.fieldsOf linkType.id)
      [siteField.input]).run linkWorld = (.ok [siteField], linkWorld.issue) := rfl
  have hmem : linkType ∈ linkWorld.types := List.mem_singleton_self _
  exact (World.Step.addType hvalues rfl).reaches.trans
    (World.Step.replaceFields hmem hinputs hrecord).reaches

/-- The field of a link as it is read. -/
def shownSite : PresentedField :=
  ⟨⟨.str siteField.id, "site", "Site", .url, false, "", 0, []⟩, .str linkType.id⟩

theorem listOf_siteField : PresentedField.listOf [siteField.toObj] = .ok [shownSite] := by
  have hread : FieldDef.ofValue? (.obj siteField.toObj) 0 = .ok (some shownSite.definition) := by
    rw [FieldDef.ofValue?]
    rfl
  have horder : (Obj.get siteField.toObj "order_index").toInteger = .ok (some 0) := rfl
  have hfield : PresentedField.ofStored? siteField.toObj = .ok (some shownSite) := by
    rw [PresentedField.ofStored?, horder, Outcome.ok_bind, Option.getD_some, hread]
    rfl
  rw [PresentedField.listOf, List.mapM_cons, hfield]
  simp [PresentedField.inOrder]

/-- The values of a link to an address. -/
def linkTo (address : String) : EntryValues :=
  ⟨.str "T", "t", .str "draft", .obj [("site", .str address)]⟩

/-- Whether a world has the type of links with its field, and no view for it. -/
structure HasLinks (w : World) : Prop where
  named : w.findType? "links" = some linkType
  found : w.findType? linkType.id = some linkType
  fields : w.fieldsOf linkType.id = [siteField]
  views : viewsOf w linkType.id = []

theorem hasLinks_siteWorld : HasLinks siteWorld where
  named := by decide
  found := by decide
  fields := rfl
  views := by
    have hviews : siteWorld.views = [] := rfl
    rw [viewsOf, hviews, List.filter_nil, List.mergeSort_nil, List.map_nil]

namespace HasLinks

theorem withNew (h : HasLinks w) (typeId : String) (values : EntryValues) :
    HasLinks (w.withNew typeId values) :=
  ⟨h.named, h.found, h.fields, h.views⟩

theorem withChanged (h : HasLinks w) (e : Entry) (values : EntryValues) :
    HasLinks (w.withChanged e values) :=
  ⟨h.named, h.found, h.fields, h.views⟩

/-- What is stored of a link is told by what is stored of its address. -/
theorem prepares (h : HasLinks w) {given stored : String}
    (hdata : Entry.normalDataWith mail (.list [.obj shownSite.toObj])
      (.obj [("site", .str given)]) = .ok [("site", .str stored)]) :
    Prepares mail (w.fieldsOf linkType.id) (viewsOf w linkType.id) (.str "ADMIN")
      (linkTo given).toObj (linkTo stored) := by
  have hslug : Obj.get (linkTo given).toObj "slug" = .str "t" := rfl
  rw [h.fields, h.views]
  refine .intro (requestedData_of_get rfl) (requestedStatus_of_mem (by decide) rfl)
    listOf_siteField hdata rfl ?_
  rw [hslug]
  exact titleAndSlug_eq_ok_iff.mpr ⟨.str "T", rfl, by decide, by decide, by decide, by decide⟩

theorem exists_shown (h : HasLinks w) (entry : Obj) :
    ∃ shown, (resolveOne Memory.stores linkType.id entry).run w = (.ok shown, w) := by
  refine (exists_run_resolveOne_iff h.found entry).mpr ?_
  rw [h.fields]
  exact .inr ⟨[shownSite], [], listOf_siteField, rfl⟩

end HasLinks

/-- A link is made as soon as its address can be stored. -/
theorem exists_run_createLink {given stored : String}
    (hdata : Entry.normalDataWith mail (.list [.obj shownSite.toObj])
      (.obj [("site", .str given)]) = .ok [("site", .str stored)]) :
    ∃ shown, recordId shown = (siteWorld.newEntry linkType.id (linkTo stored)).id ∧
      (createEntryWith mail Memory.stores "links" (.obj (linkTo given).toObj)
        (.str "ADMIN")).run siteWorld =
          (.ok shown, siteWorld.withNew linkType.id (linkTo stored)) := by
  have h := hasLinks_siteWorld
  obtain ⟨shown, hshown⟩ := (h.withNew linkType.id (linkTo stored)).exists_shown
    (siteWorld.newEntry linkType.id (linkTo stored)).toObj
  have hfree : siteWorld.entries.slugTaken linkType.id (linkTo stored).slug none = false := rfl
  exact ⟨shown, (of_run_resolveOne hshown).1, (run_createEntryWith_eq_ok_iff h.named h.found).mpr
    ⟨_, linkTo stored, rfl, h.prepares hdata, hfree, rfl, hshown⟩⟩

theorem entryNamed?_link (address : String) :
    Memory.entryNamed? (siteWorld.withNew linkType.id (linkTo address)) linkType.id (.str "t") =
      some (siteWorld.newEntry linkType.id (linkTo address)) := rfl

/-- A link to an address in its canonical form is kept when it is saved unchanged. -/
theorem link_kept_by_resave : ∃ shown shown' e after,
    (createEntryWith Entry.adaReader Memory.stores "links" (.obj (linkTo "h/a").toObj)
        (.str "ADMIN")).run siteWorld = (.ok shown, after) ∧
      after.entries.find? linkType.id (recordId shown) = some e ∧
      (updateEntryWith Entry.adaReader Memory.stores "links" (.str "t") (.obj e.values.toObj)
        (.str "ADMIN")).run after = (.ok shown', after.withChanged e e.values) := by
  have hdata : Entry.normalDataWith Entry.adaReader (.list [.obj shownSite.toObj])
      (.obj [("site", .str "h/a")]) = .ok [("site", .str "https://h/a")] := rfl
  obtain ⟨shown, hid, hcreate⟩ := exists_run_createLink hdata
  obtain ⟨t, e, ht, he, hresave⟩ := resave_unchanged_iff Entry.canonicalEmailWith_adaReader
    reaches_siteWorld (.inl hcreate)
  have h := hasLinks_siteWorld.withNew linkType.id (linkTo "https://h/a")
  obtain rfl : t = linkType := Option.some.inj (ht.symm.trans h.named)
  have hstored : e = siteWorld.newEntry linkType.id (linkTo "https://h/a") := by
    rw [hid] at he
    exact Option.some.inj (he.symm.trans rfl)
  have hname := entryNamed?_link "https://h/a"
  rw [← hstored] at hname
  obtain ⟨shown', values, hupdate, -, -, hkept⟩ :=
    hresave _ (.refl _) rfl rfl rfl (.str "t") hname
  have hsame : values = e.values := by
    rw [hkept, h.fields, List.forall_mem_singleton, hstored]
    intro _ v hv
    obtain rfl := Option.some.inj hv
    rfl
  rw [hsame] at hupdate
  exact ⟨shown, shown', e, _, hcreate, he, hupdate⟩

/-- A link whose path ends in a no-break space is stored with it, and loses it when the link is
saved unchanged. -/
theorem link_changed_by_resave : World.empty.Reaches siteWorld ∧
    ∃ shown shown',
      (createEntry Memory.stores "links" (.obj (linkTo "https://h/a\u00a0?").toObj)
        (.str "ADMIN")).run siteWorld =
        (.ok shown, siteWorld.withNew linkType.id (linkTo "https://h/a\u00a0")) ∧
      (updateEntry Memory.stores "links" (.str "t") (.obj (linkTo "https://h/a\u00a0").toObj)
        (.str "ADMIN")).run (siteWorld.withNew linkType.id (linkTo "https://h/a\u00a0")) =
        (.ok shown', (siteWorld.withNew linkType.id (linkTo "https://h/a\u00a0")).withChanged
          (siteWorld.newEntry linkType.id (linkTo "https://h/a\u00a0")) (linkTo "https://h/a")) ∧
      (linkTo "https://h/a").data ≠ (linkTo "https://h/a\u00a0").data := by
  have hdata : Entry.normalDataWith Format.readEmail? (.list [.obj shownSite.toObj])
      (.obj [("site", .str "https://h/a\u00a0?")]) = .ok [("site", .str "https://h/a\u00a0")] := rfl
  have hagain : Entry.normalDataWith Format.readEmail? (.list [.obj shownSite.toObj])
      (.obj [("site", .str "https://h/a\u00a0")]) = .ok [("site", .str "https://h/a")] := rfl
  obtain ⟨shown, -, hcreate⟩ := exists_run_createLink hdata
  have h := hasLinks_siteWorld.withNew linkType.id (linkTo "https://h/a\u00a0")
  set link := siteWorld.newEntry linkType.id (linkTo "https://h/a\u00a0")
  have hname := entryNamed?_link "https://h/a\u00a0"
  obtain ⟨shown', hshown⟩ := (h.withChanged link (linkTo "https://h/a")).exists_shown
    (World.changedEntry _ link (linkTo "https://h/a")).toObj
  have hfind : (siteWorld.withNew linkType.id (linkTo "https://h/a\u00a0")).entries.find?
      linkType.id link.id = some link := rfl
  have hfree : (siteWorld.withNew linkType.id (linkTo "https://h/a\u00a0")).entries.slugTaken
      linkType.id (linkTo "https://h/a").slug (some link.id) = false := rfl
  refine ⟨reaches_siteWorld, shown, shown', hcreate, ?_, by simp [linkTo]⟩
  exact (run_updateEntryWith_eq_ok_iff h.named h.found hname hfind).mpr
    ⟨_, _, rfl, h.prepares hagain, hfree, rfl, hshown⟩

end Service

end ContentEngine
