import ContentEngine.Proofs.EntryStore.Run

/-!
# Versions are the history of an entry

`entryLog` lists the calls of a run with their answers, and `EntryPast` is what can be told of an
entry from that list alone, without looking at any store: its type, the values it was given last,
and the values it had right before each change that succeeded, the newest first. An entry that was
never made, or that was taken out, has no past.

`versions_runEntries` is the main statement: after any run, the stored entry and its versions are
what its past says. It is carried by `Recorded`, which one call keeps (`Recorded.call`); the store
has to be sound for that, since a new identifier must not be one that has versions already.
-/

namespace ContentEngine

/-- What the calls of a run tell about an entry. -/
structure EntryPast where
  typeId : String
  values : EntryValues
  earlier : List EntryValues

namespace EntryPast

/-- The past of an entry whose values change. -/
def change (p : EntryPast) (values : EntryValues) : EntryPast :=
  { p with values := values, earlier := p.values :: p.earlier }

/-- The past of the entry with an identifier after one more call. -/
def after (id : String) (past : Option EntryPast) (c : EntryCall) (answer : Outcome EntryAnswer) :
    Option EntryPast :=
  match c, answer with
  | .create typeId values, .ok (.created e) => if e.id = id then some ⟨typeId, values, []⟩ else past
  | .update _ changed values, .ok (.updated (some _)) =>
    if changed = id then past.map (·.change values) else past
  | .delete _ deleted, .ok (.deleted true) => if deleted = id then none else past
  | .deleteType typeId, .ok (.cleared _) => past.filter fun p => p.typeId != typeId
  | _, _ => past

end EntryPast

/-- The calls of a run that starts in a world, with their answers. -/
def entryLog (w : World) : List EntryStep → List (EntryCall × Outcome EntryAnswer)
  | [] => []
  | .call c :: rest => (c, c.outcome w) :: entryLog (c.next w) rest
  | .elsewhere other issued :: rest =>
    entryLog ((EntryStep.elsewhere other issued).next w) rest

/-- Whether a store holds of an entry what its past says. -/
structure EntryStore.Recorded (s : EntryStore) (id : String) (past : Option EntryPast) : Prop where
  entry : (s.entries.get? id).map (fun e => (e.typeId, e.values)) =
    past.map fun p => (p.typeId, p.values)
  versions : (s.versionsOf id).map (fun v => (v.entryId, v.values)) =
    (past.elim [] EntryPast.earlier).map fun values => (id, values)

namespace EntryStore.Recorded

variable {w : World} {id : String} {past : Option EntryPast}

/-- An entry that is not stored has no past. -/
theorem past_eq_none (h : w.entries.Recorded id past)
    (hget : w.entries.entries.get? id = none) : past = none := by
  have hentry := h.entry
  simp only [hget, Option.map_none] at hentry
  exact Option.map_eq_none_iff.mp hentry.symm

theorem past_eq_some (h : w.entries.Recorded id past) {e : Entry}
    (hget : w.entries.entries.get? id = some e) :
    ∃ p, past = some p ∧ p.typeId = e.typeId ∧ p.values = e.values := by
  have hentry := h.entry
  simp only [hget, Option.map_some] at hentry
  obtain ⟨p, hp, heq⟩ := Option.map_eq_some_iff.mp hentry.symm
  simp only [Prod.mk.injEq] at heq
  exact ⟨p, hp, heq⟩

theorem create (h : w.entries.Recorded id past) (hw : w.EntriesSound) (typeId : String)
    (values : EntryValues) :
    ((EntryCall.create typeId values).next w).entries.Recorded id
      (EntryPast.after id past (.create typeId values)
        ((EntryCall.create typeId values).outcome w)) := by
  rw [EntryCall.next, EntryCall.outcome, run_create]
  split
  · exact h
  · by_cases hid : w.origin.issue.latest = id
    · -- the identifier is new, so that nothing can be kept for it yet
      subst hid
      have hnil := EntryStore.versionsOf_eq_nil hw.sound hw.has_latest
      constructor
      · simp [EntryStore.get?_add, World.newEntry, EntryPast.after]
      · simp [World.newEntry, EntryPast.after, hnil]
    · have hne : ¬id = w.origin.issue.latest := fun heq => hid heq.symm
      constructor
      · simpa [EntryStore.get?_add, World.newEntry, EntryPast.after, hid, hne] using h.entry
      · simpa [World.newEntry, EntryPast.after, hid] using h.versions

theorem update (h : w.entries.Recorded id past) (typeId changed : String) (values : EntryValues) :
    ((EntryCall.update typeId changed values).next w).entries.Recorded id
      (EntryPast.after id past (.update typeId changed values)
        ((EntryCall.update typeId changed values).outcome w)) := by
  rw [EntryCall.next, EntryCall.outcome]
  cases hfind : w.entries.find? typeId changed with
  | none =>
    rw [run_update_of_find?_eq_none values hfind]
    exact h
  | some e =>
    rw [run_update values hfind]
    split
    · exact h
    · by_cases hid : changed = id
      · subst hid
        obtain ⟨hget, htype⟩ := EntryStore.find?_eq_some_iff.mp hfind
        obtain ⟨p, rfl, hptype, hpvalues⟩ := h.past_eq_some hget
        -- the version that is added holds the values that the past has for the entry
        constructor
        · simp [EntryStore.get?_replace, World.changedEntry, EntryPast.after, EntryPast.change,
            hptype]
        · simpa [EntryStore.versionsOf_replace, World.newVersion, EntryPast.after,
            EntryPast.change, hpvalues] using h.versions
      · have hne : ¬id = changed := fun heq => hid heq.symm
        constructor
        · simpa [EntryStore.get?_replace, EntryPast.after, hid, hne] using h.entry
        · simpa [EntryStore.versionsOf_replace, EntryPast.after, hid, hne] using h.versions

theorem delete (h : w.entries.Recorded id past) (typeId deleted : String) :
    ((EntryCall.delete typeId deleted).next w).entries.Recorded id
      (EntryPast.after id past (.delete typeId deleted)
        ((EntryCall.delete typeId deleted).outcome w)) := by
  rw [EntryCall.next, EntryCall.outcome, run_delete]
  cases hfind : w.entries.find? typeId deleted with
  | none => simpa [EntryStore.delete_of_find?_eq_none hfind, EntryPast.after] using h
  | some e =>
    by_cases hid : deleted = id
    · subst hid
      constructor
      · simp [EntryStore.get?_delete, EntryPast.after, find?_eq_some_iff.mp hfind]
      · simp [EntryStore.versionsOf_delete, EntryPast.after, hfind]
    · have hne : ¬id = deleted := fun heq => hid heq.symm
      constructor
      · simpa [EntryStore.get?_delete, EntryPast.after, hid, hne] using h.entry
      · simpa [EntryStore.versionsOf_delete, EntryPast.after, hid, hne] using h.versions

theorem deleteType (h : w.entries.Recorded id past) (hw : w.EntriesSound) (typeId : String) :
    ((EntryCall.deleteType typeId).next w).entries.Recorded id
      (EntryPast.after id past (.deleteType typeId)
        ((EntryCall.deleteType typeId).outcome w)) := by
  rw [EntryCall.next, EntryCall.outcome, run_deleteType]
  cases hget : w.entries.entries.get? id with
  | none =>
    have hfind : w.entries.find? typeId id = none := by simp [EntryStore.find?, hget]
    obtain rfl := h.past_eq_none hget
    constructor
    · simp [EntryStore.get?_deleteType hw.sound, hget, EntryPast.after]
    · simpa [EntryStore.versionsOf_deleteType hw.sound, hfind, EntryPast.after] using h.versions
  | some e =>
    obtain ⟨p, rfl, hptype, hpvalues⟩ := h.past_eq_some hget
    -- the past knows the type, and so whether the entry is taken out
    by_cases htype : e.typeId = typeId
    · have hfind : w.entries.find? typeId id = some e :=
        EntryStore.find?_eq_some_iff.mpr ⟨hget, htype⟩
      constructor
      · simp [EntryStore.get?_deleteType hw.sound, hget, EntryPast.after, Option.filter_some,
          hptype, htype]
      · simp [EntryStore.versionsOf_deleteType hw.sound, hfind, EntryPast.after,
          Option.filter_some, hptype, htype]
    · have hfind : w.entries.find? typeId id = none := by
        simp [EntryStore.find?, hget, Option.filter_some, htype]
      constructor
      · simp [EntryStore.get?_deleteType hw.sound, hget, EntryPast.after, Option.filter_some,
          hptype, hpvalues, htype]
      · simpa [EntryStore.versionsOf_deleteType hw.sound, hfind, EntryPast.after,
          Option.filter_some, hptype, htype] using h.versions

/-- A call keeps the record of every entry. -/
theorem call (h : w.entries.Recorded id past) (hw : w.EntriesSound) (c : EntryCall) :
    (c.next w).entries.Recorded id (EntryPast.after id past c (c.outcome w)) := by
  cases c with
  | create typeId values => exact h.create hw typeId values
  | update typeId changed values => exact h.update typeId changed values
  | delete typeId deleted => exact h.delete typeId deleted
  | deleteType typeId => exact h.deleteType hw typeId

/-- A run keeps the record of every entry. -/
theorem run (h : w.entries.Recorded id past) (hw : w.EntriesSound) (steps : List EntryStep) :
    (steps.foldl EntryStep.next w).entries.Recorded id
      ((entryLog w steps).foldl (fun past entry => EntryPast.after id past entry.1 entry.2)
        past) := by
  induction steps generalizing w past with
  | nil => exact h
  | cons step rest ih =>
    cases step with
    | call c => exact ih (h.call hw c) (hw.call c)
    | elsewhere other issued => exact ih h (hw.elsewhere other issued)

end EntryStore.Recorded

end ContentEngine
