import ContentEngine.Proofs.Memory.Reads
import ContentEngine.Proofs.EntryStore.Run

/-!
# What does not depend on users

Whatever the stores in memory do, except for looking users up, they do alike whichever users are
known and whether these can be looked up at the time (`Memory.readWith_ignoresUsers` and the lemmas
about storing entries).
-/

namespace ContentEngine

/-- The world in which other users are known, who perhaps cannot be looked up. -/
def World.knowing (w : World) (users : List User) (down : Bool) : World :=
  { w with users := users, usersDown := down }

/-- Whether an action has the same outcome whatever users are known, and leaves them alone. -/
def Action.IgnoresUsers {α : Type} (x : Action World α) : Prop :=
  ∀ w users down, x.run (w.knowing users down) = ((x.run w).1, (x.run w).2.knowing users down)

namespace Action.IgnoresUsers

variable {α β : Type} {x : Action World α}

theorem bind {f : α → Action World β} (hx : IgnoresUsers x) (hf : ∀ a, IgnoresUsers (f a)) :
    IgnoresUsers (x >>= f) := by
  intro w users down
  rw [run_bind, run_bind, hx w users down]
  rcases x.run w with ⟨e | a, w'⟩
  · rfl
  · exact hf a w' users down

theorem isCompositional :
    IsCompositional fun (α : Type) (x : Action World α) => IgnoresUsers x where
  pure _ _ _ _ := rfl
  throw _ _ _ _ := rfl
  lift x w users down := by rw [run_lift, run_lift]
  bind := bind

end Action.IgnoresUsers

namespace Memory

open Action (IgnoresUsers)

theorem ignoresUsers_getFields (name : String) : IgnoresUsers (getFields name) := by
  intro w users down
  have hfind : (w.knowing users down).findType? name = w.findType? name := rfl
  have hrefused (w : World) (h : w.findType? name = none) :
      (getFields name).run w = (.error (noSuchType (.str name)), w) := by
    rw [getFields, Action.run_bind, run_requireType, h]
    rfl
  cases h : w.findType? name with
  | none => rw [hrefused w h, hrefused _ (hfind.trans h)]
  | some t =>
    rw [run_getFields h, run_getFields (hfind.trans h)]
    rfl

theorem ignoresUsers_entryNamed (typeId : String) (name : Value) :
    IgnoresUsers ( getEntry? typeId name) := by
  intro w users down
  rw [run_entryNamed, run_entryNamed]
  rfl

/-- Nothing that is read depends on users, except for users themselves. -/
theorem readWith_ignoresUsers :
    stores.ReadWith fun (α : Type) (x : Action World α) => IgnoresUsers x where
  findType slug w users down := by
    have hrun (w : World) : (stores.findType slug).run w =
        (.ok ((w.findType? slug).map ContentType.toObj), w) := run_getType?_without slug w
    rw [hrun, hrun]
    rfl
  fieldsOf := ignoresUsers_getFields
  listEntries _ _ _ _ := rfl
  getEntry typeId name := (ignoresUsers_entryNamed typeId name).bind fun _ _ _ _ => rfl
  versionsOf _ _ _ _ := rfl
  listViews _ _ _ _ := rfl

/-! ### Storing entries -/

theorem ignoresUsers_createEntry (typeId : String) (values : EntryValues) :
    IgnoresUsers (stores.createEntry typeId values) := by
  refine IgnoresUsers.bind (fun w users down => ?_) fun _ _ _ _ => rfl
  have htaken : (w.knowing users down).entries.slugTaken typeId values.slug none =
      w.entries.slugTaken typeId values.slug none := rfl
  cases h : w.entries.slugTaken typeId values.slug none with
  | true => simp [createEntry, htaken, h]
  | false =>
    simp only [createEntry, Action.run_bind, Action.run_get, htaken, h]
    rfl

theorem ignoresUsers_updateEntry (typeId id : String) (values : EntryValues) :
    IgnoresUsers (stores.updateEntry typeId id values) := by
  refine IgnoresUsers.bind (fun w users down => ?_) fun _ _ _ _ => rfl
  have hfind : (w.knowing users down).entries.find? typeId id = w.entries.find? typeId id := rfl
  have htaken : (w.knowing users down).entries.slugTaken typeId values.slug (some id) =
      w.entries.slugTaken typeId values.slug (some id) := rfl
  cases hfound : w.entries.find? typeId id with
  | none => simp [ updateEntry?, hfind, hfound]
  | some e =>
    cases h : w.entries.slugTaken typeId values.slug (some id) with
    | true => simp [ updateEntry?, hfind, hfound, htaken, h]
    | false =>
      simp only [ updateEntry?, Action.run_bind, Action.run_get, hfind, hfound, htaken, h]
      rfl

theorem ignoresUsers_deleteEntry (typeId id : String) :
    IgnoresUsers (stores.deleteEntry typeId id) := fun _ _ _ => rfl

end Memory

end ContentEngine
