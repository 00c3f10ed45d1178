import ContentEngine.Memory.Stores
import ContentEngine.Proofs.Action

/-!
# Reading the stores in memory

What is read of the world, without changing it. A type that is named must be there, and is found
under its identifier again; everything that belongs to it is read under that identifier.
-/

namespace ContentEngine

namespace Memory

open Action (IsReadOnly)

/-! ### Types and fields -/

/-- The type that a name finds, or the refusal of a name that finds none. -/
theorem run_requireType (name : String) (w : World) :
    (requireType name).run w =
      ((w.findType? name).elim (.error (noSuchType (.str name))) .ok, w) := by
  rw [requireType, Action.run_bind, Action.run_get]
  dsimp only
  cases w.findType? name <;> rfl

theorem run_requireType_of_some {name : String} {w : World} {t : ContentType}
    (h : w.findType? name = some t) : (requireType name).run w = (.ok t, w) := by
  rw [run_requireType, h, Option.elim_some]

theorem findType?_of_run_requireType {name : String} {w w' : World} {t : ContentType}
    (h : (requireType name).run w = (.ok t, w')) : w.findType? name = some t ∧ w' = w := by
  rw [run_requireType, Prod.mk.injEq] at h
  obtain ⟨hfound, rfl⟩ := h
  cases hfind : w.findType? name with
  | none => simp [hfind] at hfound
  | some u =>
    rw [hfind, Option.elim_some, Except.ok.injEq] at hfound
    exact ⟨congrArg some hfound, rfl⟩

/-- The fields of a type that is there, in their strict form. -/
theorem run_getFields {name : String} {w : World} {t : ContentType}
    (h : w.findType? name = some t) :
    (getFields name).run w =
      (PresentedField.listOf ((w.fieldsOf t.id).map StoredField.toObj), w) := by
  rw [getFields, Action.run_bind, run_requireType_of_some h]
  simp only [Action.run_bind, Action.run_get, Action.run_lift]

theorem isReadOnly_requireType (name : String) : IsReadOnly (requireType name) := fun w => by
  rw [run_requireType]

theorem isReadOnly_getFields (name : String) : IsReadOnly (getFields name) :=
  (isReadOnly_requireType name).bind fun _ => IsReadOnly.get.bind fun _ => .lift _

theorem run_getType?_without (name : String) (w : World) :
    (getType? name false).run w = (.ok ((w.findType? name).map ContentType.toObj), w) := by
  rw [getType?, Action.run_bind, Action.run_get]
  dsimp only
  cases w.findType? name <;> rfl

theorem isReadOnly_getType? (name : String) (withFields : Bool) :
    IsReadOnly (getType? name withFields) := by
  refine IsReadOnly.get.bind fun w => ?_
  cases w.findType? name with
  | none => exact .pure _
  | some t =>
    cases withFields with
    | false => exact .pure _
    | true => exact (isReadOnly_getFields t.id).bind fun _ => .pure _

theorem isReadOnly_listTypes (kind : Value) : IsReadOnly (listTypes kind) :=
  IsReadOnly.get.bind fun _ => .pure _

/-! ### What belongs to a type -/

theorem isReadOnly_listViews (typeId : String) : IsReadOnly (listViews typeId) := fun _ => rfl

theorem run_getView? (typeId id : String) (w : World) :
    (getView? typeId id).run w = (.ok (w.viewWithId? typeId id), w) := rfl

/-- The entry that a name finds among those of a type. -/
def entryNamed? (w : World) (typeId : String) (name : Value) : Option Entry :=
  match name.identifierText? with
  | some id => (w.entries.ofType typeId).find? fun e => e.id == lowerText id
  | none => (w.entries.ofType typeId).find? fun e => name.isText e.values.slug

theorem run_entryNamed (typeId : String) (name : Value) (w : World) :
    Action.run ( getEntry? typeId name) w = (.ok (entryNamed? w typeId name), w) := by
  unfold getEntry?
  rw [Action.run_bind, Action.run_get, entryNamed?]
  dsimp only
  cases name.identifierText? <;> rfl

theorem mem_of_entryNamed? {w : World} {typeId : String} {name : Value} {e : Entry}
    (h : entryNamed? w typeId name = some e) : e ∈ w.entries.ofType typeId := by
  rw [entryNamed?] at h
  split at h <;> exact List.mem_of_find?_eq_some h

/-! ### The stores -/

end Memory

/-- Whether reading from some stores, except for users, has a property. -/
structure Stores.ReadWith {σ : Type} (P : ∀ α : Type, Action σ α → Prop) (s : Stores σ) : Prop where
  findType : ∀ slug, P _ (s.findType slug)
  fieldsOf : ∀ typeId, P _ (s.fieldsOf typeId)
  listEntries : ∀ typeId, P _ (s.listEntries typeId)
  getEntry : ∀ typeId name, P _ (s.getEntry typeId name)
  versionsOf : ∀ id, P _ (s.versionsOf id)
  listViews : ∀ typeId, P _ (s.listViews typeId)

/-- Whether reading from some stores leaves them as they are. -/
structure Stores.IsReading {σ : Type} (s : Stores σ) : Prop
    extends s.ReadWith fun (α : Type) (x : Action σ α) => x.IsReadOnly where
  getUsers : ∀ ids, (s.getUsers ids).IsReadOnly

theorem Memory.isReading_stores : Memory.stores.IsReading where
  findType slug := isReadOnly_getType? slug false
  fieldsOf := isReadOnly_getFields
  listEntries _ _ := rfl
  getEntry typeId name :=
    Action.IsReadOnly.bind (fun w => by rw [run_entryNamed]) fun _ => .pure _
  versionsOf _ _ := rfl
  listViews _ _ := rfl
  getUsers ids := by
    refine Action.IsReadOnly.bind (Action.IsReadOnly.get.bind fun w => ?_) fun _ => .pure _
    split
    · exact .throw _
    · exact .pure _

end ContentEngine
