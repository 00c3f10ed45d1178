import ContentEngine.Proofs.ContentType.Field
import ContentEngine.Proofs.World.Linked

/-!
# The fields of the world

The fields that are stored for a type have keys in their one form, and no two of them share a key.
The fields of a type are replaced together, so that this is carried by what is known of the fields
that a request describes (`FieldInput.isStrict_of_listOf`).
-/

namespace ContentEngine

namespace World

/-- Whether the fields of each type have keys in their one form, none of which is used twice. -/
def FieldsSound (w : World) : Prop :=
  ∀ id fields, w.fields.get? id = some fields → FieldInput.IsStrict (fields.map (·.input))

variable {w w' : World}

theorem FieldsSound.fieldsOf (h : w.FieldsSound) (typeId : String) :
    FieldInput.IsStrict ((w.fieldsOf typeId).map (·.input)) := by
  rw [World.fieldsOf]
  cases hget : w.fields.get? typeId with
  | none => exact FieldInput.isStrict_nil
  | some fields => exact h typeId fields hget

/-- The fields of a type may be replaced by others with such keys. -/
theorem FieldsSound.set (h : w.FieldsSound) {typeId : String} {fields : List StoredField}
    (hfields : FieldInput.IsStrict (fields.map (·.input)))
    (hset : w'.fields = w.fields.set typeId fields) : w'.FieldsSound := by
  intro id stored hget
  rw [hset, Table.get?_set] at hget
  split at hget
  · rw [← Option.some.inj hget]
    exact hfields
  · exact h id stored hget

/-- Every step keeps what is known of the fields. -/
theorem FieldsSound.ofStep (h : w.FieldsSound) (hstep : w.Step w') : w'.FieldsSound := by
  cases hstep with
  | elsewhere now issued users usersDown => exact h
  | addType _ _ =>
    have hnone : FieldInput.IsStrict (([] : List StoredField).map (·.input)) :=
      FieldInput.isStrict_nil
    exact h.set hnone rfl
  | changeType _ _ _ => exact h
  | replaceFields _ hinputs hrun =>
    obtain ⟨⟨issued, rfl⟩, hstored, -⟩ := Memory.of_run_recordFields hrun
    refine h.set ?_ rfl
    rw [hstored]
    exact FieldInput.isStrict_of_listOf hinputs
  | @removeType t _ =>
    intro id stored hget
    rw [removeType, dropType, Table.get?_erase] at hget
    split at hget
    · contradiction
    · exact h id stored hget
  | entry c _ =>
    obtain ⟨issued, entries, hnext⟩ := next_eq c w
    rw [hnext]
    exact h
  | addView _ _ _ =>
    obtain ⟨views, hsettle, -⟩ := settleDefault_eq _ _
    rw [hsettle]
    exact h
  | changeView _ _ _ =>
    obtain ⟨views, hsettle, -⟩ := settleDefault_eq _ _
    rw [hsettle]
    exact h
  | dropView _ => exact h

theorem fieldsSound_empty : World.empty.FieldsSound := by
  intro id fields hget
  contradiction

/-- The fields of every world that is reached have such keys. -/
theorem Reaches.fieldsSound (h : World.empty.Reaches w) : w.FieldsSound :=
  h.keeps FieldsSound.ofStep fieldsSound_empty

end World

end ContentEngine
