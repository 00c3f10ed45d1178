import ContentEngine.Proofs.Memory.Reads
import ContentEngine.Service.Entries

/-!
# Reading through the service

Over stores whose reading leaves them as they are, the service only reads when it looks for a type
or an entry, when it resolves entries, when it lists options, and also when it prepares the values
of an entry that is to be written. Apart from resolving, none of this looks at users, so a property
that goes over from parts to the whole holds of it as soon as it holds of reading everything else
from the stores.
-/

namespace ContentEngine

namespace Service

open Action (IsReadOnly IsCompositional isCompositional_isReadOnly)

variable {σ : Type} {s : Stores σ}

/-! ### What the service does without users -/

section Compositional

variable {P : ∀ α : Type, Action σ α → Prop} (hP : IsCompositional P) (h : s.ReadWith P)
include hP h

theorem contentType_with (slug : String) : P _ (contentType s slug) := by
  refine hP.bind (h.findType slug) fun found => ?_
  cases found with
  | none => exact hP.throw _
  | some t => exact hP.pure t

theorem requireEntry_with (typeId : String) (name : Value) : P _ (requireEntry s typeId name) := by
  refine hP.bind (h.getEntry typeId name) fun found => ?_
  cases found with
  | none => exact hP.throw _
  | some entry => exact hP.pure entry

theorem listVersions_with (slug : String) (name : Value) : P _ (listVersions s slug name) :=
  hP.bind (contentType_with hP h slug) fun _ => hP.bind (requireEntry_with hP h _ name) fun _ =>
    h.versionsOf _

/-- The values of an entry are prepared by reading the fields and the views of its type. -/
theorem prepareWith_with (mail : Format.MailReader) (typeId : String) (request role : Value) :
    P _ (prepareWith mail s typeId request role) := by
  rw [prepareWith]
  split
  · exact hP.throw _
  · exact hP.bind (hP.lift _) fun _ => hP.bind (hP.lift _) fun _ =>
      hP.bind (h.fieldsOf typeId) fun _ => hP.bind (hP.lift _) fun _ =>
      hP.bind (h.listViews typeId) fun _ => hP.bind (hP.lift _) fun _ =>
      hP.bind (hP.lift _) fun _ => hP.pure _

/-! ### Options -/

theorem entryOptions_with (slug : String) : P _ (entryOptions s slug) := by
  refine hP.bind (h.findType slug) fun found => ?_
  cases found with
  | none => exact hP.pure _
  | some t => exact hP.bind (h.listEntries _) fun _ => hP.lift _

theorem sourcedOptions_with (slug : String) (field : Value) : P _ (sourcedOptions s slug field) := by
  refine hP.bind (h.findType slug) fun found => ?_
  cases found with
  | none => exact hP.bind (hP.pure _) fun _ => hP.bind (hP.lift _) fun _ => hP.pure _
  | some t => exact hP.bind (h.listEntries _) fun _ => hP.bind (hP.lift _) fun _ => hP.pure _

theorem relationOptions_with (field : Value) : P _ (relationOptions s field) := by
  refine hP.bind (hP.lift _) fun target => ?_
  -- with or without a target, what is done with the type that is found is the same
  rcases target with _ | slug <;> refine hP.bind ?_ fun found => ?_
  · exact hP.pure _
  rotate_left
  · exact h.findType slug
  all_goals
    cases found with
    | none => exact hP.pure _
    | some t =>
      exact hP.bind (entryOptions_with hP h _) fun _ => hP.bind (h.fieldsOf _) fun _ =>
        hP.bind (hP.lift _) fun _ => hP.pure _

theorem fieldOptions_with (field : Value) : P _ (fieldOptions s field) := by
  refine hP.bind (hP.lift _) fun source => ?_
  cases source with
  | none =>
    dsimp only
    split
    · exact relationOptions_with hP h field
    · exact hP.pure _
  | some slug => exact sourcedOptions_with hP h slug field

theorem options_with (slug : String) (field : Value) : P _ (options s slug field) := by
  refine hP.bind (contentType_with hP h slug) fun t => ?_
  split
  · exact hP.bind (entryOptions_with hP h slug) fun _ => hP.pure _
  · refine hP.bind (hP.lift _) fun key => hP.bind (h.fieldsOf _) fun fields => ?_
    cases fields.find? fun f => f.definition.key == key with
    | none => exact hP.throw _
    | some f => exact fieldOptions_with hP h _

end Compositional

/-! ### Resolving -/

/-- Users are looked up without leaving a trace, also if that fails. -/
theorem isReadOnly_lookUpUsers (h : s.IsReading) (ids : List String) :
    IsReadOnly (lookUpUsers s ids) := by
  rw [lookUpUsers]
  split
  · exact .pure _
  · exact ((h.getUsers ids).bind fun _ => .lift _).tryCatch fun _ => .pure _

theorem isReadOnly_userContext (h : s.IsReading) (typeId : String) (entries : List Obj) :
    IsReadOnly (userContext s typeId entries) := by
  rw [userContext]
  split
  · exact .pure _
  · exact (h.fieldsOf typeId).bind fun _ => (IsReadOnly.lift _).bind fun _ =>
      (isReadOnly_lookUpUsers h _).bind fun _ => .pure _

theorem isReadOnly_resolve (h : s.IsReading) (typeId : String) (entries : List Obj) :
    IsReadOnly (resolve s typeId entries) :=
  (isReadOnly_userContext h typeId entries).bind fun _ => .pure _

theorem isReadOnly_resolveOne (h : s.IsReading) (typeId : String) (entry : Obj) :
    IsReadOnly (resolveOne s typeId entry) :=
  (isReadOnly_userContext h typeId [entry]).bind fun _ => .pure _

/-! ### Requests that only read -/

theorem isReadOnly_contentType (h : s.IsReading) (slug : String) :
    IsReadOnly (contentType s slug) :=
  contentType_with isCompositional_isReadOnly h.toReadWith slug

theorem isReadOnly_requireEntry (h : s.IsReading) (typeId : String) (name : Value) :
    IsReadOnly (requireEntry s typeId name) :=
  requireEntry_with isCompositional_isReadOnly h.toReadWith typeId name

theorem isReadOnly_listEntries (h : s.IsReading) (slug : String) (withDisplay : Bool) :
    IsReadOnly (listEntries s slug withDisplay) := by
  refine (isReadOnly_contentType h slug).bind fun t => (h.listEntries _).bind fun entries =>
    (isReadOnly_resolve h _ entries).bind fun resolved => ?_
  split
  · exact (h.fieldsOf _).bind fun _ => .lift _
  · exact .pure _

theorem isReadOnly_options (h : s.IsReading) (slug : String) (field : Value) :
    IsReadOnly (options s slug field) :=
  options_with isCompositional_isReadOnly h.toReadWith slug field

theorem isReadOnly_getEntry (h : s.IsReading) (slug : String) (name : Value) :
    IsReadOnly (getEntry s slug name) :=
  (isReadOnly_contentType h slug).bind fun _ => (isReadOnly_requireEntry h _ name).bind fun entry =>
    isReadOnly_resolveOne h _ entry

theorem isReadOnly_listVersions (h : s.IsReading) (slug : String) (name : Value) :
    IsReadOnly (listVersions s slug name) :=
  listVersions_with isCompositional_isReadOnly h.toReadWith slug name

theorem isReadOnly_prepareWith (h : s.IsReading) (mail : Format.MailReader) (typeId : String)
    (request role : Value) : IsReadOnly (prepareWith mail s typeId request role) :=
  prepareWith_with isCompositional_isReadOnly h.toReadWith mail typeId request role

end Service

end ContentEngine
