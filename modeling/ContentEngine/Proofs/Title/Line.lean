import ContentEngine.Proofs.Json.Canonical
import ContentEngine.Proofs.Json.Text
import ContentEngine.Proofs.Number.Range
import ContentEngine.Proofs.Value.Fault
import ContentEngine.Title

/-!
# Values on one line

A value that has a text can be shown on one line (`Value.hasResult_inlineText`). A double that is an
integer is written as one, and it has few enough digits for that; an object that is no name and that
JSON cannot hold is shown as a literal. Where a value in it has no text, that is the only fault that
there can be (`Value.onlyFault_inlineText`).
-/

namespace ContentEngine

open Outcome (HasResult hasResult_bind_iff hasResult_bind_pure hasResult_ok hasResult_pure OnlyFault
  onlyFault_ok onlyFault_pure)

namespace Value

theorem isShort_of_integerOfFloat? {x : Float} {n : Int} (h : integerOfFloat? x = some n) :
    (int n).IsShort :=
  (length_digitText_of_integerOfFloat? h).trans (by decide)

theorem hasResult_scalarLine {v : Value} (h : v.HasText) : HasResult (scalarLine v) := by
  cases v with
  | null | bool b => exact hasResult_ok _
  | float x =>
    rw [scalarLine]
    split
    · next n hn => exact hasResult_integerText.mpr (isShort_of_integerOfFloat? hn)
    · exact hasResult_ok _
  | _ => exact hasResult_text.mpr h

/-- What is left out of a name has a text. -/
theorem hasText_of_isVoid {v : Value} (h : v.isVoid = true) : v.HasText := by
  cases v with
  | null => exact hasText_null
  | str text => exact hasText_str text
  | _ => cases h

theorem hasResult_voidlessTexts {o : Obj} {keys : List String} :
    HasResult (voidlessTexts o keys) ↔ ∀ key ∈ keys, (Obj.get o key).HasText := by
  induction keys with
  | nil => simp [voidlessTexts]
  | cons key keys ih =>
    rw [voidlessTexts, List.forall_mem_cons, ← ih]
    split
    · next hvoid => exact (and_iff_right (hasText_of_isVoid hvoid)).symm
    · rw [← hasResult_text]
      exact hasResult_bind_iff fun _ _ => hasResult_bind_pure

/-- A name can be shown exactly if each part of it has a text. -/
theorem hasResult_nameLine {o : Obj} :
    HasResult (nameLine o) ↔ ∀ key ∈ nameParts, (Obj.get o key).HasText := by
  have hparts : (∀ key ∈ nameParts, (Obj.get o key).HasText) ↔
      (∀ key ∈ ["title", "first", "middle", "last"], (Obj.get o key).HasText) ∧
        (Obj.get o "suffix").HasText := by
    simp only [nameParts, List.forall_mem_cons]
    tauto
  rw [nameLine, hparts, ← hasResult_voidlessTexts]
  refine hasResult_bind_iff fun texts _ => ?_
  dsimp only
  split
  · next hvoid => exact iff_of_true (hasResult_pure _) (hasText_of_isVoid hvoid)
  · rw [hasResult_bind_pure, hasResult_text]

theorem hasResult_objectLine {v : Value} {o : Obj} (hv : v.HasText) (ho : (obj o).HasText) :
    HasResult (objectLine v o) := by
  rw [objectLine]
  split
  · exact hasResult_nameLine.mpr fun key _ => ho.get key
  · split
    · exact hasResult_ok _
    · exact hasResult_text.mpr hv

theorem hasResult_inlineItems {items : List Value} :
    HasResult (inlineItems items) ↔ ∀ item ∈ items, HasResult (inlineText item) := by
  induction items with
  | nil => simp [inlineItems]
  | cons item rest ih =>
    rw [inlineItems, List.forall_mem_cons, ← ih]
    exact hasResult_bind_iff fun _ _ => hasResult_bind_pure

/-- A value that has a text can be shown on one line. -/
theorem hasResult_inlineText {v : Value} (h : v.HasText) : HasResult (inlineText v) := by
  induction v using induction_parts with
  | h v ih =>
    have hparts : ∀ p ∈ v.parts, HasResult (inlineText p) := fun p hp => ih p hp (h.part hp)
    cases v with
    | list items | tuple items =>
      rw [inlineText]
      exact hasResult_bind_pure.mpr (hasResult_inlineItems.mpr hparts)
    | obj members =>
      rw [inlineText]
      exact hasResult_objectLine h h
    | table rows =>
      rw [inlineText]
      exact hasResult_objectLine h (h.asObj? rfl)
    | _ =>
      rw [inlineText]
      · exact hasResult_scalarLine h
      all_goals nofun

/-! ### Faults -/

theorem onlyFault_scalarLine (v : Value) : OnlyFault .badInteger (scalarLine v) := by
  unfold scalarLine
  split
  · exact onlyFault_ok _ _
  · exact onlyFault_ok _ _
  · split
    · exact onlyFault_integerText _
    · exact onlyFault_ok _ _
  · exact onlyFault_text v

theorem onlyFault_voidlessTexts (o : Obj) (keys : List String) :
    OnlyFault .badInteger (voidlessTexts o keys) := by
  induction keys with
  | nil => exact onlyFault_ok _ _
  | cons key keys ih =>
    rw [voidlessTexts]
    split
    · exact ih
    · exact (onlyFault_text _).bind fun _ => ih.bind fun _ => onlyFault_pure _ _

theorem onlyFault_nameLine (o : Obj) : OnlyFault .badInteger (nameLine o) := by
  refine (onlyFault_voidlessTexts o _).bind fun texts => ?_
  dsimp only
  split
  · exact onlyFault_pure _ _
  · exact (onlyFault_text _).bind fun _ => onlyFault_pure _ _

theorem onlyFault_objectLine (v : Value) (o : Obj) : OnlyFault .badInteger (objectLine v o) := by
  rw [objectLine]
  split
  · exact onlyFault_nameLine o
  · split
    · exact onlyFault_ok _ _
    · exact onlyFault_text v

theorem onlyFault_inlineItems {items : List Value}
    (h : ∀ item ∈ items, OnlyFault .badInteger (inlineText item)) :
    OnlyFault .badInteger (inlineItems items) := by
  induction items with
  | nil => exact onlyFault_ok _ _
  | cons item rest ih =>
    rw [List.forall_mem_cons] at h
    rw [inlineItems]
    exact h.1.bind fun _ => (ih h.2).bind fun _ => onlyFault_pure _ _

theorem onlyFault_inlineText (v : Value) : OnlyFault .badInteger (inlineText v) := by
  induction v using induction_parts with
  | h v ih =>
    cases v with
    | list items | tuple items =>
      rw [inlineText]
      exact (onlyFault_inlineItems ih).bind fun _ => onlyFault_pure _ _
    | obj members | table rows =>
      rw [inlineText]
      exact onlyFault_objectLine _ _
    | _ =>
      rw [inlineText]
      · exact onlyFault_scalarLine _
      all_goals nofun

end Value

end ContentEngine
