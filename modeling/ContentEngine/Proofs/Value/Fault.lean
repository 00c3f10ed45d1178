import ContentEngine.Proofs.Value.Text

/-!
# The one fault of a text

An integer with too many digits is the only thing that keeps a value from having a text, and so
there is only one fault with which writing it can fail (`Value.onlyFault_text`). What is put
together from texts fails with that fault or not at all, whichever of them is to blame.
-/

namespace ContentEngine

namespace Outcome

variable {α β : Type} {fault : Fault} {x : Outcome α} {f : α → Outcome β}

/-- Whether a computation that fails does so with one certain fault. -/
def OnlyFault (fault : Fault) (x : Outcome α) : Prop :=
  ∀ e, x = .error e → e = fault

@[simp] theorem onlyFault_ok (fault : Fault) (a : α) : OnlyFault fault (.ok a : Outcome α) :=
  nofun

@[simp] theorem onlyFault_pure (fault : Fault) (a : α) : OnlyFault fault (pure a : Outcome α) :=
  nofun

@[simp] theorem onlyFault_error (fault : Fault) : OnlyFault fault (.error fault : Outcome α) :=
  fun _ h => (Except.error.inj h).symm

theorem OnlyFault.bind (hx : OnlyFault fault x) (hf : ∀ a, OnlyFault fault (f a)) :
    OnlyFault fault (x >>= f) := by
  intro e he
  cases x with
  | error e' => exact hx e (congrArg _ (Except.error.inj he))
  | ok a => exact hf a e he

/-- Going through a list can only fail with the fault of its items. -/
theorem onlyFault_mapM {xs : List α} (h : ∀ a ∈ xs, OnlyFault fault (f a)) :
    OnlyFault fault (xs.mapM f) := by
  induction xs with
  | nil => exact onlyFault_pure _ _
  | cons first rest ih =>
    rw [List.forall_mem_cons] at h
    rw [List.mapM_cons]
    exact h.1.bind fun _ => (ih h.2).bind fun _ => onlyFault_pure _ _

/-- What can only fail with one fault has a result or fails with it. -/
theorem OnlyFault.eq_error_iff (h : OnlyFault fault x) : x = .error fault ↔ ¬HasResult x := by
  cases x with
  | error e => simp [h e rfl]
  | ok a => simp

/-- Two computations that can only fail with one fault fail alike if they fail on the same
occasions. -/
theorem OnlyFault.error_iff {y : Outcome β} (hx : OnlyFault fault x) (hy : OnlyFault fault y)
    (h : HasResult x ↔ HasResult y) (e : Fault) : x = .error e ↔ y = .error e := by
  by_cases he : e = fault
  · rw [he, hx.eq_error_iff, hy.eq_error_iff, h]
  · exact iff_of_false (mt (hx e) he) (mt (hy e) he)

/-- What fails if something is the case, and has a result otherwise, tells whether it is the
case. -/
theorem iff_of_fails {p : Prop} (hfails : p → x = .error fault) (hresult : ¬p → HasResult x) :
    (x = .error fault ↔ p) ∧ (HasResult x ↔ ¬p) := by
  by_cases hp : p
  · simp [hp, hfails hp]
  · obtain ⟨a, ha⟩ := hresult hp
    simp [hp, ha]

end Outcome

namespace Value

open Outcome (OnlyFault onlyFault_ok onlyFault_pure onlyFault_error)

theorem onlyFault_integerText (n : Int) : OnlyFault .badInteger (integerText n) := by
  rw [integerText]
  split
  · exact onlyFault_ok _ _
  · exact onlyFault_error _

theorem onlyFault_literalItems {items : List Value}
    (h : ∀ v ∈ items, OnlyFault .badInteger (literal v)) :
    OnlyFault .badInteger (literalItems items) := by
  induction items with
  | nil => exact onlyFault_ok _ _
  | cons item rest ih =>
    rw [List.forall_mem_cons] at h
    rw [literalItems]
    exact h.1.bind fun _ => (ih h.2).bind fun _ => onlyFault_pure _ _

theorem onlyFault_literalMembers {members : List (String × Value)}
    (h : ∀ v ∈ members.map (·.2), OnlyFault .badInteger (literal v)) :
    OnlyFault .badInteger (literalMembers members) := by
  induction members with
  | nil => exact onlyFault_ok _ _
  | cons member rest ih =>
    rw [List.map_cons, List.forall_mem_cons] at h
    rw [literalMembers]
    exact h.1.bind fun _ => (ih h.2).bind fun _ => onlyFault_pure _ _

theorem onlyFault_literalRows {rows : List (Value × Value)}
    (h : ∀ v ∈ rows.flatMap fun row => [row.1, row.2], OnlyFault .badInteger (literal v)) :
    OnlyFault .badInteger (literalRows rows) := by
  induction rows with
  | nil => exact onlyFault_ok _ _
  | cons row rest ih =>
    rw [List.flatMap_cons, List.forall_mem_append, List.forall_mem_cons,
      List.forall_mem_singleton] at h
    rw [literalRows]
    exact h.1.1.bind fun _ => h.1.2.bind fun _ => (ih h.2).bind fun _ => onlyFault_pure _ _

theorem onlyFault_literal (v : Value) : OnlyFault .badInteger (literal v) := by
  induction v using induction_parts with
  | h v ih =>
    cases v with
    | int n => exact onlyFault_integerText n
    | list items => exact (onlyFault_literalItems ih).bind fun _ => onlyFault_pure _ _
    | obj members => exact (onlyFault_literalMembers ih).bind fun _ => onlyFault_pure _ _
    | table rows => exact (onlyFault_literalRows ih).bind fun _ => onlyFault_pure _ _
    | tuple items | set items =>
      refine (onlyFault_literalItems ih).bind fun texts => ?_
      split <;> exact onlyFault_pure _ _
    | _ => exact onlyFault_ok _ _

theorem onlyFault_text (v : Value) : OnlyFault .badInteger v.text := by
  cases v with
  | str _ | identifier _ | moment _ | day _ | decimal _ => exact onlyFault_ok _ _
  | _ => exact onlyFault_literal _

theorem onlyFault_presentText (v : Value) : OnlyFault .badInteger v.presentText := by
  rw [presentText]
  split
  · exact onlyFault_text v
  · exact onlyFault_ok _ _

end Value

end ContentEngine
