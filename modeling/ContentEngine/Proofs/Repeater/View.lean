import ContentEngine.Proofs.Repeater.Prune
import ContentEngine.Repeater.View

/-!
# What is shown of rows

The views of rows and cells stand in the order of the rows and subfields (`forall₂_of_viewRows`,
`forall₂_of_viewCells`). A cell that is not inert shows what the aligned row holds under its key,
unless a rule hides it (`value?_of_viewCell`).
-/

namespace ContentEngine

/-- The value that a cell shows, if it shows one. -/
def CellView.value? : CellView → Option Value
  | .inert _ _ => none
  | .hidden _ _ => none
  | .plain _ _ value => some value
  | .nested _ value _ _ => some value

namespace Repeater

variable {r : Repeater} {depth : Depth} {row : Obj} {shown : VisibilityMap} {s : Subfield}

/-- What the cell of a subfield is: inert, hidden, plain, or with the view of a nested repeater. -/
theorem viewCell_cases {cell : CellView} (h : viewCell r depth row shown s = .ok cell) :
    (r.isInert depth.level s = true ∧ cell = .inert s.key depth) ∨
    (r.isInert depth.level s = false ∧ cell = .hidden s.key s.type) ∨
    (r.isInert depth.level s = false ∧ s.isRepeater = false ∧
      cell = .plain s.key s.type (Obj.get row s.key)) ∨
    (r.isInert depth.level s = false ∧ s.isRepeater = true ∧
      ∃ nested, view (s.config.orElse (.obj [])) (Obj.get row s.key) depth.next = .ok nested ∧
        cell = .nested s.key (Obj.get row s.key) nested.head nested.rows) := by
  rw [viewCell] at h
  split at h
  · next hinert => exact .inl ⟨hinert, (Except.ok.inj h).symm⟩
  · next hinert =>
    have hinert : r.isInert depth.level s = false := by simpa using hinert
    split at h
    · exact .inr (.inl ⟨hinert, (Except.ok.inj h).symm⟩)
    · split at h
      · next hrepeater =>
        simp only [Outcome.bind_eq_ok_iff, Outcome.pure_eq_ok_iff] at h
        obtain ⟨nested, hnested, rfl⟩ := h
        exact .inr (.inr (.inr ⟨hinert, hrepeater, nested, hnested, rfl⟩))
      · next hplain =>
        have hplain : s.isRepeater = false := by simpa using hplain
        exact .inr (.inr (.inl ⟨hinert, hplain, (Except.ok.inj h).symm⟩))

theorem view_eq_ok_iff {source value : Value} {shown : RepeaterView} :
    view source value depth = .ok shown ↔
      ∃ config rows, configOf source = .ok config ∧
        viewRows (ofConfig config) depth 0 (rowsOf value) = .ok rows ∧
        shown = ⟨headOf config depth (rowsOf value).length, rows⟩ := by
  simp only [view, Outcome.bind_eq_ok_iff, Outcome.pure_eq_ok_iff]
  constructor
  · rintro ⟨config, hconfig, rows, hrows, rfl⟩
    exact ⟨config, rows, hconfig, hrows, rfl⟩
  · rintro ⟨config, rows, hconfig, hrows, rfl⟩
    exact ⟨config, hconfig, rows, hrows, rfl⟩

theorem value?_of_viewCell {cell : CellView} (hinert : r.isInert depth.level s = false)
    (h : viewCell r depth row shown s = .ok cell) :
    cell.value? =
      if (shown.get? s.key).getD true = true then some (Obj.get row s.key) else none := by
  rw [viewCell, if_neg (by rw [hinert]; decide)] at h
  cases hshown : (shown.get? s.key).getD true with
  | false =>
    rw [if_pos (by rw [hshown]; rfl), Except.ok.injEq] at h
    rw [← h, if_neg (by decide)]
    rfl
  | true =>
    rw [if_neg (by rw [hshown]; decide)] at h
    rw [if_pos rfl]
    -- nested or plain, what is shown is the value of the row
    split at h
    · simp only [Outcome.bind_eq_ok_iff, Outcome.pure_eq_ok_iff] at h
      obtain ⟨nested, -, rfl⟩ := h
      rfl
    · rw [Except.ok.injEq] at h
      rw [← h]
      rfl

theorem forall₂_of_viewCells {subfields : List Subfield} {cells : List CellView}
    (h : viewCells r depth row shown subfields = .ok cells) :
    List.Forall₂ (fun s cell => viewCell r depth row shown s = .ok cell) subfields cells := by
  induction subfields generalizing cells with
  | nil =>
    rw [viewCells, Except.ok.injEq] at h
    subst h
    exact .nil
  | cons s rest ih =>
    simp only [viewCells, Outcome.bind_eq_ok_iff, Outcome.pure_eq_ok_iff] at h
    obtain ⟨cell, hcell, others, hothers, rfl⟩ := h
    exact .cons hcell (ih hothers)

theorem forall₂_of_viewRows {index : Nat} {rows : List Obj} {views : List RowView}
    (h : viewRows r depth index rows = .ok views) :
    List.Forall₂ (fun given view => ∃ index label cells shown,
        view = .row index label cells ∧
        r.visibility (alignRow r.subfields given) = .ok shown ∧
        viewCells r depth (alignRow r.subfields given) shown r.subfields = .ok cells)
      rows views := by
  induction rows generalizing index views with
  | nil =>
    rw [viewRows, Except.ok.injEq] at h
    subst h
    exact .nil
  | cons given rest ih =>
    simp only [viewRows, Outcome.bind_eq_ok_iff, Outcome.pure_eq_ok_iff] at h
    obtain ⟨shown, hshown, cells, hcells, label, -, others, hothers, rfl⟩ := h
    exact .cons ⟨index, label, cells, shown, rfl, hshown, hcells⟩ (ih hothers)

end Repeater

end ContentEngine
