import ContentEngine.Proofs.Value.Fault
import ContentEngine.Template

/-!
# Templates that are filled in

If each token has a text, the template is filled in with these (`Template.fill`). What a template
becomes depends on its own tokens only (`Template.render_congr`), and it can be filled in exactly
if each of them has a text (`Template.hasResult_render`).
-/

namespace ContentEngine

open Outcome (HasResult OnlyFault hasResult_bind_iff hasResult_bind_pure onlyFault_ok
  onlyFault_pure)

namespace Template

variable {ε : Type} {pieces : List TemplatePiece}

/-- A template in which each token is replaced by a text of its own. -/
def fill (token : String → String) (pieces : List TemplatePiece) : List Char :=
  pieces.flatMap fun
    | .char c => [c]
    | .token content => (token (String.ofList content)).toList

theorem render_eq_ok_fill {token : String → Except ε String} {text : String → String}
    (h : ∀ content, .token content ∈ pieces →
      token (String.ofList content) = .ok (text (String.ofList content))) :
    render token pieces = .ok (fill text pieces) := by
  induction pieces with
  | nil => rfl
  | cons piece rest ih =>
    have hrest := ih fun content hmem => h content (List.mem_cons_of_mem piece hmem)
    cases piece with
    | char c =>
      rw [render, hrest]
      rfl
    | token content =>
      rw [render, h content List.mem_cons_self, hrest]
      rfl

/-- A text without braces has no tokens. -/
theorem piecesFrom_eq_plain {text : List Char} (h : '\x7b' ∉ text) :
    piecesFrom none text = plain text := by
  induction text with
  | nil => rfl
  | cons c rest ih =>
    rw [List.mem_cons, not_or] at h
    simp only [piecesFrom, if_neg (Ne.symm h.1), ih h.2]
    rfl

theorem fill_plain (token : String → String) (text : List Char) :
    fill token (plain text) = text := by
  induction text with
  | nil => rfl
  | cons c rest ih => exact congrArg (c :: ·) ih

theorem render_congr {token token' : String → Except ε String}
    (h : ∀ content, .token content ∈ pieces →
      token (String.ofList content) = token' (String.ofList content)) :
    render token pieces = render token' pieces := by
  induction pieces with
  | nil => rfl
  | cons piece rest ih =>
    have hrest := ih fun content hmem => h content (List.mem_cons_of_mem piece hmem)
    cases piece with
    | char c => rw [render, render, hrest]
    | token content => rw [render, render, h content List.mem_cons_self, hrest]

theorem hasResult_render {token : String → Outcome String} :
    HasResult (render token pieces) ↔
      ∀ content, .token content ∈ pieces → HasResult (token (String.ofList content)) := by
  induction pieces with
  | nil => simp [render]
  | cons piece rest ih =>
    cases piece with
    | char c =>
      rw [render, hasResult_bind_pure, ih]
      simp
    | token first =>
      rw [render, hasResult_bind_iff fun _ _ => hasResult_bind_pure, ih]
      simp [or_imp, forall_and]

/-- A template can be filled in if each of its tokens can. -/
theorem exists_render {token token' : String → Outcome String} {text : List Char}
    (htoken : ∀ content text, token content = .ok text → ∃ text', token' content = .ok text')
    (h : render token pieces = .ok text) : ∃ text', render token' pieces = .ok text' := by
  refine hasResult_render.mpr fun content hmem => ?_
  obtain ⟨text, htext⟩ := hasResult_render.mp ⟨text, h⟩ content hmem
  exact htoken _ text htext

theorem onlyFault_render {token : String → Outcome String} {fault : Fault}
    (honly : ∀ content, OnlyFault fault (token content)) :
    OnlyFault fault (render token pieces) := by
  induction pieces with
  | nil => exact onlyFault_ok _ _
  | cons piece rest ih =>
    cases piece with
    | char c => exact ih.bind fun _ => onlyFault_pure _ _
    | token content => exact (honly _).bind fun _ => ih.bind fun _ => onlyFault_pure _ _

end Template

end ContentEngine
