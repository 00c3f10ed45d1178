import Mathlib.Data.List.Basic
import ContentEngine.Text.Search

/-!
# Cutting a text at a character

A text is cut at the first occurrence of a separator exactly if it has the form `before`,
separator, `after` with no separator in `before`; for the last occurrence there is none in `after`.
Either there is such a form, or the separator does not occur. A text that is split at all
occurrences of a separator has `before` as its first part. Nothing is replaced in a text that lacks
some character of the pattern.
-/

namespace ContentEngine

variable {separator : Char} {text before after : List Char}

theorem cutAtFirst_of_not_mem (h : separator ∉ text) :
    cutAtFirst separator text = (text, none) := by
  induction text with
  | nil => rfl
  | cons c rest ih =>
    rw [List.mem_cons, not_or] at h
    rw [cutAtFirst, if_neg (Ne.symm h.1), ih h.2]

theorem cutAtFirst_append (h : separator ∉ before) (after : List Char) :
    cutAtFirst separator (before ++ separator :: after) = (before, some after) := by
  induction before with
  | nil => simp [cutAtFirst]
  | cons c rest ih =>
    rw [List.mem_cons, not_or] at h
    rw [List.cons_append, cutAtFirst, if_neg (Ne.symm h.1), ih h.2]

/-- A text has no separator, or a first one. -/
theorem not_mem_or_exists_first (separator : Char) (text : List Char) :
    separator ∉ text ∨
      ∃ before after, separator ∉ before ∧ text = before ++ separator :: after := by
  by_cases h : separator ∈ text
  · obtain ⟨before, after, rfl, hnot⟩ := List.eq_append_cons_of_mem h
    exact .inr ⟨before, after, hnot, rfl⟩
  · exact .inl h

theorem cutAtLast?_of_not_mem (h : separator ∉ text) : cutAtLast? separator text = none := by
  rw [cutAtLast?, cutAtFirst_of_not_mem (by simpa using h)]

theorem cutAtLast?_append (before : List Char) (h : separator ∉ after) :
    cutAtLast? separator (before ++ separator :: after) = some (before, after) := by
  have hreverse : (before ++ separator :: after).reverse =
      after.reverse ++ separator :: before.reverse := by simp
  rw [cutAtLast?, hreverse, cutAtFirst_append (by simpa using h)]
  simp

/-- A text has no separator, or a last one. -/
theorem not_mem_or_exists_last (separator : Char) (text : List Char) :
    separator ∉ text ∨ ∃ before after, separator ∉ after ∧ text = before ++ separator :: after := by
  rcases not_mem_or_exists_first separator text.reverse with h | ⟨after, before, hnot, hreverse⟩
  · exact .inl (by simpa using h)
  · refine .inr ⟨before.reverse, after.reverse, by simpa using hnot, ?_⟩
    rw [← List.reverse_inj, hreverse]
    simp

/-! ### Parts between separators -/

theorem splitAtChar_ne_nil (separator : Char) (text : List Char) :
    splitAtChar separator text ≠ [] := by
  cases text with
  | nil => simp [splitAtChar]
  | cons c rest =>
    rw [splitAtChar]
    split
    · simp
    · split <;> simp

/-- What stands before the first separator is the first part. -/
theorem splitAtChar_append (h : separator ∉ before) (after : List Char) :
    splitAtChar separator (before ++ separator :: after) =
      before :: splitAtChar separator after := by
  induction before with
  | nil =>
    obtain ⟨part, parts, hafter⟩ := List.exists_cons_of_ne_nil (splitAtChar_ne_nil separator after)
    rw [List.nil_append, splitAtChar, hafter]
    simp
  | cons c rest ih =>
    rw [List.mem_cons, not_or] at h
    rw [List.cons_append, splitAtChar, ih h.2]
    simp [Ne.symm h.1]

/-- A text without separators is one part. -/
theorem splitAtChar_of_not_mem (h : separator ∉ text) : splitAtChar separator text = [text] := by
  induction text with
  | nil => rfl
  | cons c rest ih =>
    rw [List.mem_cons, not_or] at h
    rw [splitAtChar, ih h.2]
    simp [Ne.symm h.1]

/-! ### Replacing -/

/-- A pattern does not occur in a text that lacks one of its characters. -/
theorem replaceAll_of_not_mem {pattern : List Char} {c : Char} (hc : c ∈ pattern)
    (h : c ∉ text) (replacement : List Char) : replaceAll pattern replacement text = text := by
  rw [replaceAll]
  induction text with
  | nil => rfl
  | cons d rest ih =>
    have hprefix : ¬pattern.isPrefixOf (d :: rest) = true := fun hprefix =>
      h ((List.isPrefixOf_iff_prefix.mp hprefix).subset hc)
    rw [replaceFrom, if_neg hprefix, ih fun hrest => h (List.mem_cons_of_mem d hrest)]

end ContentEngine
