import ContentEngine.Proofs.Key
import ContentEngine.Proofs.Members
import ContentEngine.Proofs.Template
import ContentEngine.Title

/-!
# Titles and slugs that are given again

The title and the slug under which an entry is stored have no blanks at their ends, and a title that
is derived from a template is derived again from the same data. So an entry that is stored again
under its own title and slug keeps them (`titleAndSlug_self`). If its data has changed in texts
only, it can still be stored, and keeps its slug (`exists_titleAndSlug`).
-/

namespace ContentEngine

/-- Whether a text is made of small letters, digits and dashes, as slugs and identifiers are. -/
def IsSlugText (text : String) : Prop :=
  ∀ c ∈ text.toList, isWordChar c = true ∨ c = '-'

theorem isSlugText_slugify (text : String) : IsSlugText (slugify text) := by
  intro c hc
  rw [slugify, slugOf, String.toList_ofList] at hc
  exact isWordChar_of_mem_joinWords hc

namespace IsSlugText

variable {text : String}

theorem not_mem (h : IsSlugText text) {c : Char} (hword : isWordChar c = false) (hdash : c ≠ '-') :
    c ∉ text.toList := by
  intro hc
  rcases h c hc with hc | hc
  · rw [hword] at hc
    cases hc
  · exact hdash hc

/-- The characters of a slug are no blanks. -/
theorem trim_eq (h : IsSlugText text) : trim text = text := by
  have hchars : ∀ c ∈ text.toList, isBlank c = false := by
    intro c hc
    rcases h c hc with hword | rfl
    · exact (keyChar_spec (.inl hword)).1
    · decide
  have hsame : trimBy isBlank text.toList = text.toList :=
    trimBy_eq_self (fun c hc => hchars c (List.mem_of_mem_head? hc)) fun c hc =>
      hchars c (List.mem_of_getLast? hc)
  rw [trim, hsame, String.ofList_toList]

/-- A slug is in lower case. -/
theorem lowerText_eq (h : IsSlugText text) : lowerText text = text := by
  have hlower : IsLower text.toList := by
    intro c hc
    rcases h c hc with hword | rfl
    · exact (keyChar_spec (.inl hword)).2.2
    · decide +kernel
  rw [lowerText, hlower.lower_eq, String.ofList_toList]

end IsSlugText

namespace Value

theorem trimmedText_str (text : String) : (Value.str text).trimmedText = trim text := rfl

theorem trimmedText_trimmedText (v : Value) :
    (Value.str v.trimmedText).trimmedText = v.trimmedText :=
  trim_trim _

end Value

variable {core : Obj} {title slug data chosen : Value}

/-- The title that is chosen when the chosen one is typed in is the same. -/
theorem chosenTitle_self (h : chosenTitle core title data = .ok chosen) :
    ∃ again, chosenTitle core (.str chosen.trimmedText) data = .ok again ∧
      again.trimmedText = chosen.trimmedText := by
  rw [chosenTitle, Outcome.bind_eq_ok_iff] at h
  obtain ⟨templated, htemplated, h⟩ := h
  rw [chosenTitle, htemplated, Outcome.ok_bind]
  cases templated with
  | false =>
    rw [if_neg Bool.false_ne_true, Outcome.pure_eq_ok_iff] at h
    subst h
    exact ⟨_, rfl, Value.trimmedText_trimmedText title⟩
  | true =>
    rw [if_pos rfl, Outcome.bind_eq_ok_iff] at h
    obtain ⟨derived, hderived, h⟩ := h
    rw [Outcome.pure_eq_ok_iff] at h
    rw [if_pos rfl, hderived, Outcome.ok_bind]
    refine ⟨_, rfl, ?_⟩
    subst h
    -- the template gives what it gave before, or nothing again
    split
    · exact Value.trimmedText_trimmedText title
    · rfl

theorem titleAndSlug_eq_ok_iff {t s : String} :
    titleAndSlug core title slug data = .ok (t, s) ↔
      ∃ chosen, chosenTitle core title data = .ok chosen ∧ t = chosen.trimmedText ∧ t ≠ "" ∧
        s = (if slug.trimmedText = "" then slugify t else slug.trimmedText) ∧ s ≠ "" := by
  rw [titleAndSlug, Outcome.bind_eq_ok_iff]
  refine exists_congr fun chosen => and_congr_right fun _ => ?_
  simp only [Outcome.throw_bind]
  constructor
  · intro h
    rw [ite_eq_iff] at h
    obtain ⟨-, h⟩ | ⟨htitle, h⟩ := h
    · simp only [reduceCtorEq] at h
    · rw [ite_eq_iff] at h
      obtain ⟨-, h⟩ | ⟨hslug, h⟩ := h
      · simp only [reduceCtorEq] at h
      · rw [Outcome.pure_eq_ok_iff, Prod.mk.injEq] at h
        obtain ⟨rfl, rfl⟩ := h
        exact ⟨rfl, htitle, rfl, hslug⟩
  · rintro ⟨rfl, htitle, rfl, hslug⟩
    rw [if_neg htitle, if_neg hslug]
    rfl

/-- The title and the slug that are stored are there, and have no blanks at their ends. -/
theorem trim_of_titleAndSlug {t s : String} (h : titleAndSlug core title slug data = .ok (t, s)) :
    (trim t = t ∧ t ≠ "") ∧ trim s = s ∧ s ≠ "" := by
  obtain ⟨chosen, -, rfl, htitle, hslug, hne⟩ := titleAndSlug_eq_ok_iff.mp h
  refine ⟨⟨trim_trim _, htitle⟩, ?_, hne⟩
  -- the slug is a trimmed text, whether it was typed in or derived from the title
  rw [hslug]
  split
  · exact (isSlugText_slugify _).trim_eq
  · exact trim_trim _

/-- An entry that is stored again under its own title and slug, with the same data and under the
same settings, keeps them. -/
theorem titleAndSlug_self {t s : String} (h : titleAndSlug core title slug data = .ok (t, s)) :
    titleAndSlug core (.str t) (.str s) data = .ok (t, s) := by
  obtain ⟨-, htrim, hne⟩ := trim_of_titleAndSlug h
  rw [titleAndSlug_eq_ok_iff] at h ⊢
  obtain ⟨chosen, hchosen, rfl, htitle, -, -⟩ := h
  obtain ⟨again, hagain, hsame⟩ := chosenTitle_self hchosen
  refine ⟨again, hagain, hsame.symm, htitle, ?_, hne⟩
  rw [Value.trimmedText_str, htrim, if_neg hne]

/-! ### Titles from data that differs in texts -/

variable {a b : Obj}

/-- Below a text there is nothing. -/
theorem walk_str (text : String) (segments : List String) :
    (Value.str text).walk segments = .ok (if segments = [] then some (.str text) else none) := by
  cases segments <;> rfl

/-- The first segment of a path names a member of an object. -/
theorem walk_obj (o : Obj) (segment : String) (rest : List String) :
    (Value.obj o).walk (segment :: rest) =
      (Obj.get? o segment).elim (.ok none) fun v => v.walk rest := by
  have hnull : ¬(Value.obj o).isNull = true := Bool.false_ne_true
  have hpart : (Value.obj o).part? segment = .ok (Obj.get? o segment) := rfl
  rw [Value.walk, if_neg hnull, hpart, Outcome.ok_bind]
  cases Obj.get? o segment <;> rfl

/-- A token of a title can be filled in from data that differs in texts. -/
theorem exists_titleToken (hdiffers : Obj.DiffersInTexts a b) {content text : String}
    (h : titleToken (.obj a) content = .ok text) :
    ∃ text', titleToken (.obj b) content = .ok text' := by
  have hpath : (Value.str (trim content)).pathSegments = .ok (pathSegments (trim content)) := rfl
  simp only [titleToken, Value.atPath, hpath, Outcome.ok_bind] at h ⊢
  split at h
  · next hblank =>
    rw [if_pos hblank]
    exact ⟨"", rfl⟩
  · next hblank =>
    rw [if_neg hblank]
    cases hsegments : pathSegments (trim content) with
    | nil => exact ⟨"", rfl⟩
    | cons segment rest =>
      simp only [hsegments, walk_obj] at h ⊢
      obtain hsame | ⟨s, s', hs, hs'⟩ := hdiffers segment
      · rw [hsame]
        exact ⟨text, h⟩
      · rw [hs', Option.elim_some, walk_str]
        split <;> exact ⟨_, rfl⟩

theorem trim_collapse (text : String) : trim (collapse text) = collapse text := by
  rw [trim, toList_collapse, trimBy_trimBy, collapse]

/-- A title is derived from data that differs in texts if it is derived from the data itself, and it
has no blanks at its ends. -/
theorem exists_deriveTitle (hdiffers : Obj.DiffersInTexts a b) {template : Value} {derived : String}
    (h : deriveTitle template (.obj a) = .ok derived) :
    ∃ again, deriveTitle template (.obj b) = .ok again ∧ trim again = again := by
  rw [deriveTitle, Outcome.bind_eq_ok_iff] at h
  obtain ⟨text, htext, h⟩ := h
  rw [deriveTitle, htext, Outcome.ok_bind]
  split at h
  · next hblank =>
    rw [if_pos hblank]
    exact ⟨"", rfl, by decide⟩
  · next hblank =>
    rw [if_neg hblank]
    rw [Outcome.bind_eq_ok_iff] at h
    obtain ⟨rendered, hrendered, -⟩ := h
    obtain ⟨again, hagain⟩ := Template.exists_render
      (fun _ _ => exists_titleToken hdiffers) hrendered
    rw [hagain, Outcome.ok_bind]
    exact ⟨_, rfl, trim_collapse _⟩

/-- A title can be chosen for data that differs in texts, since the title that is typed in stands by
if the template gives none. -/
theorem exists_chosenTitle (hdiffers : Obj.DiffersInTexts a b)
    (h : chosenTitle core title (.obj a) = .ok chosen) {typed : String} (htyped : trim typed ≠ "") :
    ∃ again, chosenTitle core (.str typed) (.obj b) = .ok again ∧ again.trimmedText ≠ "" := by
  rw [chosenTitle, Outcome.bind_eq_ok_iff] at h
  obtain ⟨templated, htemplated, h⟩ := h
  rw [chosenTitle, htemplated, Outcome.ok_bind]
  cases templated with
  | false => exact ⟨_, rfl, htyped⟩
  | true =>
    rw [if_pos rfl, Outcome.bind_eq_ok_iff] at h
    obtain ⟨derived, hderived, -⟩ := h
    obtain ⟨again, hagain, htrim⟩ := exists_deriveTitle hdiffers hderived
    have hmembers : (Value.obj b).members = b := rfl
    rw [if_pos rfl, hmembers, hagain, Outcome.ok_bind]
    refine ⟨_, rfl, ?_⟩
    split
    · exact htyped
    · next hne =>
      rw [Value.trimmedText_str, htrim]
      exact hne

/-- An entry can be stored again under its own title and slug with data that differs in texts, and
it keeps its slug. -/
theorem exists_titleAndSlug (hdiffers : Obj.DiffersInTexts a b) {t s : String}
    (h : titleAndSlug core title slug (.obj a) = .ok (t, s)) :
    ∃ again, titleAndSlug core (.str t) (.str s) (.obj b) = .ok (again, s) := by
  obtain ⟨⟨htitle, htitle_ne⟩, htrim, hne⟩ := trim_of_titleAndSlug h
  obtain ⟨chosen, hchosen, -⟩ := titleAndSlug_eq_ok_iff.mp h
  have htyped : trim t ≠ "" := by
    rw [htitle]
    exact htitle_ne
  obtain ⟨again, hagain, hagain_ne⟩ := exists_chosenTitle hdiffers hchosen htyped
  refine ⟨again.trimmedText, titleAndSlug_eq_ok_iff.mpr ⟨again, hagain, rfl, hagain_ne, ?_, hne⟩⟩
  rw [Value.trimmedText_str, htrim, if_neg hne]

end ContentEngine
