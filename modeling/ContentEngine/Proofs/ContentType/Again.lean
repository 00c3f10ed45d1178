import ContentEngine.ContentType.Basic
import ContentEngine.Proofs.Outcome
import ContentEngine.Proofs.Title

/-!
# Content types that are read again

What a request gives to a content type is settled (`TypeValues.isSettled_of_prepare`): its texts are
trimmed, its slug spells itself, and neither its slug nor its labels are empty. So a request that
asks for nothing gives the type the values that it has (`ContentType.prepare_nothing`).
-/

namespace ContentEngine

/-- Whether the values of a type are in the form in which they are stored. -/
structure TypeValues.IsSettled (v : TypeValues) : Prop where
  slug : typeSlug v.slug = v.slug
  slug_ne : v.slug ≠ ""
  labelSingular : trim v.labelSingular = v.labelSingular
  labelSingular_ne : v.labelSingular ≠ ""
  labelPlural : trim v.labelPlural = v.labelPlural
  labelPlural_ne : v.labelPlural ≠ ""
  description : trim v.description = v.description
  icon : trim v.icon = v.icon

namespace ContentType

variable {request base : Obj} {values : TypeValues}

theorem trim_requested (request base : Obj) (keys : List String) (old : String) :
    trim (requested request base keys old) = requested request base keys old := by
  rw [requested]
  split <;> exact trim_trim _

theorem trim_pluralize (label : String) : trim (pluralize label) = pluralize label := by
  simp only [pluralize]
  split
  · decide
  · next hne =>
    split
    · exact trim_trim label
    · have hchars : (trim label ++ "s").toList = (trim label).toList ++ ['s'] := by
        rw [String.toList_append]
        rfl
      have hlist : (trim label).toList ≠ [] := by simpa using hne
      have hsame : trimBy isBlank (trim label ++ "s").toList = (trim label ++ "s").toList := by
        rw [hchars]
        refine trimBy_eq_self (fun c hc => ?_) fun c hc => ?_
        · rw [List.head?_append_of_ne_nil _ hlist, trim, String.toList_ofList] at hc
          exact head?_trimBy hc
        · rw [List.getLast?_concat, Option.some.injEq] at hc
          exact hc ▸ by decide
      rw [trim, hsame, String.ofList_toList]

/-- What a request gives to a type is settled. -/
theorem isSettled_of_prepare {request : Value} (h : prepare request base = .ok values) :
    values.IsSettled := by
  rw [prepare] at h
  split at h
  · exact absurd h Outcome.throw_ne_ok
  · dsimp only at h
    simp only [Outcome.throw_bind, ite_eq_iff, reduceCtorEq, and_false, false_or] at h
    obtain ⟨hslug, hsingular, hplural, hkind⟩ := h
    split at hkind
    · exact absurd hkind Outcome.throw_ne_ok
    · rw [Outcome.pure_eq_ok_iff] at hkind
      subst hkind
      exact {
        slug := typeSlug_typeSlug _
        slug_ne := hslug
        labelSingular := trim_requested _ _ _ _
        labelSingular_ne := hsingular
        labelPlural := by
          dsimp only
          split
          · exact trim_pluralize _
          · exact trim_requested _ _ _ _
        labelPlural_ne := fun hempty => hplural (ite_eq_iff.mp hempty)
        description := trim_requested _ _ _ _
        icon := trim_requested _ _ _ _ }

theorem ofText?_text (kind : ContentKind) :
    ContentKind.ofText? (if lowerText kind.text = "" then "content" else lowerText kind.text) =
      some kind := by
  cases kind <;> decide +kernel

/-- A request that asks for nothing gives a type the values that it has. -/
theorem prepare_nothing {t : ContentType} (h : t.values.IsSettled) :
    prepare (.obj []) t.toObj = .ok t.values := by
  have hkept (keys : List String) (old : String) :
      requested [] t.toObj keys old = (Obj.get t.toObj old).trimmedText := by
    have hnone : keys.find? (Obj.has []) = none :=
      List.find?_eq_none.mpr fun _ _ => Bool.false_ne_true
    rw [requested, hnone]
  have hobj : (Value.obj []).asObj? = some [] := rfl
  have hsingular : (Obj.get t.toObj "label_singular").trimmedText = t.values.labelSingular :=
    h.labelSingular
  have hplural : (Obj.get t.toObj "label_plural").trimmedText = t.values.labelPlural :=
    h.labelPlural
  have hslug : chosenSlug (Obj.get t.toObj "slug").trimmedText t.values.labelPlural =
      t.values.slug := by
    have hasked : (Obj.get t.toObj "slug").trimmedText = t.values.slug := by
      have htrim := trim_typeSlug t.values.slug
      rwa [h.slug] at htrim
    rw [chosenSlug, hasked, if_neg h.slug_ne, h.slug]
  have hkind : (Obj.get t.toObj "type").trimmedText = t.values.kind.text := by
    have hget : Obj.get t.toObj "type" = .str t.values.kind.text := rfl
    rw [hget]
    cases t.values.kind <;> decide +kernel
  have hdescription : (Obj.get t.toObj "description").trimmedText = t.values.description :=
    h.description
  have hicon : (Obj.get t.toObj "icon").trimmedText = t.values.icon := h.icon
  rw [prepare, hobj]
  simp only [hkept, hsingular, hplural, if_neg h.labelPlural_ne, hslug, hkind, hdescription, hicon,
    if_neg h.slug_ne, if_neg h.labelSingular_ne, ofText?_text]
  rfl

end ContentType

end ContentEngine
