import ContentEngine.Proofs.Entry.Normal

/-!
# Storing data again

What has been stored for an entry can always be stored again (`exists_normalDataWith_again`). Where
it does not stay as it is, a text has taken the place of a text: this happens to unsettled web
addresses only, and storing one of these gives an address again.
-/

namespace ContentEngine

namespace Format

/-- What is stored for a text in place of a web address is a text. -/
theorem exists_canonicalOrGiven_url_str (mail : MailReader) (text : String) :
    ∃ text', canonicalOrGiven mail .url (.str text) = .str text' := by
  cases h : canonicalUrl (.str text) with
  | error fault => exact ⟨text, by simp only [canonicalOrGiven, canonical, h]⟩
  | ok w =>
    have hgiven : canonicalOrGiven mail .url (.str text) = w := by
      simp only [canonicalOrGiven, canonical, h]
    rw [canonicalUrl] at h
    split at h
    · exact ⟨text, hgiven.trans (Except.ok.inj h).symm⟩
    · obtain ⟨u, -, hu⟩ := urlOf_eq_ok_iff.mp h
      exact ⟨_, hgiven.trans hu⟩

end Format

namespace Entry

variable {mail : Format.MailReader} {fields : Value} {field data out : Obj}
variable {declared : List (String × Obj)} {v w : Value}

/-- What has been stored for a value can be stored again. -/
theorem exists_storedValue_again
    (hmail : ∀ v w, Format.canonicalEmailWith mail v = .ok w →
      Format.canonicalEmailWith mail w = .ok w)
    (h : storedValue mail field v = .ok w) : ∃ again, storedValue mail field w = .ok again ∧
      (again = w ∨ ∃ text text', w = .str text ∧ again = .str text') := by
  by_cases hsettled : FieldKind.ofValue (Obj.get field "type") = .ok .url →
      Format.isUnsettledUrl w = false
  · exact ⟨w, (storedValue_storedValue_iff hmail h).mpr hsettled, .inl rfl⟩
  · rw [Classical.not_imp, Bool.not_eq_false] at hsettled
    obtain ⟨htype, hunsettled⟩ := hsettled
    cases w with
    | str text =>
      obtain ⟨text', htext⟩ := Format.exists_canonicalOrGiven_url_str mail text
      refine ⟨.str text', ?_, .inr ⟨text, text', rfl, rfl⟩⟩
      rw [storedValue_of_ne_repeater htype (by decide), ← htext]
      rfl
    | _ => exact absurd hunsettled Bool.false_ne_true

/-- Every value that is stored under a declared key has been stored for some value. -/
theorem StoredData.exists_storedValue (h : StoredData mail declared data out)
    {entry : String × Obj} (hentry : entry ∈ declared) (hw : Obj.get? out entry.1 = some w) :
    ∃ v, storedValue mail entry.2 v = .ok w := by
  cases hv : Obj.get? data entry.1 with
  | none =>
    rw [h.get?_eq_none hv] at hw
    contradiction
  | some v =>
    obtain ⟨w', hstore, hw'⟩ := h.value hentry hv
    obtain rfl : w = w' := Option.some.inj (hw.symm.trans hw')
    exact ⟨v, hstore⟩

/-- What has been stored for an entry can be stored again, and differs then in texts only. -/
theorem exists_normalDataWith_again
    (hmail : ∀ v w, Format.canonicalEmailWith mail v = .ok w →
      Format.canonicalEmailWith mail w = .ok w)
    (hfields : keyedFields fields = .ok declared) (hnodup : (declared.map (·.1)).Nodup)
    (h : normalDataWith mail fields v = .ok out) :
    ∃ again, normalDataWith mail fields (.obj out) = .ok again ∧ Obj.DiffersInTexts out again := by
  have hstored := storedData_of_normalDataWith hfields hnodup h
  rw [normalDataWith_obj hfields,
    foldl_moveAlias_eq_self (isSettled_of_normalDataWith hfields hnodup h)]
  have hvalue : ∀ entry ∈ declared, ∀ w, Obj.get? out entry.1 = some w →
      ∃ again, storedValue mail entry.2 w = .ok again ∧
        (again = w ∨ ∃ text text', w = .str text ∧ again = .str text') := by
    intro entry hentry w hw
    obtain ⟨u, hu⟩ := hstored.exists_storedValue hentry hw
    exact exists_storedValue_again hmail hu
  obtain ⟨again, hagain⟩ : ∃ again, storeValues mail out declared = .ok again := by
    rw [storeValues_eq_rewriteAll]
    refine Obj.exists_rewriteAll (by rwa [map_fst_fieldRules]) ?_
    rw [fieldRules, List.forall_mem_map]
    intro entry hentry w hw
    obtain ⟨left, hleft, -⟩ := hvalue entry hentry w hw
    exact ⟨some left, by simp only [hleft, Except.map_ok]⟩
  refine ⟨again, hagain, fun k => ?_⟩
  have hrewritten : StoredData mail declared out again := storedData_of_storeValues hnodup hagain
  by_cases hk : k ∈ declared.map (·.1)
  · obtain ⟨entry, hentry, rfl⟩ := List.mem_map.mp hk
    cases hw : Obj.get? out entry.1 with
    | none => exact .inl (hrewritten.get?_eq_none hw)
    | some w =>
      obtain ⟨left, hleft, hsame⟩ := hvalue entry hentry w hw
      obtain ⟨left', hleft', hget⟩ := hrewritten.value hentry hw
      obtain rfl : left = left' := Except.ok.inj (hleft.symm.trans hleft')
      rw [hget]
      obtain rfl | ⟨text, text', rfl, rfl⟩ := hsame
      · exact .inl rfl
      · exact .inr ⟨text, text', rfl, rfl⟩
  · exact .inl (hrewritten.other k (by rwa [map_fst_fieldRules]))

end Entry

end ContentEngine
