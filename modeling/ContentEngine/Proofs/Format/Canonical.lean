import ContentEngine.Format.Canonical
import ContentEngine.Proofs.Format.Url

/-!
# Canonical values

What the canonical form of a value is settled: taking it again changes nothing. For telephone
numbers and postal addresses this holds of every value (`canonicalPhone_settled`,
`canonicalAddress_settled`), for mail addresses it is up to the reader. For web addresses it holds
unless the canonical form ends in a blank and is read as an address without it (`isUnsettledUrl`).
-/

namespace ContentEngine

namespace Format

variable {v w : Value} {mail : MailReader}

/-! ### Telephone numbers -/

theorem decimalDigits_avoid_blanks :
    (decimalDigits.all fun r => blankRanges.all fun s =>
      Nat.blt s.last r.first || Nat.blt r.last s.first) = true := by
  decide +kernel

theorem isBlank_of_isDecimalDigit {c : Char} (h : isDecimalDigit c = true) : isBlank c = false := by
  by_contra hblank
  obtain ⟨s, hs, hfirst, hlast⟩ := exists_blankRange (by simpa using hblank)
  rw [isDecimalDigit, digitValue?] at h
  split at h
  · next hascii =>
    have hdigits : ∀ n < 128, isBlank (Char.ofNat n) = true →
        ¬('0' ≤ Char.ofNat n ∧ Char.ofNat n ≤ '9') := by decide +kernel
    refine ascii_induction (P := fun c => isBlank c = true → ¬('0' ≤ c ∧ c ≤ '9')) hdigits hascii
      (by simpa using hblank) ?_
    by_contra hno
    simp [hno] at h
  · rw [Option.isSome_map] at h
    obtain ⟨r, hr⟩ := Option.isSome_iff_exists.mp h
    have hrange := List.find?_some hr
    have havoid := List.all_eq_true.mp decimalDigits_avoid_blanks r (List.mem_of_find?_eq_some hr)
    have hdisjoint := List.all_eq_true.mp havoid s hs
    simp only [Bool.or_eq_true, Nat.blt_eq, Bool.and_eq_true, decide_eq_true_eq] at hdisjoint hrange
    omega

/-- A canonical telephone number is a plus sign and eight to fifteen digits. -/
theorem exists_digits_of_phoneOf {text region : String} (h : phoneOf v text region = .ok w) :
    ∃ digits, w = .str (String.ofList ('+' :: digits)) ∧ 8 ≤ digits.length ∧ digits.length ≤ 15 ∧
      ∀ c ∈ digits, isDecimalDigit c = true := by
  simp only [phoneOf] at h
  have hdigits : ∀ c ∈ (trimBy isBlank text.toList).filter isDecimalDigit,
      isDecimalDigit c = true :=
    fun c hc => (List.mem_filter.mp hc).2
  generalize (trimBy isBlank text.toList).filter isDecimalDigit = digits at h hdigits
  generalize upperText (trim (if region = "" then homeRegion else region)) = home at h
  split at h
  · split at h
    · next hlength =>
      exact ⟨digits, (Except.ok.inj h).symm, hlength.1, hlength.2, hdigits⟩
    · exact absurd h (malformed_ne_ok _ _ _)
  · split at h
    · contradiction
    · next code hcode =>
      split at h
      · next national hnational =>
        have hcode : isDecimalDigit code = true := by
          rw [countryCode?] at hcode
          split at hcode
          · obtain rfl := Option.some.inj hcode
            decide
          · contradiction
        refine ⟨national, (Except.ok.inj h).symm, ?_⟩
        rw [withCode?] at hnational
        split at hnational
        · obtain rfl := Option.some.inj hnational
          simp only [List.length_cons, List.mem_cons, forall_eq_or_imp]
          exact ⟨by omega, by omega, hcode, hdigits⟩
        · split at hnational
          · obtain rfl := Option.some.inj hnational
            exact ⟨by omega, by omega, hdigits⟩
          · contradiction
      · exact absurd h (malformed_ne_ok _ _ _)

/-- A plus sign and eight to fifteen digits are left alone, whatever the region. -/
theorem canonicalPhone_of_digits {digits : List Char} (hshort : 8 ≤ digits.length)
    (hlong : digits.length ≤ 15) (hdigits : ∀ c ∈ digits, isDecimalDigit c = true)
    (region : String) :
    canonicalPhone (.str (String.ofList ('+' :: digits))) region =
      .ok (.str (String.ofList ('+' :: digits))) := by
  have hblank : isBlankText (String.ofList ('+' :: digits)) = false := by
    have hplus : isBlank '+' = false := by decide
    simp [isBlankText, hplus]
  have htrim : trimBy isBlank ('+' :: digits) = '+' :: digits := by
    refine trimBy_eq_self (fun c hc => ?_) fun c hc => ?_
    · obtain rfl := Option.some.inj hc
      decide
    · rcases List.mem_cons.mp (List.mem_of_getLast? hc) with rfl | hc
      · decide
      · exact isBlank_of_isDecimalDigit (hdigits c hc)
  have hfilter : ('+' :: digits).filter isDecimalDigit = digits := by
    have hplus : isDecimalDigit '+' = false := by decide
    rw [List.filter_cons_of_neg (by simp [hplus])]
    exact List.filter_eq_self.mpr hdigits
  rw [canonicalPhone]
  simp only [hblank, Bool.false_eq_true, if_false]
  rw [phoneOf, String.toList_ofList, htrim, hfilter]
  simp [hshort, hlong]

theorem canonicalPhone_settled {region : String} (h : canonicalPhone v region = .ok w) :
    canonicalPhone w region = .ok w := by
  have hphone {text : String} (h : phoneOf v text region = .ok w) :
      canonicalPhone w region = .ok w := by
    obtain ⟨digits, rfl, hshort, hlong, hdigits⟩ := exists_digits_of_phoneOf h
    exact canonicalPhone_of_digits hshort hlong hdigits region
  cases v with
  | str s =>
    rw [canonicalPhone] at h
    split at h
    · next hblank =>
      obtain rfl := Except.ok.inj h
      simp [canonicalPhone, hblank]
    · exact hphone h
  | int n =>
    rw [canonicalPhone, Outcome.bind_eq_ok_iff] at h
    obtain ⟨text, -, h⟩ := h
    exact hphone h
  | null =>
    simp only [canonicalPhone, Except.ok.injEq] at h
    rw [← h, canonicalPhone]
  | _ => simp [canonicalPhone] at h

/-! ### Postal addresses -/

/-- A line of two characters has no blanks. -/
theorem isBlank_of_mem_of_length_eq_two {text : List Char} (hlength : text.length = 2)
    (htrim : trimBy isBlank text = text) {c : Char} (hc : c ∈ text) : isBlank c = false := by
  obtain ⟨a, b, rfl⟩ := List.length_eq_two.mp hlength
  have hhead : (trimBy isBlank [a, b]).head? = some a := by rw [htrim]; rfl
  have hlast : (trimBy isBlank [a, b]).getLast? = some b := by rw [htrim]; rfl
  rcases List.mem_cons.mp hc with rfl | hc
  · exact head?_trimBy hhead
  · obtain rfl := List.mem_singleton.mp hc
    exact getLast?_trimBy hlast

theorem addressPart_of_collapse {key text line : String} (h : collapse text = line) :
    addressPart key text =
      if (key = "state" ∨ key = "country") ∧ line.toList.length = 2 then upperText line
      else line := by
  rw [addressPart, h]

/-- The canonical text of a part of an address is left alone. -/
theorem addressPart_addressPart (key text : String) :
    addressPart key (addressPart key text) = addressPart key text := by
  obtain ⟨line, hcollapse⟩ : ∃ line, collapse text = line := ⟨_, rfl⟩
  have hline : collapse line = line := hcollapse ▸ collapse_collapse text
  have htrim : trimBy isBlank line.toList = line.toList := by
    rw [← hcollapse, toList_collapse, trimBy_trimBy]
  rw [addressPart_of_collapse hcollapse]
  by_cases hshort : (key = "state" ∨ key = "country") ∧ line.toList.length = 2
  · have hupper : (upperText line).toList = upper line.toList := String.toList_ofList
    have hagain : collapse (upperText line) = upperText line := by
      refine collapse_of_no_blank fun c hc => ?_
      rw [hupper] at hc
      exact isBlank_of_mem_upper (fun d hd => isBlank_of_mem_of_length_eq_two hshort.2 htrim hd) hc
    rw [if_pos hshort, addressPart_of_collapse hagain]
    split
    · exact upperText_upperText line
    · rfl
  · rw [if_neg hshort, addressPart_of_collapse hline, if_neg hshort]

theorem get?_addressMembers_of_not_mem {o m : Obj} {keys : List String}
    (h : addressMembers o keys = .ok m) {key : String} (hkey : key ∉ keys) :
    Obj.get? m key = none := by
  induction keys generalizing m with
  | nil =>
    obtain rfl := Except.ok.inj h
    rfl
  | cons first keys ih =>
    rw [List.mem_cons, not_or] at hkey
    rw [addressMembers] at h
    split at h
    · exact ih h hkey.2
    · simp only [Outcome.bind_eq_ok_iff, Outcome.pure_eq_ok_iff] at h
      obtain ⟨text, -, rest, hrest, rfl⟩ := h
      rw [Obj.get?_cons, if_neg hkey.1]
      exact ih hrest hkey.2

/-- Parts in canonical form are left alone. Only what stands under the keys matters. -/
theorem addressMembers_eq_self {o m again : Obj} {keys : List String} (hnodup : keys.Nodup)
    (h : addressMembers o keys = .ok m) (hsame : ∀ key ∈ keys, Obj.get again key = Obj.get m key) :
    addressMembers again keys = .ok m := by
  induction keys generalizing m with
  | nil => exact h
  | cons first keys ih =>
    obtain ⟨hfirst, hnodup⟩ := List.nodup_cons.mp hnodup
    rw [addressMembers] at h
    split at h
    · have hnone : Obj.get m first = .null := by
        rw [Obj.get, get?_addressMembers_of_not_mem h hfirst, Option.getD_none]
      rw [addressMembers, hsame first List.mem_cons_self, hnone, if_pos (by decide)]
      exact ih hnodup h fun key hkey => hsame key (List.mem_cons_of_mem first hkey)
    · simp only [Outcome.bind_eq_ok_iff, Outcome.pure_eq_ok_iff] at h
      obtain ⟨text, -, rest, hrest, rfl⟩ := h
      have hget : Obj.get again first = .str (addressPart first text) := by
        rw [hsame first List.mem_cons_self]
        simp [Obj.get, Obj.get?_cons]
      have hothers : addressMembers again keys = .ok rest := by
        refine ih hnodup hrest fun key hkey => ?_
        have hne : key ≠ first := fun heq => hfirst (heq ▸ hkey)
        rw [hsame key (List.mem_cons_of_mem first hkey)]
        simp [Obj.get, Obj.get?_cons, hne]
      have hread : (Value.str (addressPart first text)).text = .ok (addressPart first text) := rfl
      rw [addressMembers, hget, if_neg (by simp [Value.isNull]), hread, hothers, Outcome.ok_bind,
        Outcome.ok_bind, addressPart_addressPart]
      rfl

theorem canonicalAddress_settled (h : canonicalAddress v = .ok w) : canonicalAddress w = .ok w := by
  rw [canonicalAddress] at h
  split at h
  · next hnull =>
    obtain rfl := Except.ok.inj h
    rw [canonicalAddress, if_pos hnull]
  · cases hobj : v.asObj? with
    | none => simp [hobj] at h
    | some o =>
      simp only [hobj, Outcome.bind_eq_ok_iff, Outcome.pure_eq_ok_iff] at h
      obtain ⟨m, hmembers, rfl⟩ := h
      have hagain : addressMembers m addressParts = .ok m :=
        addressMembers_eq_self (by decide) hmembers fun _ _ => rfl
      rw [canonicalAddress, if_neg (by simp [Value.isNull])]
      simp only [Value.asObj?, hagain, Outcome.ok_bind]
      rfl

/-! ### Web addresses -/

/-- Whether a value is the text of a web address that changes when it is read again: it ends in a
blank, and without the blank it is an address. -/
def isUnsettledUrl : Value → Bool
  | .str s =>
    !isBlankText s && s.toList.getLast?.any isBlank && (canonicalUrl (.str s)).toOption.isSome
  | _ => false

theorem canonicalUrl_of_not_isBlankText {s : String} (h : isBlankText s = false) :
    canonicalUrl (.str s) = urlOf (.str s) (trimBy isBlank s.toList) := by
  rw [canonicalUrl, h]
  rfl

/-- A canonical web address that is read again is left alone exactly if it is not unsettled. -/
theorem canonicalUrl_text_iff {u : Url} (hu : IsCanonicalUrl u) :
    (∀ again, canonicalUrl (.str (String.ofList u.text)) = .ok again →
        again = .str (String.ofList u.text)) ↔
      isUnsettledUrl (.str (String.ofList u.text)) = false := by
  have hblank : isBlankText (String.ofList u.text) = false := by
    have hcolon : ':' ∈ u.text := List.mem_append_right _ List.mem_cons_self
    rw [isBlankText, String.toList_ofList]
    exact List.all_eq_false.mpr ⟨':', hcolon, by decide⟩
  have hread := canonicalUrl_of_not_isBlankText hblank
  rw [String.toList_ofList] at hread
  simp only [isUnsettledUrl, hblank, Bool.not_false, Bool.true_and, String.toList_ofList]
  cases hend : u.text.getLast?.any isBlank with
  | false =>
    -- without a blank at its end the text is not trimmed
    simp only [Bool.false_and, iff_true]
    intro again hagain
    have htrim : trimBy isBlank u.text = u.text := by
      refine trimBy_eq_self (fun c hc => hu.isBlank_of_head?_text hc) fun c hc => ?_
      simpa [hc] using hend
    rw [hread, htrim] at hagain
    obtain ⟨other, hspells, rfl⟩ := urlOf_eq_ok_iff.mp hagain
    rw [hu.eq_of_spells_text hspells]
  | true =>
    rw [Bool.true_and]
    -- with one, the trimmed text spells another address or none
    obtain ⟨dropped, htext, hdropped⟩ := exists_trimBy_append (fun _ => hu.isBlank_of_head?_text)
    have hne : dropped ≠ [] := by
      rintro rfl
      rw [List.append_nil] at htext
      obtain ⟨c, hc, hcblank⟩ := Option.any_eq_true _ _ |>.mp hend
      rw [htext] at hc
      exact absurd hcblank (by simp [getLast?_trimBy hc])
    cases hagain : canonicalUrl (.str (String.ofList u.text)) with
    | error f => simp [Except.toOption]
    | ok again =>
      simp only [Except.toOption, Option.isSome_some, Bool.true_eq_false, iff_false]
      intro hsame
      rw [hread] at hagain
      obtain ⟨other, hspells, rfl⟩ := urlOf_eq_ok_iff.mp hagain
      have heq : String.ofList other.text = String.ofList u.text := by
        simpa using hsame _ rfl
      refine hu.ne_of_spells_trimmed htext hne hdropped hspells ?_
      exact (isCanonicalUrl_of_spells hspells).text_injective hu (String.ofList_injective heq)

theorem canonicalUrl_settled_iff (h : canonicalUrl v = .ok w) :
    (∀ again, canonicalUrl w = .ok again → again = w) ↔ isUnsettledUrl w = false := by
  have hsame (heq : w = v) (hfalse : isUnsettledUrl v = false) :
      (∀ again, canonicalUrl w = .ok again → again = w) ↔ isUnsettledUrl w = false := by
    rw [heq] at h ⊢
    rw [h]
    simp [hfalse]
  cases v with
  | str s =>
    cases hblank : isBlankText s with
    | true =>
      have heq : canonicalUrl (.str s) = .ok (.str s) := by rw [canonicalUrl, if_pos hblank]
      exact hsame (Except.ok.inj (h.symm.trans heq)) (by simp [isUnsettledUrl, hblank])
    | false =>
      rw [canonicalUrl_of_not_isBlankText hblank] at h
      obtain ⟨u, hspells, rfl⟩ := urlOf_eq_ok_iff.mp h
      exact canonicalUrl_text_iff (isCanonicalUrl_of_spells hspells)
  | null => exact hsame (Except.ok.inj h).symm rfl
  | _ => simp [canonicalUrl] at h

theorem isUnsettledUrl_of_error {f : Fault} (h : canonicalUrl v = .error f) :
    isUnsettledUrl v = false := by
  cases v with
  | str s => simp [isUnsettledUrl, h, Except.toOption]
  | _ => rfl

/-! ### All formats -/

theorem canonicalOrGiven_eq_self_iff {format : Format} :
    canonicalOrGiven mail format v = v ↔
      ∀ again, canonical mail format v = .ok again → again = v := by
  rw [canonicalOrGiven]
  cases canonical mail format v with
  | error f => simp
  | ok w => simp

/-- A value is left alone once it has been stored if its canonical form is settled. A value that is
refused stays what it is. -/
theorem canonicalOrGiven_settled {format : Format}
    (h : ∀ w, canonical mail format v = .ok w → canonical mail format w = .ok w) :
    canonicalOrGiven mail format (canonicalOrGiven mail format v) =
      canonicalOrGiven mail format v := by
  rw [canonicalOrGiven_eq_self_iff, canonicalOrGiven]
  intro again hagain
  cases hv : canonical mail format v with
  | error f =>
    rw [hv] at hagain
    simp [hv] at hagain
  | ok w =>
    rw [hv] at hagain
    exact Except.ok.inj (hagain.symm.trans (h w hv))

/-- What is stored for a web address is left alone exactly if it is not unsettled. -/
theorem canonicalOrGiven_url_iff (mail : MailReader) (v : Value) :
    canonicalOrGiven mail .url (canonicalOrGiven mail .url v) = canonicalOrGiven mail .url v ↔
      isUnsettledUrl (canonicalOrGiven mail .url v) = false := by
  rw [canonicalOrGiven_eq_self_iff]
  cases h : canonicalUrl v with
  | error f =>
    have hgiven : canonicalOrGiven mail .url v = v := by simp only [canonicalOrGiven, canonical, h]
    rw [hgiven]
    simp only [canonical, h, isUnsettledUrl_of_error h]
    simp
  | ok w =>
    have hgiven : canonicalOrGiven mail .url v = w := by simp only [canonicalOrGiven, canonical, h]
    rw [hgiven]
    exact canonicalUrl_settled_iff h

end Format

/-- What is stored for a value is left alone, if mail addresses are, unless it is an unsettled web
address. -/
theorem FieldKind.canonicalValue_settled_iff {mail : Format.MailReader}
    (hmail : ∀ v w, Format.canonicalEmailWith mail v = .ok w →
      Format.canonicalEmailWith mail w = .ok w)
    (kind : FieldKind) (v : Value) :
    kind.canonicalValue mail (kind.canonicalValue mail v) = kind.canonicalValue mail v ↔
      (kind = .url → Format.isUnsettledUrl (kind.canonicalValue mail v) = false) := by
  cases hkind : Format.ofKind? kind with
  | none =>
    have hne : kind ≠ .url := by
      rintro rfl
      contradiction
    have hgiven (v : Value) : kind.canonicalValue mail v = v := by
      simp only [canonicalValue, hkind]
    simp [hgiven, hne]
  | some format =>
    have hgiven (v : Value) :
        kind.canonicalValue mail v = Format.canonicalOrGiven mail format v := by
      simp only [canonicalValue, hkind]
    rw [hgiven v, hgiven]
    by_cases hurl : kind = .url
    · subst hurl
      obtain rfl : Format.url = format := Option.some.inj hkind
      simp [Format.canonicalOrGiven_url_iff]
    · simp only [hurl, false_implies, iff_true]
      refine Format.canonicalOrGiven_settled fun w hw => ?_
      cases format with
      | email => exact hmail v w hw
      | phone => exact Format.canonicalPhone_settled hw
      | url => cases kind <;> simp_all [Format.ofKind?]
      | address => exact Format.canonicalAddress_settled hw

end ContentEngine
