import ContentEngine.Proofs.Format.Canonical

/-!
# Telephone numbers in international form

A canonical telephone number is a plus sign and eight to fifteen digits (`IsNumber`), and it is left
alone whatever the region. Its digits are those of the text that it is made of, perhaps after the
code of a country (`exists_code_of_phoneOf`). A text may hold digits of any script, and these are
kept as they stand: the number is in ASCII exactly if the digits of the text are
(`phone_ascii_iff`).
-/

namespace ContentEngine

namespace Format

variable {v w : Value} {region : String}

/-- Whether a text is a telephone number in international form: a plus sign and eight to fifteen
digits, for some notion of a digit. -/
def IsNumber (isDigit : Char → Bool) (text : String) : Prop :=
  ∃ digits, text.toList = '+' :: digits ∧ 8 ≤ digits.length ∧ digits.length ≤ 15 ∧
    ∀ c ∈ digits, isDigit c = true

/-! ### The digits of a text -/

/-- Nothing but the blanks around a text is lost when it is trimmed, and no blank is a digit. -/
theorem filter_isDecimalDigit_trimBy (text : List Char) :
    (trimBy isBlank text).filter isDecimalDigit = text.filter isDecimalDigit := by
  have hdrop (text : List Char) :
      (text.dropWhile isBlank).filter isDecimalDigit = text.filter isDecimalDigit := by
    have hblank : (text.takeWhile isBlank).filter isDecimalDigit = [] := by
      refine List.filter_eq_nil_iff.mpr fun c hc hdigit => ?_
      have hno := isBlank_of_isDecimalDigit hdigit
      rw [List.all_eq_true.mp List.all_takeWhile c hc] at hno
      contradiction
    conv_rhs => rw [← List.takeWhile_append_dropWhile (p := isBlank) (l := text)]
    rw [List.filter_append, hblank, List.nil_append]
  rw [trimBy, List.filter_reverse, hdrop, List.filter_reverse, List.reverse_reverse, hdrop]

theorem countryCode?_eq_some {code : Char} (h : countryCode? region = some code) : code = '1' := by
  rw [countryCode?, Option.ite_none_right_eq_some, Option.some.injEq] at h
  exact h.2.symm

/-- The digits of a canonical number are the digits of the text, and the code of a country before
them if the text does not say it. -/
theorem exists_code_of_phoneOf {text : String} (h : phoneOf v text region = .ok w) :
    ∃ code : List Char, (∀ c ∈ code, c = '1') ∧
      w = .str (String.ofList ('+' :: (code ++ text.toList.filter isDecimalDigit))) := by
  simp only [phoneOf, filter_isDecimalDigit_trimBy] at h
  generalize upperText (trim (if region = "" then homeRegion else region)) = home at h
  split at h
  · split at h
    · exact ⟨[], by simp, (Except.ok.inj h).symm⟩
    · exact absurd h (malformed_ne_ok _ _ _)
  · split at h
    · contradiction
    · next code hcode =>
      obtain rfl := countryCode?_eq_some hcode
      split at h
      · next national hnational =>
        rw [withCode?] at hnational
        split at hnational
        · obtain rfl := Option.some.inj hnational
          exact ⟨['1'], by simp, (Except.ok.inj h).symm⟩
        · rw [Option.ite_none_right_eq_some, Option.some.injEq] at hnational
          obtain ⟨-, rfl⟩ := hnational
          exact ⟨[], by simp, (Except.ok.inj h).symm⟩
      · exact absurd h (malformed_ne_ok _ _ _)

/-- What has a canonical number and is not blank has a text that the number is made of. -/
theorem exists_text_of_canonicalPhone (hv : isBlankValue v = false)
    (h : canonicalPhone v region = .ok w) :
    ∃ text, v.text = .ok text ∧ phoneOf v text region = .ok w := by
  cases v with
  | str s =>
    have hs : isBlankText s = false := hv
    rw [canonicalPhone, if_neg (by simp [hs])] at h
    exact ⟨s, rfl, h⟩
  | int n =>
    rw [canonicalPhone, Outcome.bind_eq_ok_iff] at h
    obtain ⟨text, htext, h⟩ := h
    exact ⟨text, htext, h⟩
  | null => simp [isBlankValue] at hv
  | _ => simp [canonicalPhone] at h

/-! ### Canonical numbers -/

/-- A text of ten digits that does not start with a plus sign is a national number. -/
theorem canonicalPhone_of_ten_digits {text : String} (code : Char) (digits : List Char)
    (hblank : isBlankText text = false) (hhead : (trimBy isBlank text.toList).head? ≠ some '+')
    (hdigits : text.toList.filter isDecimalDigit = digits) (hlength : digits.length = 10)
    (hregion : countryCode? (upperText (trim (if region = "" then homeRegion else region))) =
      some code) :
    canonicalPhone (.str text) region = .ok (.str (String.ofList ('+' :: code :: digits))) := by
  rw [canonicalPhone, if_neg (by simp [hblank]), phoneOf]
  simp only [filter_isDecimalDigit_trimBy, hregion, if_neg hhead, hdigits, withCode?, hlength,
    if_true]

/-- The canonical form of a value that is not blank, if it has one, is a plus sign and eight to
fifteen decimal digits of any script, and is its own canonical form in every region. It is in ASCII
exactly if every decimal digit in the text of the value is. -/
theorem phone_ascii_iff (hv : isBlankValue v = false) (h : canonicalPhone v region = .ok w) :
    ∃ text number, v.text = .ok text ∧ w = .str number ∧
      IsNumber isDecimalDigit number ∧
      (IsNumber isAsciiDigit number ↔
        ∀ c ∈ text.toList, isDecimalDigit c = true → isAsciiDigit c = true) ∧
      ∀ other, canonicalPhone w other = .ok w := by
  obtain ⟨text, htext, h⟩ := exists_text_of_canonicalPhone hv h
  obtain ⟨digits, rfl, hshort, hlong, hdigits⟩ := exists_digits_of_phoneOf h
  obtain ⟨code, hcode, heq⟩ := exists_code_of_phoneOf h
  have hsame : digits = code ++ text.toList.filter isDecimalDigit := by
    simpa using String.ofList_inj.mp (Value.str.inj heq)
  refine ⟨text, _, htext, rfl, ⟨digits, String.toList_ofList, hshort, hlong, hdigits⟩, ?_,
    canonicalPhone_of_digits hshort hlong hdigits⟩
  constructor
  · rintro ⟨digits', hdigits', -, -, hascii⟩ c hc hdigit
    obtain rfl : digits = digits' := by simpa using hdigits'
    refine hascii c ?_
    rw [hsame]
    exact List.mem_append_right _ (List.mem_filter.mpr ⟨hc, hdigit⟩)
  · intro hascii
    refine ⟨digits, String.toList_ofList, hshort, hlong, fun c hc => ?_⟩
    rw [hsame] at hc
    -- the code of a country is in ASCII anyway
    rcases List.mem_append.mp hc with hc | hc
    · rw [hcode c hc]
      rfl
    · obtain ⟨hc, hdigit⟩ := List.mem_filter.mp hc
      exact hascii c hc hdigit

/-- A number of ten digits gets the code of the country. -/
theorem national_number_in_ascii :
    isBlankValue (.str " (212) 555-0123 ") = false ∧
      canonicalPhone (.str " (212) 555-0123 ") "US" = .ok (.str "+12125550123") ∧
      IsNumber isAsciiDigit "+12125550123" ∧
      canonicalPhone (.str "+12125550123") "US" = .ok (.str "+12125550123") := by
  have hv : isBlankValue (.str " (212) 555-0123 ") = false := by decide
  have hphone : canonicalPhone (.str " (212) 555-0123 ") "US" = .ok (.str "+12125550123") :=
    canonicalPhone_of_ten_digits '1' "2125550123".toList hv (by decide) (by decide) rfl (by decide)
  obtain ⟨text, number, htext, hnumber, -, hiff, hsettled⟩ := phone_ascii_iff hv hphone
  obtain rfl := Value.str.inj hnumber
  obtain rfl := Except.ok.inj htext
  have hascii : (" (212) 555-0123 ".toList.all fun c =>
      !isDecimalDigit c || isAsciiDigit c) = true := by decide
  refine ⟨hv, hphone, hiff.mpr fun c hc hdigit => ?_, hsettled "US"⟩
  simpa [hdigit] using List.all_eq_true.mp hascii c hc

/-- A number in Arabic digits keeps them after the code of the country, so that a canonical number
need not be in ASCII. -/
theorem national_number_not_in_ascii :
    ¬∀ (v w : Value) (region : String), isBlankValue v = false →
      canonicalPhone v region = .ok w →
        (∃ number, w = .str number ∧ IsNumber isAsciiDigit number) ∧
          canonicalPhone w region = .ok w := by
  intro hall
  have hphone : canonicalPhone (.str "\u0662\u0661\u0662\u0665\u0665\u0665\u0660\u0661\u0662\u0663")
      "US" = .ok (.str "+1\u0662\u0661\u0662\u0665\u0665\u0665\u0660\u0661\u0662\u0663") :=
    canonicalPhone_of_ten_digits '1'
      "\u0662\u0661\u0662\u0665\u0665\u0665\u0660\u0661\u0662\u0663".toList (by decide) (by decide)
      (by decide) rfl (by decide)
  obtain ⟨⟨number, hnumber, digits, hdigits, -, -, hascii⟩, -⟩ := hall _ _ _ (by decide) hphone
  obtain rfl := Value.str.inj hnumber
  obtain rfl := List.cons.inj hdigits |>.2
  have hfirst := hascii '\u0662' (by decide)
  revert hfirst
  decide

end Format

end ContentEngine
