import ContentEngine.Proofs.Origin
import ContentEngine.Proofs.Title
import ContentEngine.Proofs.Text.Search
import ContentEngine.Proofs.Value.Integer

/-!
# Identifiers that are issued are read as identifiers

A record is named by an identifier or by a slug, and which of the two a text is told by its form.
What is issued has the form of an identifier as long as its number has no more than twelve digits
(`Origin.isSome_ofText?_identifier`), which is enough for 2 ^ 48 records; it is written in the
letters of slugs, so that its case and the blanks around it do not matter.
-/

namespace ContentEngine

/-! ### Hexadecimal digits -/

theorem exists_of_mem_hexText {width n : Nat} {c : Char} (h : c ∈ hexText width n) :
    ∃ d < 16, hexDigit d = c := by
  induction width generalizing n with
  | zero => simp [hexText] at h
  | succ width ih =>
    rw [hexText, List.mem_append, List.mem_singleton] at h
    rcases h with h | rfl
    · exact ih h
    · exact ⟨n % 16, Nat.mod_lt n (by decide), rfl⟩

theorem isWordChar_of_mem_hexText {width n : Nat} {c : Char} (h : c ∈ hexText width n) :
    isWordChar c = true := by
  have hdigits : ∀ d < 16, isWordChar (hexDigit d) = true := by decide
  obtain ⟨d, hd, rfl⟩ := exists_of_mem_hexText h
  exact hdigits d hd

theorem baseDigit?_of_mem_hexText {width n : Nat} {c : Char} (h : c ∈ hexText width n) :
    ∃ d, baseDigit? 16 c = some d := by
  have hdigits : ∀ d < 16, baseDigit? 16 (hexDigit d) = some d := by decide
  obtain ⟨d, hd, rfl⟩ := exists_of_mem_hexText h
  exact ⟨d, hdigits d hd⟩

/-- Small letters and digits of ASCII are what they are in a number. -/
theorem asciiNumber_of_wordChars {text : List Char} (h : ∀ c ∈ text, isWordChar c = true) :
    asciiNumber text = text := by
  have hascii {c : Char} (hc : isWordChar c = true) : c.toNat < 128 := by
    rw [isWordChar, Bool.or_eq_true] at hc
    exact toNat_lt_of_isAscii (.inr hc)
  have hmap : text.map asciiNumberChar = text :=
    (List.map_congr_left fun c hc => if_pos (hascii (h c hc))).trans (List.map_id text)
  rw [asciiNumber, hmap]
  exact trimBy_eq_self
    (fun c hc => isAsciiBlank_of_isWordChar (h c (List.mem_of_mem_head? hc)))
    fun c hc => isAsciiBlank_of_isWordChar (h c (List.mem_of_getLast? hc))

/-- Hexadecimal digits, of which the first two are zeros, denote a number that has no more of
them. -/
theorem exists_readHexInteger? {rest : List Char}
    (hword : ∀ c ∈ '0' :: '0' :: rest, isWordChar c = true)
    (hdigit : ∀ c ∈ '0' :: '0' :: rest, ∃ d, baseDigit? 16 c = some d) :
    ∃ n < 16 ^ (rest.length + 2), readHexInteger? ('0' :: '0' :: rest) = some (.ofNat n) := by
  have hsome : false = true ∨ '0' :: '0' :: rest ≠ [] := .inr (List.cons_ne_nil _ _)
  obtain ⟨n, hn, hread⟩ := exists_readDigits hdigit hsome 0 0
  rw [Nat.mul_one] at hn
  refine ⟨n, hn, ?_⟩
  -- there is no sign and no mark of the base in front
  have hsign : cutSign ('0' :: '0' :: rest) = (false, '0' :: '0' :: rest) := rfl
  have hmark : ¬('0' = 'x' ∨ '0' = 'X') := by decide
  rw [readHexInteger?, asciiNumber_of_wordChars hword, hsign]
  simp only [if_neg hmark, hread, Option.map_some]
  rfl

/-! ### Identifiers that are issued -/

namespace Origin

theorem isSlugText_identifier (n : Nat) : IsSlugText (identifier n) := by
  have hstart : ("00000000-0000-4000-8000-".toList.all fun c => isWordChar c || c == '-') =
      true := by decide
  have hdigits : ∀ c ∈ hexText (12 + n / Nat.pow 16 12) n, isWordChar c = true :=
    fun c hc => isWordChar_of_mem_hexText hc
  unfold identifier
  generalize hexText _ n = digits at hdigits ⊢
  intro c hc
  rw [String.toList_append, List.mem_append] at hc
  rcases hc with hc | hc
  · simpa using List.all_eq_true.mp hstart c hc
  · rw [String.toList_ofList] at hc
    exact .inl (hdigits c hc)

end Origin

/-- What is left of a slug when it is read as an identifier is the slug without its dashes. -/
theorem identifierDigits_of_isSlugText {text : String} (h : IsSlugText text) :
    identifierDigits text.toList = text.toList.filter (· ≠ '-') := by
  have hcolon : ':' ∉ text.toList := h.not_mem (by decide) (by decide)
  have hbrace : ∀ c ∈ text.toList, (c == '\x7b' || c == '\x7d') = false := by
    intro c hc
    have hopen : '\x7b' ∉ text.toList := h.not_mem (by decide) (by decide)
    have hclose : '\x7d' ∉ text.toList := h.not_mem (by decide) (by decide)
    simp [show c ≠ '\x7b' from fun heq => hopen (heq ▸ hc),
      show c ≠ '\x7d' from fun heq => hclose (heq ▸ hc)]
  have htrim : trimBy (fun c => c == '\x7b' || c == '\x7d') text.toList = text.toList :=
    trimBy_eq_self (fun c hc => hbrace c (List.mem_of_mem_head? hc))
      fun c hc => hbrace c (List.mem_of_getLast? hc)
  rw [identifierDigits, replaceAll_of_not_mem (by decide : ':' ∈ "urn:".toList) hcolon,
    replaceAll_of_not_mem (by decide : ':' ∈ "uuid:".toList) hcolon, htrim]

/-- The digits of an identifier whose number has twelve digits at most. -/
theorem identifierDigits_identifier {n : Nat} (h : n < 16 ^ 12) :
    identifierDigits (Origin.identifier n).toList =
      "00000000000040008000".toList ++ hexText 12 n := by
  have hquotient : n / Nat.pow 16 12 = 0 := Nat.div_eq_of_lt h
  have hwidth : 12 + n / Nat.pow 16 12 = 12 := congrArg (12 + ·) hquotient
  have hstart : "00000000-0000-4000-8000-".toList.filter (· ≠ '-') =
      "00000000000040008000".toList := by decide
  have hrest : (String.ofList (hexText 12 n)).toList.filter (· ≠ '-') = hexText 12 n := by
    rw [String.toList_ofList]
    refine List.filter_eq_self.mpr fun c hc => decide_eq_true ?_
    rintro rfl
    exact absurd (isWordChar_of_mem_hexText hc) (by decide)
  have htext : (Origin.identifier n).toList =
      "00000000-0000-4000-8000-".toList ++ (String.ofList (hexText 12 n)).toList := by
    unfold Origin.identifier
    rw [hwidth]
    exact String.toList_append
  rw [identifierDigits_of_isSlugText (Origin.isSlugText_identifier n), htext, List.filter_append,
    hstart, hrest]

/-- Whatever is issued is read as an identifier, as long as its number has twelve digits at most. -/
theorem Origin.isSome_ofText?_identifier {n : Nat} (h : n < 16 ^ 12) :
    (Identifier.ofText? (identifier n)).isSome = true := by
  have hstart : ("00000000000040008000".toList.all fun c =>
      isWordChar c && (baseDigit? 16 c).isSome) = true := by decide
  simp only [List.all_eq_true, Bool.and_eq_true] at hstart
  have hword : ∀ c ∈ "00000000000040008000".toList ++ hexText 12 n, isWordChar c = true :=
    fun c hc => (List.mem_append.mp hc).elim (fun hc => (hstart c hc).1) isWordChar_of_mem_hexText
  have hdigit : ∀ c ∈ "00000000000040008000".toList ++ hexText 12 n,
      ∃ d, baseDigit? 16 c = some d := fun c hc => (List.mem_append.mp hc).elim
    (fun hc => Option.isSome_iff_exists.mp (hstart c hc).2) baseDigit?_of_mem_hexText
  have hzeros : "00000000000040008000".toList ++ hexText 12 n =
      '0' :: '0' :: ("000000000040008000".toList ++ hexText 12 n) :=
    congrArg (· ++ hexText 12 n) (by decide : "00000000000040008000".toList =
      '0' :: '0' :: "000000000040008000".toList)
  have hlength : ("000000000040008000".toList ++ hexText 12 n).length + 2 = 32 := by
    rw [List.length_append, length_hexText]
    decide
  rw [hzeros] at hword hdigit
  obtain ⟨number, hlt, hread⟩ := exists_readHexInteger? hword hdigit
  have hbound : number < Nat.pow 2 128 := by
    calc number < 16 ^ 32 := hlength ▸ hlt
      _ = Nat.pow 2 128 := by decide
  have hcount : ('0' :: '0' :: ("000000000040008000".toList ++ hexText 12 n)).length = 32 := hlength
  rw [Identifier.ofText?, identifierDigits_identifier h, hzeros]
  simp only [if_pos hcount, hread, if_pos hbound, Option.isSome_some]

end ContentEngine
