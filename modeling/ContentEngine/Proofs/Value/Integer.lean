import Mathlib.Algebra.Group.Nat.Defs
import ContentEngine.Proofs.Format.Canonical
import ContentEngine.Proofs.Outcome
import ContentEngine.Value.Number

/-!
# Texts that only look like integers

A value is asked for its integer without being one in general, and a text that is none is told from
one by its looks: dashes and then digits. Not every such text is an integer. The ones that are not
are `Value.IsMisleading`, and these are the only values whose integer is at fault
(`Value.hasResult_toInteger`).
-/

namespace ContentEngine

/-! ### The digits of a text in ASCII -/

/-- The characters of a literal are those that it is spelled with. -/
theorem toList_of_eq_ofList {text : String} {chars : List Char} (h : text = String.ofList chars) :
    text.toList = chars := by
  rw [h, String.toList_ofList]

theorem signDigits_avoid_blanks :
    (signDigits.all fun r => Nat.blt 127 r.first && blankRanges.all fun s =>
      Nat.blt s.last r.first || Nat.blt r.last s.first) = true := by
  -- the ranges are read off two literals, whose bytes need not be decoded
  rw [signDigits, CodeRanges.ofText, String.toList_append, toList_of_eq_ofList rfl,
    toList_of_eq_ofList rfl]
  decide +kernel

/-- A digit that stands for no place in a number is neither in ASCII nor blank. -/
theorem of_signDigits_contains {c : Char} (h : signDigits.contains c = true) :
    128 ≤ c.toNat ∧ isBlank c = false := by
  obtain ⟨r, hr, hrange⟩ := List.any_eq_true.mp h
  have havoid := List.all_eq_true.mp signDigits_avoid_blanks r hr
  simp only [Bool.and_eq_true, decide_eq_true_eq, Nat.blt_eq] at hrange havoid
  refine ⟨by omega, ?_⟩
  by_contra hblank
  obtain ⟨s, hs, hfirst, hlast⟩ := exists_blankRange (by simpa using hblank)
  have hdisjoint := List.all_eq_true.mp havoid.2 s hs
  simp only [Bool.or_eq_true, Nat.blt_eq] at hdisjoint
  omega

theorem asciiNumberChar_of_signDigits {c : Char} (h : signDigits.contains c = true)
    (hdecimal : isDecimalDigit c = false) : asciiNumberChar c = '?' := by
  obtain ⟨hcode, hblank⟩ := of_signDigits_contains h
  have hnone : digitValue? c = none := by simpa [isDecimalDigit] using hdecimal
  rw [asciiNumberChar, if_neg (by omega), hblank, if_neg Bool.false_ne_true, hnone]

theorem isAsciiDigit_asciiNumberChar {c : Char} (h : isDecimalDigit c = true) :
    isAsciiDigit (asciiNumberChar c) = true := by
  have hblank := Format.isBlank_of_isDecimalDigit h
  obtain ⟨d, hd⟩ := Option.isSome_iff_exists.mp h
  by_cases hcode : c.toNat < 128
  · rw [asciiNumberChar, if_pos hcode]
    rw [digitValue?, if_pos hcode] at hd
    split at hd
    · next hrange => simpa [isAsciiDigit] using hrange
    · contradiction
  · rw [asciiNumberChar, if_neg hcode, hblank, if_neg Bool.false_ne_true, hd]
    rw [digitValue?, if_neg hcode, Option.map_eq_some_iff] at hd
    obtain ⟨r, -, rfl⟩ := hd
    have hdigits : ∀ d < 10, isAsciiDigit (Char.ofNat (48 + d)) = true := by decide
    exact hdigits _ (Nat.mod_lt _ (by decide))

theorem isAsciiBlank_of_isWordChar {c : Char} (h : isWordChar c = true) :
    isAsciiBlank c = false := by
  simp only [isWordChar, isAsciiLower, isAsciiDigit, Bool.or_eq_true, Bool.and_eq_true,
    decide_eq_true_eq, Char.le_def, UInt32.le_iff_toNat_le] at h
  have hcode : 48 ≤ c.toNat := h.elim (fun h => Nat.le_trans (by decide) h.1) (·.1)
  have hspace : c ≠ ' ' := by
    rintro rfl
    exact absurd hcode (by decide)
  simp only [isAsciiBlank, Bool.or_eq_false_iff, Bool.and_eq_false_iff, decide_eq_false_iff_not,
    beq_eq_false_iff_ne]
  exact ⟨.inr (by omega), hspace⟩

theorem isAsciiBlank_of_isAsciiDigit {c : Char} (h : isAsciiDigit c = true) :
    isAsciiBlank c = false :=
  isAsciiBlank_of_isWordChar (by rw [isWordChar, h, Bool.or_true])

/-- Nothing is trimmed from dashes and digits. -/
theorem asciiNumber_eq_map {dashes : Nat} {digits : List Char}
    (h : ∀ c ∈ digits, isDecimalDigit c = true ∨ signDigits.contains c = true) :
    asciiNumber (List.replicate dashes '-' ++ digits) =
      List.replicate dashes '-' ++ digits.map asciiNumberChar := by
  have hmap : (List.replicate dashes '-' ++ digits).map asciiNumberChar =
      List.replicate dashes '-' ++ digits.map asciiNumberChar := by
    rw [List.map_append, List.map_replicate]
    rfl
  have hblank : ∀ c ∈ List.replicate dashes '-' ++ digits.map asciiNumberChar,
      isAsciiBlank c = false := by
    intro c hc
    rcases List.mem_append.mp hc with hc | hc
    · rw [List.eq_of_mem_replicate hc]
      decide
    · obtain ⟨d, hd, rfl⟩ := List.mem_map.mp hc
      cases hdecimal : isDecimalDigit d with
      | true => exact isAsciiBlank_of_isAsciiDigit (isAsciiDigit_asciiNumberChar hdecimal)
      | false =>
        rw [asciiNumberChar_of_signDigits ((h d hd).resolve_left (by simp [hdecimal])) hdecimal]
        decide
  rw [asciiNumber, hmap]
  exact trimBy_eq_self (fun c hc => hblank c (List.mem_of_mem_head? hc))
    fun c hc => hblank c (List.mem_of_getLast? hc)

/-! ### Reading digits -/

theorem baseDigit?_of_isAsciiDigit {c : Char} (h : isAsciiDigit c = true) :
    ∃ d, baseDigit? 10 c = some d := by
  have hall : ∀ n < 128, isAsciiDigit (Char.ofNat n) = true →
      (baseDigit? 10 (Char.ofNat n)).isSome = true := by decide +kernel
  exact Option.isSome_iff_exists.mp (ascii_induction
    (P := fun c => isAsciiDigit c = true → (baseDigit? 10 c).isSome = true) hall
    (toNat_lt_of_isAscii (.inr (.inr h))) h)

theorem lt_of_baseDigit? {base d : Nat} {c : Char} (h : baseDigit? base c = some d) : d < base := by
  rw [baseDigit?, Option.filter_eq_some_iff] at h
  exact of_decide_eq_true h.2

/-- Digits are read to their end and counted, and what they denote has no more digits than that. -/
theorem exists_readDigits {base : Nat} {digits : List Char}
    (h : ∀ c ∈ digits, ∃ d, baseDigit? base c = some d) {afterDigit : Bool}
    (hne : afterDigit = true ∨ digits ≠ []) (value count : Nat) :
    ∃ n < base ^ digits.length * (value + 1),
      readDigits base afterDigit value count digits = some (n, count + digits.length) := by
  induction digits generalizing afterDigit value count with
  | nil =>
    obtain rfl : afterDigit = true := hne.resolve_right (by simp)
    exact ⟨value, by simp, rfl⟩
  | cons c rest ih =>
    rw [List.forall_mem_cons] at h
    obtain ⟨d, hd⟩ := h.1
    obtain ⟨n, hlt, hn⟩ := ih h.2 (.inl rfl) (base * value + d) (count + 1)
    have hdigit : base * value + d + 1 ≤ base * (value + 1) := by
      have hbase := lt_of_baseDigit? hd
      rw [Nat.mul_succ]
      omega
    refine ⟨n, ?_, ?_⟩
    · calc n < base ^ rest.length * (base * value + d + 1) := hlt
        _ ≤ base ^ rest.length * (base * (value + 1)) := Nat.mul_le_mul_left _ hdigit
        _ = base ^ (c :: rest).length * (value + 1) := by
          rw [List.length_cons, Nat.pow_succ, Nat.mul_assoc]
    · simp only [readDigits, hd]
      rw [hn, List.length_cons, Nat.add_assoc, Nat.add_comm 1]

/-- Digits are read only up to a character that is neither a digit nor an underscore. -/
theorem readDigits_eq_none {text : List Char} {c : Char} (h : c ∈ text) (hc : c ≠ '_')
    (hdigit : baseDigit? 10 c = none) (afterDigit : Bool) (value count : Nat) :
    readDigits 10 afterDigit value count text = none := by
  induction text generalizing afterDigit value count with
  | nil => contradiction
  | cons d rest ih =>
    rw [readDigits]
    rcases List.mem_cons.mp h with rfl | hrest
    · simp [hdigit, hc]
    · split
      · exact ih hrest _ _ _
      · split
        · exact ih hrest _ _ _
        · rfl

theorem cutSign_of_head? {text : List Char} (h : ∀ c, text.head? = some c → c ≠ '-' ∧ c ≠ '+') :
    cutSign text = (false, text) := by
  unfold cutSign
  split
  · exact absurd rfl (h '-' rfl).1
  · exact absurd rfl (h '+' rfl).2
  · rfl

/-- The text of an integer has one dash at most, digits that stand for places in a number, and not
too many of them. -/
theorem isSome_readInteger?_iff {dashes : Nat} {digits : List Char}
    (hdigits : isDigitText digits = true) :
    (readInteger? (List.replicate dashes '-' ++ digits)).isSome = true ↔
      dashes ≤ 1 ∧ (∀ c ∈ digits, isDecimalDigit c = true) ∧
        digits.length ≤ maxIntegerDigits := by
  simp only [isDigitText, Bool.and_eq_true, Bool.not_eq_true', List.isEmpty_eq_false_iff,
    List.all_eq_true, Bool.or_eq_true] at hdigits
  obtain ⟨hne, hdigits⟩ := hdigits
  rw [readInteger?, asciiNumber_eq_map hdigits]
  by_cases hall : ∀ c ∈ digits, isDecimalDigit c = true
  · have hascii : ∀ c ∈ digits.map asciiNumberChar, isAsciiDigit c = true := by
      rw [List.forall_mem_map]
      exact fun c hc => isAsciiDigit_asciiNumberChar (hall c hc)
    have hsome : false = true ∨ digits.map asciiNumberChar ≠ [] := .inr (by simpa using hne)
    obtain ⟨n, -, hn⟩ :=
      exists_readDigits (fun c hc => baseDigit?_of_isAsciiDigit (hascii c hc)) hsome 0 0
    have hunsigned : cutSign (digits.map asciiNumberChar) =
        (false, digits.map asciiNumberChar) := by
      refine cutSign_of_head? fun c hc => ?_
      have hdigit := hascii c (List.mem_of_mem_head? hc)
      constructor <;> rintro rfl <;> contradiction
    match dashes with
    | 0 =>
      simp only [List.replicate_zero, List.nil_append, hunsigned, hn]
      split <;> simp_all
    | 1 =>
      simp only [List.replicate_one, List.singleton_append, cutSign, hn]
      split <;> simp_all
    | dashes + 2 =>
      have hdash : '-' ∈ '-' :: (List.replicate dashes '-' ++ digits.map asciiNumberChar) :=
        List.mem_cons_self
      have hnone := readDigits_eq_none hdash (by decide) (by decide) false 0 0
      simp [List.replicate_succ, cutSign, hnone]
  · refine iff_of_false ?_ fun h => hall h.2.1
    rw [not_forall] at hall
    obtain ⟨c, hc⟩ := hall
    rw [Classical.not_imp, Bool.not_eq_true] at hc
    have hsign := (hdigits c hc.1).resolve_left (by simp [hc.2])
    have hmem : '?' ∈ digits.map asciiNumberChar :=
      List.mem_map.mpr ⟨c, hc.1, asciiNumberChar_of_signDigits hsign hc.2⟩
    -- a sign is cut off the dashes, so that the question mark is met whatever else is
    have hcut : ∀ text : List Char, '?' ∈ text → '?' ∈ (cutSign text).2 := by
      intro text h
      unfold cutSign
      split <;> simp_all
    have hnone := readDigits_eq_none (hcut _ (List.mem_append_right (List.replicate dashes '-') hmem))
      (by decide) (by decide) false 0 0
    simp [hnone]

namespace Value

/-- Whether a value is a text that looks like an integer, being dashes and then digits, and is none:
there are several dashes, a digit stands for no place in a number, or there are too many. -/
def IsMisleading : Value → Prop
  | str s => ∃ dashes digits, trimBy isBlank s.toList = List.replicate dashes '-' ++ digits ∧
      isDigitText digits = true ∧
      (1 < dashes ∨ (∃ c ∈ digits, isDecimalDigit c = false) ∨ maxIntegerDigits < digits.length)
  | _ => False

theorem dash_notMem_of_isDigitText {digits : List Char} (h : isDigitText digits = true) :
    '-' ∉ digits := by
  intro hmem
  simp only [isDigitText, Bool.and_eq_true, List.all_eq_true, Bool.or_eq_true] at h
  rcases h.2 _ hmem with hdecimal | hsign
  · have hdash : isDecimalDigit '-' = false := by decide
    rw [hdecimal] at hdash
    contradiction
  · exact absurd (of_signDigits_contains hsign).1 (by decide)

/-- The dashes in front of digits and the digits are told apart. -/
theorem cut_dashes (dashes : Nat) {digits : List Char} (h : '-' ∉ digits) :
    (List.replicate dashes '-' ++ digits).takeWhile (· == '-') = List.replicate dashes '-' ∧
      (List.replicate dashes '-' ++ digits).dropWhile (· == '-') = digits := by
  have hdashes : ∀ c ∈ List.replicate dashes '-', (c == '-') = true := fun c hc =>
    beq_iff_eq.mpr (List.eq_of_mem_replicate hc)
  have hdigits : digits.dropWhile (· == '-') = digits := by
    refine dropWhile_of_head? fun c hc => ?_
    rw [beq_eq_false_iff_ne]
    rintro rfl
    exact h (List.mem_of_mem_head? hc)
  have hnone : digits.takeWhile (· == '-') = [] := by
    have hsplit := List.takeWhile_append_dropWhile (p := (· == '-')) (l := digits)
    rw [hdigits] at hsplit
    simpa using hsplit
  rw [List.takeWhile_append_of_pos hdashes, List.dropWhile_append_of_pos hdashes, hnone, hdigits,
    List.append_nil]
  exact ⟨rfl, rfl⟩

theorem exists_dashes (text : List Char) :
    ∃ dashes, text = List.replicate dashes '-' ++ text.dropWhile (· == '-') := by
  have hdashes : ∀ c ∈ text.takeWhile (· == '-'), c = '-' := by
    intro c hc
    have hall := List.all_takeWhile (p := (· == '-')) (l := text)
    exact beq_iff_eq.mp (List.all_eq_true.mp hall c hc)
  refine ⟨(text.takeWhile (· == '-')).length, ?_⟩
  rw [← List.eq_replicate_of_mem hdashes, List.takeWhile_append_dropWhile]

/-- A value has its integer, or has none, unless it is a misleading text. -/
theorem hasResult_toInteger {v : Value} : Outcome.HasResult v.toInteger ↔ ¬v.IsMisleading := by
  cases v with
  | str s =>
    simp only [toInteger, IsMisleading]
    generalize trimBy isBlank s.toList = text
    cases hlooks : isDigitText (text.dropWhile (· == '-')) with
    | false =>
      refine iff_of_true ⟨none, rfl⟩ ?_
      rintro ⟨dashes, digits, rfl, hdigits, -⟩
      rw [(cut_dashes dashes (dash_notMem_of_isDigitText hdigits)).2, hdigits] at hlooks
      contradiction
    | true =>
      have hdash := dash_notMem_of_isDigitText hlooks
      obtain ⟨dashes, hsplit⟩ := exists_dashes text
      generalize text.dropWhile (· == '-') = digits at hlooks hdash hsplit
      subst hsplit
      rw [if_pos rfl]
      have hread : (readInteger? (List.replicate dashes '-' ++ digits)).isSome = true ↔ _ :=
        isSome_readInteger?_iff hlooks
      refine (Iff.trans ?_ hread).trans ?_
      · cases readInteger? (List.replicate dashes '-' ++ digits) <;> simp
      constructor
      · rintro ⟨hone, hdecimal, hlength⟩ ⟨others, digits', heq, hdigits', hwrong⟩
        have hcut := cut_dashes others (dash_notMem_of_isDigitText hdigits')
        rw [← heq, (cut_dashes dashes hdash).1, (cut_dashes dashes hdash).2] at hcut
        obtain ⟨hsame, rfl⟩ := hcut
        have hdashes : dashes = others := by simpa using congrArg List.length hsame
        rcases hwrong with h | ⟨c, hc, h⟩ | h
        · omega
        · rw [hdecimal c hc] at h
          contradiction
        · omega
      · intro hclear
        refine ⟨?_, fun c hc => ?_, ?_⟩ <;> by_contra hwrong
        · exact hclear ⟨dashes, digits, rfl, hlooks, .inl (by omega)⟩
        · exact hclear ⟨dashes, digits, rfl, hlooks, .inr (.inl ⟨c, hc, by simpa using hwrong⟩)⟩
        · exact hclear ⟨dashes, digits, rfl, hlooks, .inr (.inr (by omega))⟩
  | _ => simp [toInteger, IsMisleading]

end Value

end ContentEngine
