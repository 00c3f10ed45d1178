import Mathlib.Data.List.Basic
import ContentEngine.Json.Writer
import ContentEngine.Proofs.Json.Text

/-!
# Strings and numbers are read as they are written

The reader of strings takes back what `jsonChar` has made of each character, with an escape or
without one (`readString_written`). An integer is read up to its last digit if what follows does not
go on with the number (`readScalar_integer`).
-/

namespace ContentEngine

/-! ### Strings -/

/-- The last four hexadecimal digits of a control character spell its code. -/
theorem hexText_control :
    ∀ n < 32, hexText 4 n = ['0', '0', hexDigit (n / 16), hexDigit (n % 16)] ∧
      hexCode? '0' '0' (hexDigit (n / 16)) (hexDigit (n % 16)) = some n := by
  decide

/-- A character is read as it is written. -/
theorem readStringFrom_jsonChar (c : Char) (rest : List Char) :
    readStringFrom none (jsonChar c ++ rest) =
      (readStringFrom none rest).map fun (text, after) => (c :: text, after) := by
  unfold jsonChar
  split
  · next hquoted =>
    rcases hquoted with rfl | rfl <;> simp [readStringFrom, shortEscape?, lonePending]
  iterate 5
    split
    · next hescaped =>
      subst hescaped
      simp [readStringFrom, shortEscape?, lonePending]
  split
  · next hcontrol =>
    obtain ⟨hhex, hcode⟩ := hexText_control c.toNat hcontrol
    have hchar : charOfCode c.toNat = c := by
      rw [charOfCode, if_neg (by omega), Char.ofNat_toNat]
    have hstep : EscapeStep.of none c.toNat = ⟨[c], none⟩ := by
      rw [EscapeStep.of, if_neg (by omega), hchar]
    rw [hhex]
    simp only [List.cons_append, List.nil_append, readStringFrom, hcode, hstep]
  · next hquoted _ _ _ _ _ hcontrol =>
    rw [not_or] at hquoted
    rw [List.cons_append, List.nil_append, readStringFrom, if_neg hcontrol]
    · rfl
    · exact hquoted.1
    · exact fun _ _ _ _ _ heq => absurd heq hquoted.2
    · exact fun _ _ heq => absurd heq hquoted.2

/-- A string is read as it is written. -/
theorem readString_written (text : String) (rest : List Char) :
    readString (text.toList.flatMap jsonChar ++ '"' :: rest) = some (text, rest) := by
  have hchars (chars : List Char) :
      readStringFrom none (chars.flatMap jsonChar ++ '"' :: rest) = some (chars, rest) := by
    induction chars with
    | nil => simp [readStringFrom, lonePending]
    | cons c chars ih =>
      rw [List.flatMap_cons, List.append_assoc, readStringFrom_jsonChar, ih]
      rfl
  simp only [readString, hchars, Option.map_some, String.ofList_toList]

/-! ### Integers -/

/-- Whether a text does not go on with a number that stands before it. -/
def EndsNumber (rest : List Char) : Prop :=
  ∀ c ∈ rest.head?, isAsciiDigit c = false ∧ c ≠ '.' ∧ c ≠ 'e' ∧ c ≠ 'E'

theorem endsNumber_nil : EndsNumber [] := by
  simp [EndsNumber]

theorem endsNumber_cons {c : Char} (h : c = ',' ∨ c = ']' ∨ c = '\x7d') (rest : List Char) :
    EndsNumber (c :: rest) := by
  rcases h with rfl | rfl | rfl <;> simp [EndsNumber, isAsciiDigit]

/-- The digits of a number other than zero do not start with a zero. -/
theorem head?_digitText_ne {n : Nat} (hn : n ≠ 0) : (digitText n).head? ≠ some '0' := by
  induction n using Nat.strongRecOn with
  | ind n ih =>
    by_cases hsmall : n < 10
    · have hdigit : ∀ m < 10, m ≠ 0 → Nat.digitChar m ≠ '0' := by decide
      rw [digitText, Nat.toDigits_of_lt_base hsmall, List.head?_cons, ne_eq, Option.some.injEq]
      exact hdigit n hsmall hn
    · have hinit := ih (n / 10) (by omega) (by omega)
      rw [digitText] at hinit
      rw [digitText, Nat.toDigits_of_base_le (by decide) (by omega), List.head?_append]
      cases hhead : (Nat.toDigits 10 (n / 10)).head? with
      | none => exact absurd (List.head?_eq_none_iff.mp hhead) (digitText_ne_nil (n / 10))
      | some c =>
        rw [hhead] at hinit
        exact hinit

theorem takeWhole?_digitText (n : Nat) {rest : List Char} (h : EndsNumber rest) :
    takeWhole? (digitText n ++ rest) = some (digitText n, rest) := by
  have hdigits : ∀ c ∈ digitText n, isAsciiDigit c = true := fun _ hc =>
    isAsciiDigit_of_mem_digitText hc
  have hend : rest.takeWhile isAsciiDigit = [] ∧ rest.dropWhile isAsciiDigit = rest := by
    cases rest with
    | nil => exact ⟨rfl, rfl⟩
    | cons c rest =>
      have hc := (h c rfl).1
      simp [hc]
  by_cases hn : n = 0
  · subst hn
    rfl
  · have hhead := head?_digitText_ne hn
    cases htext : digitText n with
    | nil => exact absurd htext (digitText_ne_nil n)
    | cons c digits =>
      rw [htext] at hdigits hhead
      rw [List.forall_mem_cons] at hdigits
      have hc : c ≠ '0' := fun heq => hhead (by rw [List.head?_cons, heq])
      rw [List.cons_append, takeWhole?, if_neg hc, if_pos hdigits.1,
        List.takeWhile_append_of_pos hdigits.2, List.dropWhile_append_of_pos hdigits.2, hend.1,
        hend.2, List.append_nil]

/-- The digits of an integer are read up to the last one. -/
theorem readNumber_digitText {n : Nat} {rest : List Char} (negative : Bool)
    (hshort : (digitText n).length ≤ maxIntegerDigits) (h : EndsNumber rest) :
    readNumber maxIntegerDigits negative (digitText n ++ rest) =
      some (.int (signed negative n), rest) := by
  have hfraction : takeFraction? rest = none := by
    unfold takeFraction?
    split
    · exact absurd rfl (h _ rfl).2.1
    · rfl
  have hexponent : takeExponent? rest = none := by
    unfold takeExponent?
    split
    · next mark _ =>
      have hmark := (h mark rfl).2.2
      rw [if_neg (by simp [hmark])]
    · rfl
  rw [readNumber, takeWhole?_digitText n h]
  simp only [hfraction, hexponent, hshort, if_true, digitsValue_digitText]

/-- An integer as it is written. -/
def integerChars (n : Int) : List Char :=
  if n < 0 then '-' :: digitText n.natAbs else digitText n.natAbs

theorem integerText_eq {n : Int} (hshort : (Value.int n).IsShort) :
    integerText n = .ok (String.ofList (integerChars n)) := by
  have hlength : (digitText n.natAbs).length ≤ maxIntegerDigits := hshort
  rw [integerText, integerText?]
  simp only [hlength, if_true, integerChars]

/-- No text that starts with a digit starts with the name of a value. -/
theorem findSome?_namedValues {c : Char} (hc : isAsciiDigit c = true) (rest : List Char) :
    (namedValues.findSome? fun (word, value) => (dropPrefix? word (c :: rest)).map (value, ·)) =
        none ∧
      (namedValues.findSome? fun (word, value) =>
        (dropPrefix? word ('-' :: c :: rest)).map (value, ·)) = none := by
  have hne {d : Char} (hd : isAsciiDigit d = false) : ¬d = c := by
    rintro rfl
    simp [hd] at hc
  have hI : ¬ 'I' = c := hne rfl
  have hwords : ¬ 'n' = c ∧ ¬ 't' = c ∧ ¬ 'f' = c ∧ ¬ 'N' = c ∧ ¬ '-' = c :=
    ⟨hne rfl, hne rfl, hne rfl, hne rfl, hne rfl⟩
  constructor <;> simp [namedValues, dropPrefix?, hI, hwords]

/-- An integer is read as it is written. -/
theorem readScalar_integer {n : Int} {rest : List Char} (hshort : (Value.int n).IsShort)
    (h : EndsNumber rest) :
    readScalar maxIntegerDigits (integerChars n ++ rest) = some (.int n, rest) := by
  obtain ⟨c, digits, htext⟩ := List.exists_cons_of_ne_nil (digitText_ne_nil n.natAbs)
  have hc : isAsciiDigit c = true :=
    isAsciiDigit_of_mem_digitText (htext ▸ List.mem_cons_self)
  have hread (negative : Bool) : readNumber maxIntegerDigits negative (c :: (digits ++ rest)) =
      some (.int (signed negative n.natAbs), rest) := by
    rw [← List.cons_append, ← htext]
    exact readNumber_digitText negative hshort h
  have hnamed := findSome?_namedValues hc (digits ++ rest)
  rw [integerChars, htext]
  split
  · next hneg =>
    have hsigned : signed true n.natAbs = n := by
      rw [signed, if_pos rfl]
      omega
    rw [List.cons_append, List.cons_append, readScalar, hnamed.2]
    dsimp only
    rw [hread, hsigned]
  · next hpos =>
    have hsigned : signed false n.natAbs = n := by
      rw [signed, if_neg Bool.false_ne_true]
      omega
    have hdash : c ≠ '-' := by
      rintro rfl
      exact absurd hc (by decide)
    rw [List.cons_append, readScalar, hnamed.1]
    · dsimp only
      rw [hread, hsigned]
    · exact fun after heq => hdash (List.cons.inj heq).1

end ContentEngine
