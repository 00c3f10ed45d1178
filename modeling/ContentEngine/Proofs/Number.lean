import Mathlib.Data.Nat.Basic
import ContentEngine.Number.Reading

/-!
# Numbers that are read back

The decimal digits of a number denote the number (`digitsValue_digitText`).
-/

namespace ContentEngine

theorem digitText_ne_nil (n : Nat) : digitText n ≠ [] := by
  rw [digitText, Nat.toDigits_eq_if (by decide)]
  split <;> simp

theorem isAsciiDigit_of_mem_digitText {n : Nat} {c : Char} (h : c ∈ digitText n) :
    isAsciiDigit c = true := by
  have hdigit := Nat.isDigit_of_mem_toDigits (by decide) (by decide) h
  simpa [isAsciiDigit, Char.isDigit, Char.le_def] using hdigit

theorem digitsValue_append_singleton (digits : List Char) (c : Char) :
    digitsValue (digits ++ [c]) = 10 * digitsValue digits + (c.toNat - 48) := by
  simp [digitsValue]

theorem digitsValue_digitText (n : Nat) : digitsValue (digitText n) = n := by
  induction n using Nat.strongRecOn with
  | ind n ih =>
    by_cases hn : n < 10
    · have hlast := Nat.toNat_digitChar_of_lt_ten hn
      rw [digitText, Nat.toDigits_of_lt_base hn]
      simp only [digitsValue, List.foldl_cons, List.foldl_nil]
      omega
    · have hinit : digitsValue (Nat.toDigits 10 (n / 10)) = n / 10 := ih (n / 10) (by omega)
      have hlast := Nat.toNat_digitChar_of_lt_ten (Nat.mod_lt n (by decide : 10 > 0))
      rw [digitText, Nat.toDigits_of_base_le (by decide) (by omega), digitsValue_append_singleton,
        hinit]
      omega

end ContentEngine
