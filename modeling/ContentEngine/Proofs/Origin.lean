import ContentEngine.Store.Basic
import Mathlib.Tactic.Common

/-!
# Identifiers are issued once

`Origin.identifier_injective`: different numbers have different identifiers, so an identifier that
is issued later than another is a different one.
-/

namespace ContentEngine

theorem length_hexText (width n : Nat) : (hexText width n).length = width := by
  induction width generalizing n with
  | zero => rfl
  | succ width ih => simp [hexText, ih]

private theorem hexDigit_inj :
    ∀ m < 16, ∀ n < 16, hexDigit m = hexDigit n → m = n := by
  decide

/-- Two numbers that fit into a width have different texts of that width. -/
theorem hexText_inj {width m n : Nat} (hm : m < Nat.pow 16 width) (hn : n < Nat.pow 16 width)
    (h : hexText width m = hexText width n) : m = n := by
  induction width generalizing m n with
  | zero =>
    have hone : Nat.pow 16 0 = 1 := rfl
    omega
  | succ width ih =>
    have hhalf : ∀ {k : Nat}, k < Nat.pow 16 (width + 1) → k / 16 < Nat.pow 16 width := fun hk =>
      Nat.div_lt_of_lt_mul (by rwa [Nat.mul_comm])
    obtain ⟨hhigh, hlow⟩ := List.append_inj' h rfl
    have hhigh := ih (hhalf hm) (hhalf hn) hhigh
    have hlow := hexDigit_inj _ (Nat.mod_lt m (by omega)) _ (Nat.mod_lt n (by omega))
      (List.singleton_inj.mp hlow)
    omega

/-- The digits that an identifier has are enough for its number. -/
private theorem lt_pow_width (n : Nat) : n < Nat.pow 16 (12 + n / Nat.pow 16 12) := by
  have hq : n / Nat.pow 16 12 < Nat.pow 16 (n / Nat.pow 16 12) := Nat.lt_pow_self (by omega)
  calc n < Nat.pow 16 12 * (n / Nat.pow 16 12 + 1) := Nat.lt_mul_div_succ n (by decide)
    _ ≤ Nat.pow 16 12 * Nat.pow 16 (n / Nat.pow 16 12) := Nat.mul_le_mul_left _ hq
    _ = Nat.pow 16 (12 + n / Nat.pow 16 12) := (Nat.pow_add 16 12 _).symm

theorem Origin.identifier_injective {m n : Nat}
    (h : Origin.identifier m = Origin.identifier n) : m = n := by
  have htext : hexText (12 + m / Nat.pow 16 12) m = hexText (12 + n / Nat.pow 16 12) n :=
    String.ofList_inj.mp (String.append_right_inj _ |>.mp h)
  have hwidth : 12 + m / Nat.pow 16 12 = 12 + n / Nat.pow 16 12 := by
    rw [← length_hexText (12 + m / Nat.pow 16 12) m, htext, length_hexText]
  have hm := lt_pow_width m
  rw [hwidth] at htext hm
  exact hexText_inj hm (lt_pow_width n) htext

end ContentEngine
