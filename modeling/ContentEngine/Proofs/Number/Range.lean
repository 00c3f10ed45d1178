import Mathlib
import ContentEngine.Number.Reading
import ContentEngine.Proofs.Number

/-!
# The integers that have a double

The double nearest to an integer is found by rounding to 53 bits, half to even, and it is infinite
if rounding leads out of the range of doubles. The greatest double is `2 ^ 1024 - 2 ^ 971`, so that
an integer is in range exactly if it lies closer to that one than to `2 ^ 1024`
(`isFiniteFloat_floatOfInt`).
-/

namespace ContentEngine

open Float.Model Float.Model.UnpackedFloat

/-! ### Packing -/

/-- Whether an unpacked double is a number whose exponent has a bound. -/
def ExponentAtMost (bound : Int) : UnpackedFloat → Prop
  | .zero _ => True
  | .finite _ _ e _ => e ≤ bound
  | _ => False

theorem bias_binary64 (e : Int) : e + Format.binary64.exponentBias + (52 : Nat) = e + 1075 :=
  Int.add_assoc e 1023 52

theorem isFinite_ofBits {bits : Nat} :
    (BinaryValue.ofBits bits).isFinite = true ↔ bits / 2 ^ 52 % 2 ^ 11 ≠ 2047 := by
  simp only [BinaryValue.ofBits, Nat.pow_eq]
  split
  · next h => split <;> simp [BinaryValue.isFinite, h]
  · next h => split <;> simp [BinaryValue.isFinite, h]

/-- The exponent of a double as it is packed. The greatest one is kept for what is no number. -/
def packedExponent (x : Float.Model) : Nat :=
  (@unpackExponent .binary64 x.toBits.toBitVec).toNat

theorem isFiniteFloat_iff {x : Float.Model} :
    isFiniteFloat (.ofModel x) = true ↔ packedExponent x < 2047 := by
  have hlt : packedExponent x < 2 ^ 11 := BitVec.isLt _
  have hfield : packedExponent x = x.toBits.toNat / 2 ^ 52 % 2 ^ 11 := by
    simp [packedExponent, unpackExponent, Nat.shiftRight_eq_div_pow]
  have hread : isFiniteFloat (.ofModel x) = true ↔ x.toBits.toNat / 2 ^ 52 % 2 ^ 11 ≠ 2047 :=
    isFinite_ofBits
  rw [hread, ← hfield]
  omega

/-- A number is packed under an exponent that is no greater than its own. -/
theorem packedExponent_pack_le {u : UnpackedFloat} {bound : Int} (h : ExponentAtMost bound u)
    (hbound : bound ≤ 971) : packedExponent (Float.Model.pack u) ≤ (bound + 1075).toNat := by
  have hpack : packedExponent (Float.Model.pack u) =
      (unpackExponent (u.pack .binary64)).toNat := rfl
  rw [hpack]
  cases u with
  | notANumber | infinity s => cases h
  | zero s => simp [UnpackedFloat.pack, packedZero, unpackExponent_packComponents]
  | finite s m e hm =>
    have he : e ≤ bound := h
    have hsmall : ¬2 ^ 11 ≤ (e + 1075).toNat + 1 := by omega
    simp only [UnpackedFloat.pack, bias_binary64]
    rw [if_neg hsmall]
    split <;> rw [unpackExponent_packComponents]
    · rw [BitVec.toNat_ofNat]
      exact (Nat.mod_le _ _).trans (by omega)
    · exact Nat.zero_le _

/-- What is no number, or a number out of range, is packed as no number. -/
theorem packedExponent_pack_of_not {u : UnpackedFloat} (h : ¬ExponentAtMost 971 u) :
    packedExponent (Float.Model.pack u) = 2047 := by
  have hpack : packedExponent (Float.Model.pack u) =
      (unpackExponent (u.pack .binary64)).toNat := rfl
  rw [hpack]
  cases u with
  | notANumber => rw [UnpackedFloat.pack, packedNaN, unpackExponent_packComponents]; rfl
  | infinity s => rw [UnpackedFloat.pack, packedInfinity, unpackExponent_packComponents]; rfl
  | zero s => exact absurd trivial h
  | finite s m e hm =>
    have he : ¬e ≤ 971 := h
    have hlarge : 2 ^ 11 ≤ (e + 1075).toNat + 1 := by omega
    simp only [UnpackedFloat.pack, bias_binary64]
    rw [if_pos hlarge, packedInfinity, unpackExponent_packComponents]
    rfl

theorem isFiniteFloat_pack {u : UnpackedFloat} :
    isFiniteFloat (.ofModel (Float.Model.pack u)) = true ↔ ExponentAtMost 971 u := by
  rw [isFiniteFloat_iff]
  by_cases h : ExponentAtMost 971 u
  · exact iff_of_true ((packedExponent_pack_le h le_rfl).trans_lt (by decide)) h
  · rw [packedExponent_pack_of_not h]
    exact iff_of_false (lt_irrefl _) h

/-- A number is unpacked to a mantissa of 53 bits, with the exponent that it is packed under. -/
theorem unpack_spec {x : Float.Model} {bound : Int} (hleast : -1074 ≤ bound) (hbound : bound ≤ 971)
    (h : packedExponent x ≤ (bound + 1075).toNat) :
    ExponentAtMost bound x.unpack ∧ ∀ s m e hm, x.unpack = .finite s m e hm → m < 2 ^ 53 := by
  rw [packedExponent] at h
  simp only [Float.Model.unpack, UnpackedFloat.unpack, ← sub_sub]
  generalize @unpackExponent .binary64 x.toBits.toBitVec = exponent at h ⊢
  have hbias : (exponent.toNat : Int) - Format.binary64.exponentBias - (52 : Nat) =
      exponent.toNat - 1075 := Int.sub_sub ..
  have hnumber : exponent ≠ -1#11 := by
    rintro rfl
    have h : 2047 ≤ (bound + 1075).toNat := h
    omega
  have hmantissa : (@unpackMantissa .binary64 x.toBits.toBitVec).toNat < 2 ^ 52 :=
    BitVec.isLt _
  rw [if_neg hnumber]
  split
  · next hzero =>
    have hzero : exponent.toNat = 0 := congrArg BitVec.toNat hzero
    split
    · exact ⟨trivial, by simp⟩
    · simp only [ExponentAtMost, hbias, UnpackedFloat.finite.injEq]
      refine ⟨by omega, ?_⟩
      rintro _ _ _ _ ⟨-, rfl, -⟩
      omega
  · simp only [ExponentAtMost, hbias, UnpackedFloat.finite.injEq]
    refine ⟨by omega, ?_⟩
    rintro _ _ _ _ ⟨-, rfl, -⟩
    exact BitVec.isLt _

/-- Packing and unpacking keep a bound on the exponent. -/
theorem unpack_pack_spec {u : UnpackedFloat} {bound : Int} (hleast : -1074 ≤ bound)
    (hbound : bound ≤ 971) (h : ExponentAtMost bound u) :
    ExponentAtMost bound (Float.Model.pack u).unpack ∧
      ∀ s m e hm, (Float.Model.pack u).unpack = .finite s m e hm → m < 2 ^ 53 :=
  unpack_spec hleast hbound (packedExponent_pack_le h hbound)

/-- Whether a double is a number is seen from what it is unpacked to. -/
theorem exponentAtMost_unpack {x : Float.Model} :
    ExponentAtMost 971 x.unpack ↔ isFiniteFloat (.ofModel x) = true := by
  rw [isFiniteFloat_iff]
  by_cases hlt : packedExponent x < 2047
  · exact iff_of_true (unpack_spec (by decide) le_rfl (Nat.le_of_lt_succ hlt)).1 hlt
  · refine iff_of_false ?_ hlt
    have hlast : @unpackExponent .binary64 x.toBits.toBitVec = -1#11 := by
      have hpacked : packedExponent x < 2 ^ 11 := BitVec.isLt _
      exact BitVec.toNat_inj.mp (by omega : packedExponent x = 2047)
    simp only [Float.Model.unpack, UnpackedFloat.unpack]
    rw [if_pos hlast]
    split <;> exact id

theorem isFiniteFloat_neg (x : Float) : isFiniteFloat (-x) = isFiniteFloat x := by
  have hneg : -x = .ofModel (Float.Model.pack x.toModel.unpack.neg) := rfl
  rw [Bool.eq_iff_iff, hneg, isFiniteFloat_pack, ← exponentAtMost_unpack]
  cases x.toModel.unpack <;> rfl

/-! ### Rounding -/

theorem targetExponent_binary64 (m : Nat) (e : Int) :
    Format.binary64.targetExponent (totalExponent m e) = max (m.log2 + e - 52) (-1074) := by
  have htarget : Format.binary64.targetExponent (totalExponent m e) =
      max (m.log2 + 1 + e - 53) (-1074) := rfl
  rw [htarget]
  omega

/-- What a mantissa is shifted to: its whole part, the bit after it, and whether there is anything
behind that bit. -/
theorem shiftRight_exact (m k : Nat) :
    ExtendedMantissa.mk m false false >>> (k + 1) =
      ⟨m / 2 ^ (k + 1), m / 2 ^ k % 2 != 0, m % 2 ^ k != 0⟩ := by
  induction k with
  | zero => simp [HShiftRight.hShiftRight, Nat.repeat, ExtendedMantissa.shiftRightOne, Nat.mod_one]
  | succ k ih =>
    have hstep : ExtendedMantissa.mk m false false >>> (k + 1 + 1) =
        (ExtendedMantissa.mk m false false >>> (k + 1)).shiftRightOne := rfl
    have hrest : m % 2 ^ (k + 1) = m / 2 ^ k % 2 * 2 ^ k + m % 2 ^ k := by
      rw [Nat.pow_succ, Nat.mod_mul, Nat.mul_comm (m / 2 ^ k % 2), Nat.add_comm]
    have hpos : 0 < 2 ^ k := Nat.two_pow_pos k
    have hsticky : (m / 2 ^ k % 2 != 0 || m % 2 ^ k != 0) = (m % 2 ^ (k + 1) != 0) := by
      rw [hrest, Bool.eq_iff_iff]
      simp only [Bool.or_eq_true, bne_iff_ne, ne_eq, Nat.add_eq_zero_iff, Nat.mul_eq_zero]
      omega
    rw [hstep, ih, ExtendedMantissa.shiftRightOne, hsticky, Nat.div_div_eq_div_mul, ← Nat.pow_succ]

theorem mantissa_shiftRight (m k : Nat) :
    (ExtendedMantissa.mk m false false >>> k).mantissa = m / 2 ^ k := by
  cases k with
  | zero => simp [HShiftRight.hShiftRight, Nat.repeat]
  | succ k => rw [shiftRight_exact]

/-- The mantissa that is left when one is shifted and rounded, half to even. -/
def roundedShift (m k : Nat) : Nat :=
  (ExtendedMantissa.mk m false false >>> k).roundedMantissa

/-- A mantissa is rounded down or up. -/
theorem roundedShift_mem (m k : Nat) :
    roundedShift m k = m / 2 ^ k ∨ roundedShift m k = m / 2 ^ k + 1 := by
  rw [← mantissa_shiftRight, roundedShift]
  obtain ⟨m, round, sticky⟩ := ExtendedMantissa.mk m false false >>> k
  cases round <;> cases sticky <;>
    simp [ExtendedMantissa.roundedMantissa, ExtendedMantissa.accuracy,
      Accuracy.roundToNearestEven]
  omega

/-- An odd whole part is rounded up exactly if at least one half follows. -/
theorem roundedShift_eq_succ_iff {m k : Nat} (hodd : m / 2 ^ (k + 1) % 2 = 1) :
    roundedShift m (k + 1) = m / 2 ^ (k + 1) + 1 ↔ m / 2 ^ k % 2 = 1 := by
  rw [roundedShift, shiftRight_exact]
  cases hround : m / 2 ^ k % 2 != 0 <;> cases m % 2 ^ k != 0 <;>
    simp [ExtendedMantissa.roundedMantissa, ExtendedMantissa.accuracy,
      Accuracy.roundToNearestEven] <;> simp at hround <;> omega

/-- How far a mantissa is shifted so that 53 bits are left of it. -/
def roundingShift (m : Nat) (e : Int) : Nat :=
  (max (m.log2 + e - 52) (-1074) - e).toNat

/-- A number is shifted and rounded, and then shifted once more, since rounding up may have given it
one more bit. -/
theorem roundWithAccuracy_exact (s : Sign) (m : Nat) (e : Int) {k r k' : Nat}
    (hk : k = roundingShift m e) (hr : r = roundedShift m k) (hk' : k' = roundingShift r (e + k)) :
    roundWithAccuracy .binary64 s m e .exact =
      if h : r / 2 ^ k' = 0 then .zero s
      else .finite s (r / 2 ^ k') (e + k + k') (Nat.pos_of_ne_zero h) := by
  have hfirst : shiftToTargetExponent .binary64 m e .exact =
      (ExtendedMantissa.mk m false false >>> k, e + k) := by
    rw [shiftToTargetExponent, targetExponent_binary64, shiftToExponent, hk, roundingShift]
    rfl
  have hsecond : shiftToTargetExponent .binary64 r (e + k) .exact =
      (ExtendedMantissa.mk r false false >>> k', e + k + k') := by
    rw [shiftToTargetExponent, targetExponent_binary64, shiftToExponent, hk', roundingShift]
    rfl
  have hrounded : (ExtendedMantissa.mk m false false >>> k).roundedMantissa = r := hr.symm
  simp only [roundWithAccuracy, hfirst, hrounded, hsecond, mantissa_shiftRight]

/-- What is left of a mantissa has 53 bits, or it is the power of two above them. -/
theorem roundedShift_le {m k : Nat} (h : m.log2 ≤ k + 52) : roundedShift m k ≤ 2 ^ 53 := by
  have hlt : m < 2 ^ (k + 53) :=
    Nat.lt_log2_self.trans_le (Nat.pow_le_pow_right (by decide) (by omega))
  have hdiv : m / 2 ^ k < 2 ^ 53 := Nat.div_lt_of_lt_mul (by rwa [← Nat.pow_add])
  have hmem := roundedShift_mem m k
  omega

theorem log2_le_of_le {r : Nat} (h : r ≤ 2 ^ 53) : r.log2 ≤ 53 := by
  by_cases hr : r = 0
  · simp [hr]
  · exact Nat.lt_succ_iff.mp ((Nat.log2_lt hr).mpr (h.trans_lt (by decide)))

/-- Rounding adds one to an exponent at most. -/
theorem exponentAtMost_round {s : Sign} {m : Nat} {e bound : Int} (hleast : -1074 < bound)
    (he : e < bound) (hm : m.log2 + e ≤ bound + 51) :
    ExponentAtMost bound (roundWithAccuracy .binary64 s m e .exact) := by
  have hr : roundedShift m (roundingShift m e) ≤ 2 ^ 53 :=
    roundedShift_le (by rw [roundingShift]; omega)
  have hlog := log2_le_of_le hr
  rw [roundWithAccuracy_exact s m e rfl rfl rfl]
  split
  · trivial
  · rw [ExponentAtMost, roundingShift, roundingShift]
    rw [roundingShift] at hlog
    omega

theorem log2_mul_two_pow {m : Nat} (hm : m ≠ 0) (k : Nat) : (m * 2 ^ k).log2 = m.log2 + k := by
  have hpos : 0 < 2 ^ k := Nat.two_pow_pos k
  rw [Nat.log2_eq_iff (Nat.mul_ne_zero hm hpos.ne'), Nat.pow_add, Nat.add_right_comm, Nat.pow_add]
  exact ⟨Nat.mul_le_mul_right _ (Nat.log2_self_le hm),
    Nat.mul_lt_mul_of_pos_right Nat.lt_log2_self hpos⟩

/-- The exponent of an integer of more than 53 bits: all but 53 of them are lost, and one bit more
if rounding carries. -/
theorem exponentAtMost_round_iff_carry {s : Sign} {m : Nat} {bound : Int} (hm : 2 ^ 53 ≤ m) :
    ExponentAtMost bound (roundWithAccuracy .binary64 s (m * 2 ^ 53) (-53) .exact) ↔
      m.log2 - 52 + (if roundedShift (m * 2 ^ 53) (m.log2 + 1) = 2 ^ 53 then 1 else 0) ≤ bound := by
  have hpos : m ≠ 0 := by
    rintro rfl
    contradiction
  have hlog : (m * 2 ^ 53).log2 = m.log2 + 53 := log2_mul_two_pow hpos 53
  have hleast : 53 ≤ m.log2 := (Nat.le_log2 hpos).mpr hm
  have hk : roundingShift (m * 2 ^ 53) (-53) = m.log2 + 1 := by
    rw [roundingShift, hlog]
    omega
  have hle : roundedShift (m * 2 ^ 53) (m.log2 + 1) ≤ 2 ^ 53 := roundedShift_le (by omega)
  have hge : 2 ^ 52 ≤ roundedShift (m * 2 ^ 53) (m.log2 + 1) := by
    have hwhole : 2 ^ 52 ≤ m * 2 ^ 53 / 2 ^ (m.log2 + 1) := by
      rw [Nat.le_div_iff_mul_le (Nat.two_pow_pos _), Nat.pow_succ 2 m.log2, Nat.mul_comm (2 ^ _) 2,
        ← Nat.mul_assoc, Nat.mul_comm (2 ^ 52 * 2)]
      exact Nat.mul_le_mul_right _ (Nat.log2_self_le hpos)
    have hmem := roundedShift_mem (m * 2 ^ 53) (m.log2 + 1)
    omega
  rw [roundWithAccuracy_exact s _ _ hk.symm rfl rfl]
  generalize roundedShift (m * 2 ^ 53) (m.log2 + 1) = r at hle hge ⊢
  have hcarry : roundingShift r (-53 + (m.log2 + 1 : Nat)) = if r = 2 ^ 53 then 1 else 0 := by
    have hbits : r.log2 = if r = 2 ^ 53 then 53 else 52 := by
      split
      · next h => rw [h, Nat.log2_two_pow]
      · exact (Nat.log2_eq_iff (by omega)).mpr ⟨hge, by omega⟩
    rw [roundingShift, hbits]
    split <;> omega
  have hleft : ¬r / 2 ^ (if r = 2 ^ 53 then 1 else 0) = 0 := by split <;> omega
  rw [hcarry, dif_neg hleft, ExponentAtMost]
  split <;> omega

/-- Rounding carries exactly if the first 54 bits of an integer are set. -/
theorem roundedShift_eq_iff {m n : Nat} (hm : m < 2 ^ (n + 54)) :
    roundedShift (m * 2 ^ 53) (n + 54) = 2 ^ 53 ↔ 2 ^ 54 - 1 ≤ m / 2 ^ n := by
  have hdiv (k : Nat) : m * 2 ^ 53 / 2 ^ (k + 53) = m / 2 ^ k := by
    rw [Nat.pow_add, Nat.mul_div_mul_right _ _ (Nat.two_pow_pos 53)]
  have hwhole : m * 2 ^ 53 / 2 ^ (n + 54) = m / 2 ^ n / 2 := by
    rw [Nat.div_div_eq_div_mul]
    exact hdiv (n + 1)
  have hlt : m / 2 ^ n < 2 ^ 54 := Nat.div_lt_of_lt_mul (by rwa [← Nat.pow_add])
  have hmem := roundedShift_mem (m * 2 ^ 53) (n + 54)
  have hup := @roundedShift_eq_succ_iff (m * 2 ^ 53) (n + 53)
  rw [hwhole] at hmem
  rw [show n + 53 + 1 = n + 54 from rfl, hwhole, hdiv n] at hup
  generalize m / 2 ^ n = bits at hmem hup hlt ⊢
  generalize roundedShift (m * 2 ^ 53) (n + 54) = r at hmem hup ⊢
  omega

/-- An integer of more than 53 bits is in the range of doubles with `n + 54` bits exactly if it has
no more bits than them, and not all of the first 54 are set. -/
theorem exponentAtMost_round_iff {s : Sign} {m n : Nat} (hm : 2 ^ 53 ≤ m) :
    ExponentAtMost (n + 1) (roundWithAccuracy .binary64 s (m * 2 ^ 53) (-53) .exact) ↔
      m < (2 ^ 54 - 1) * 2 ^ n := by
  have hpos : m ≠ 0 := by
    rintro rfl
    contradiction
  rw [exponentAtMost_round_iff_carry hm, ← Nat.div_lt_iff_lt_mul (Nat.two_pow_pos n)]
  rcases Nat.lt_trichotomy m.log2 (n + 53) with hless | heq | hmore
  · have hlt : m / 2 ^ n < 2 ^ 53 :=
      Nat.div_lt_of_lt_mul (by rw [← Nat.pow_add]; exact (Nat.log2_lt hpos).mp hless)
    exact iff_of_true (by split <;> omega) (hlt.trans (by decide))
  · have hlt : m < 2 ^ (n + 54) := (Nat.log2_lt hpos).mp (by omega)
    have hcarry : roundedShift (m * 2 ^ 53) (m.log2 + 1) = 2 ^ 53 ↔ 2 ^ 54 - 1 ≤ m / 2 ^ n := by
      rw [heq]
      exact roundedShift_eq_iff hlt
    rw [← not_le, ← hcarry]
    split <;> omega
  · have hge : 2 ^ 54 ≤ m / 2 ^ n := by
      rw [Nat.le_div_iff_mul_le (Nat.two_pow_pos n), ← Nat.pow_add, Nat.add_comm]
      exact (Nat.le_log2 hpos).mp hmore
    exact iff_of_false (by split <;> omega) (by omega)

/-! ### Converting -/

/-- The least integer that has no double. It lies halfway between the greatest double and
`2 ^ 1024`, and a tie is rounded away from the greatest double. -/
def overflowBound : Nat :=
  (2 ^ 54 - 1) * 2 ^ 970

theorem lt_overflowBound : 2 ^ 53 < overflowBound :=
  have hgreat (k : Nat) : 2 ^ 53 < (2 ^ 54 - 1) * 2 ^ k :=
    Nat.lt_of_lt_of_le (by decide) (Nat.le_mul_of_pos_right _ (Nat.two_pow_pos k))
  hgreat 970

/-- A number of 93 bits has 28 digits at most, and one of `n` times as many bits has no more than
`n` times as many digits. -/
theorem two_pow_mul_lt {a b n digits : Nat} (hbits : a + b = 93 * n + 1)
    (hdigits : digits = 28 * n + 1) : 2 ^ a * 2 ^ b < 10 ^ digits := by
  rw [← Nat.pow_add, hbits, hdigits, Nat.pow_succ', Nat.pow_succ', Nat.pow_mul, Nat.pow_mul]
  exact Nat.mul_lt_mul_of_lt_of_le (by decide) (Nat.pow_le_pow_left (by decide) n)
    (Nat.pow_pos (by decide))

theorem overflowBound_lt : overflowBound < 10 ^ 309 := by
  rw [overflowBound]
  refine Nat.lt_of_le_of_lt (Nat.mul_le_mul_right _ ?_) (@two_pow_mul_lt 54 970 11 309 rfl rfl)
  decide

theorem isFiniteFloat_ofScientific_large {m : Nat} (hm : 2 ^ 53 ≤ m) :
    isFiniteFloat (.ofModel (Float.Model.ofScientific m 0)) = true ↔ m < overflowBound := by
  have hpos : m ≠ 0 := by
    rintro rfl
    contradiction
  have hbits : (2 : Int) ^ Format.binary64.exponentBits = 2048 := rfl
  have hround : UnpackedFloat.ofScientific .binary64 m 0 =
      roundWithAccuracy .binary64 .positive (m * 2 ^ 53) (-53) .exact := by
    rw [UnpackedFloat.ofScientific, dif_neg hpos, hbits, if_neg (by decide), if_neg (by omega),
      if_pos le_rfl, UnpackedFloat.mul, Int.toNat_zero, Nat.pow_zero, Nat.mul_one, Nat.shiftLeft_eq]
    rfl
  rw [Float.Model.ofScientific, isFiniteFloat_pack, hround]
  exact exponentAtMost_round_iff hm

/-- An integer of 64 bits has a double, which is far below the greatest one. -/
theorem exponentAtMost_ofUInt64 (n : UInt64) :
    ExponentAtMost 12 (UnpackedFloat.ofUInt64 .binary64 n) := by
  rw [UnpackedFloat.ofUInt64, UnpackedFloat.ofNat, UnpackedFloat.ofInt, UnpackedFloat.normalize]
  split
  · next h =>
    have h : (n.toNat : Int) < 0 := compare_lt_iff_lt.mp h
    omega
  · trivial
  · next h =>
    have hpos : (0 : Int) < n.toNat := compare_gt_iff_gt.mp h
    have hsize : n.toNat < 2 ^ 64 := n.toBitVec.isLt
    have hlog : n.toNat.log2 < 64 := (Nat.log2_lt (by omega)).mpr hsize
    simp only [UnpackedFloat.round, UnpackedFloat.decreaseExponent, Int.toNat_natCast,
      Nat.shiftLeft_eq]
    refine exponentAtMost_round (by decide) (by omega) ?_
    rw [log2_mul_two_pow (by omega)]
    omega

theorem isFiniteFloat_toFloat_mul (n : UInt64) {power : Float}
    (hpower : power.toModel.unpack = .finite .positive (2 ^ 52) (-52) (by decide)) :
    isFiniteFloat (n.toFloat * power) = true := by
  have hmul : n.toFloat * power = .ofModel (Float.Model.pack
      (UnpackedFloat.mul .binary64 (Float.Model.pack (.ofUInt64 .binary64 n)).unpack
        power.toModel.unpack)) := rfl
  obtain ⟨hexponent, hmantissa⟩ :=
    unpack_pack_spec (by decide) (by decide) (exponentAtMost_ofUInt64 n)
  rw [hmul, hpower, isFiniteFloat_pack]
  generalize (Float.Model.pack (.ofUInt64 .binary64 n)).unpack = u at hexponent hmantissa ⊢
  cases u with
  | notANumber | infinity s => cases hexponent
  | zero s => trivial
  | finite s m e hm =>
    have he : e ≤ 12 := hexponent
    have hlog : (m * 2 ^ 52).log2 = m.log2 + 52 := log2_mul_two_pow hm.ne' 52
    have hle : m.log2 ≤ 53 := log2_le_of_le (hmantissa s m e hm rfl).le
    rw [UnpackedFloat.mul]
    exact exponentAtMost_round (by decide) (by omega) (by omega)

theorem unpack_one : Float.exactlyRepresentablePowersOfTen[0].toModel.unpack =
    .finite .positive (2 ^ 52) (-52) (by decide) := by
  rfl

theorem isFiniteFloat_ofScientific (m : Nat) :
    isFiniteFloat (Float.ofScientific m false 0) = true ↔ m < overflowBound := by
  rcases Nat.lt_or_ge m (2 ^ 53) with hsmall | hlarge
  · refine iff_of_true ?_ (hsmall.trans lt_overflowBound)
    rw [Float.ofScientific, dif_pos ⟨hsmall, by decide⟩]
    exact isFiniteFloat_toFloat_mul _ unpack_one
  · rw [Float.ofScientific, dif_neg fun h => absurd h.1 (not_lt_of_ge hlarge)]
    exact isFiniteFloat_ofScientific_large hlarge

theorem length_digitText_le {m k : Nat} (hk : 0 < k) (h : m < 10 ^ k) :
    (digitText m).length ≤ k :=
  (Nat.length_toDigits_le_iff (by decide) hk).mpr h

theorem overflowBound_le_of_digits {m : Nat} (h : 309 < (digitText m).length) :
    overflowBound ≤ m :=
  overflowBound_lt.le.trans
    (not_lt.mp fun hpow => not_le_of_gt h (length_digitText_le (by decide) hpow))

theorem isFiniteFloat_nearestFloat (m : Nat) :
    isFiniteFloat (nearestFloat false m 0) = true ↔ m < overflowBound := by
  rw [nearestFloat]
  simp only [Int.zero_add, Bool.false_eq_true, if_false, lt_irrefl, decide_false, Int.natAbs_zero]
  split
  · next h =>
    have hzero : m = 0 := h.resolve_right (by omega)
    exact iff_of_true rfl (hzero ▸ Nat.zero_lt_of_lt lt_overflowBound)
  · split
    · next h => exact iff_of_false nofun (not_lt_of_ge (overflowBound_le_of_digits (by omega)))
    · exact isFiniteFloat_ofScientific m

/-- The integers that have a double are those that lie closer to a double than to `± 2 ^ 1024`. -/
theorem isFiniteFloat_floatOfInt (n : Int) :
    isFiniteFloat (floatOfInt n) = true ↔ n.natAbs < overflowBound := by
  rw [← isFiniteFloat_nearestFloat, floatOfInt]
  cases decide (n < 0)
  · rfl
  · have hneg : nearestFloat true n.natAbs 0 = -nearestFloat false n.natAbs 0 := rfl
    rw [hneg, isFiniteFloat_neg]

/-! ### Converting back -/

theorem BinaryValue.finite_bounds {x : Float} {negative : Bool} {mantissa : Nat} {exponent : Int}
    (h : ofFloat x = .finite negative mantissa exponent) : mantissa < 2 ^ 53 ∧ exponent ≤ 971 := by
  simp only [ofFloat, ofBits, Nat.pow_eq] at h
  split at h
  · split at h <;> cases h
  · split at h <;> cases h <;> omega

theorem BinaryValue.natAbs_lt_of_toInt? {negative : Bool} {mantissa k : Nat} {exponent n : Int}
    (hmantissa : mantissa < 2 ^ 53) (hexponent : exponent ≤ k)
    (h : toInt? (.finite negative mantissa exponent) = some n) : n.natAbs < 2 ^ 53 * 2 ^ k := by
  obtain ⟨size, hsize, hn⟩ := Option.map_eq_some_iff.mp h
  obtain ⟨magnitude, hmagnitude, hsize⟩ := Option.bind_eq_some_iff.mp hsize
  have habs : n.natAbs = magnitude := by
    rw [← hn, ← Option.some.inj hsize]
    split <;> simp
  rw [habs]
  simp only [Nat.pow_eq] at hmagnitude
  split at hmagnitude
  · rw [← Option.some.inj hmagnitude]
    calc mantissa * 2 ^ exponent.toNat ≤ mantissa * 2 ^ k :=
          Nat.mul_le_mul_left _ (Nat.pow_le_pow_right (by decide) (by omega))
      _ < 2 ^ 53 * 2 ^ k := (Nat.mul_lt_mul_right (Nat.two_pow_pos k)).mpr hmantissa
  · split at hmagnitude
    · rw [← Option.some.inj hmagnitude]
      calc mantissa / 2 ^ (-exponent).toNat ≤ mantissa := Nat.div_le_self _ _
        _ < 2 ^ 53 := hmantissa
        _ ≤ 2 ^ 53 * 2 ^ k := Nat.le_mul_of_pos_right _ (Nat.two_pow_pos k)
    · cases hmagnitude

/-- A double that is an integer has 309 digits at most. -/
theorem length_digitText_of_integerOfFloat? {x : Float} {n : Int} (h : integerOfFloat? x = some n) :
    (digitText n.natAbs).length ≤ 309 := by
  have hsize (k : Nat) (hk : 971 ≤ (k : Int)) : n.natAbs < 2 ^ 53 * 2 ^ k := by
    rw [integerOfFloat?] at h
    cases hx : BinaryValue.ofFloat x with
    | notANumber | infinite negative => simp [hx, BinaryValue.toInt?] at h
    | finite negative mantissa exponent =>
      obtain ⟨hmantissa, hexponent⟩ := BinaryValue.finite_bounds hx
      exact BinaryValue.natAbs_lt_of_toInt? hmantissa (hexponent.trans hk) (hx ▸ h)
  exact length_digitText_le (by decide)
    ((hsize 971 le_rfl).trans (@two_pow_mul_lt 53 971 11 309 rfl rfl))

end ContentEngine
