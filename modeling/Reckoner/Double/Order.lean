import Reckoner.Double.Bits

/-!
# Comparing doubles by their magnitudes

The significand of a finite double has 53 bits unless its exponent is the least one.  So of
two doubles without a sign the one with the lower exponent is less, and with the same
exponent the one with the lower significand.

* `Double.magnitude_bounds` — the range of a magnitude;
* `Double.unpack_bits` — what the bits of a finite double stand for;
* `Double.lt_iff`, `Double.le_iff` — two doubles compared.
-/

namespace Reckoner.Double

open Float.Model (Format UnpackedFloat)
open Float.Model.UnpackedFloat (Sign unpackExponent unpack)

variable {r s : Float} {m n : Nat} {q p : Int}

/-- A leading one in front of 52 bits. -/
theorem toNat_one_append (fraction : BitVec 52) :
    (1#1 ++ fraction).toNat = leadingOne + fraction.toNat := by
  rw [BitVec.toNat_append, ← Nat.shiftLeft_add_eq_or_of_lt fraction.isLt]
  rfl

/-- A significand has 53 bits at most, and at least that unless the exponent is least. -/
theorem magnitude_bounds (h : magnitude r = .finite m q) :
    m < 2 * leadingOne ∧ -1074 ≤ q ∧ (q = -1074 ∨ leadingOne ≤ m) := by
  have hfraction : (fractionField r).toNat < leadingOne := (fractionField r).isLt
  rw [magnitude_eq] at h
  split at h
  next => split at h <;> cases h
  next =>
    split at h
    next => cases h; exact ⟨by omega, Int.le_refl _, .inl rfl⟩
    next =>
      cases h
      exact ⟨by omega, by omega, .inr (by omega)⟩

/-- A number is determined by its sign, its significand and its exponent. -/
theorem finite_congr {sign : Sign} {hm : 0 < m} {hn : 0 < n} (h : m = n) :
    UnpackedFloat.finite sign m q hm = .finite sign n q hn := by
  subst h
  rfl

/-- The bits of a finite double stand for its sign and its magnitude. -/
theorem unpack_bits (h : magnitude r = .finite m q) :
    unpack .binary64 (bits r)
      = if hm : 0 < m then .finite (sign r) m q hm else .zero (sign r) := by
  rw [magnitude_eq] at h
  unfold unpack
  dsimp only
  split
  next hfull =>
    have hfield : (exponentField r).toNat = 2047 := congrArg BitVec.toNat hfull
    rw [if_pos hfield] at h
    split at h <;> cases h
  next hfull =>
    have hfield : (exponentField r).toNat ≠ 2047 := fun h => hfull (BitVec.toNat_inj.1 h)
    rw [if_neg hfield] at h
    split
    next hzero =>
      have hfield : (exponentField r).toNat = 0 := congrArg BitVec.toNat hzero
      rw [if_pos hfield] at h
      cases h
      change (if _ : fractionField r = 0#52 then _ else _) = _
      split
      next hnone => rw [hnone]; rfl
      next hsome =>
        have hpos : 0 < (fractionField r).toNat :=
          Nat.pos_of_ne_zero fun h => hsome (BitVec.toNat_inj.1 h)
        rw [dif_pos hpos, hzero]
        rfl
    next hzero =>
      have hfield : (exponentField r).toNat ≠ 0 := fun h => hzero (BitVec.toNat_inj.1 h)
      rw [if_neg hfield] at h
      cases h
      rw [dif_pos (Nat.add_pos_left (by decide) _)]
      exact finite_congr (toNat_one_append _)

/-- The bits of a finite double without a sign bit stand for its magnitude. -/
theorem unpack_bits_of_not_isNegative (h : magnitude r = .finite m q)
    (hsign : isNegative r = false) :
    unpack .binary64 (bits r)
      = if hm : 0 < m then .finite .positive m q hm else .zero .positive := by
  have hpositive : sign r = .positive := by rw [sign_eq, hsign]; rfl
  rw [unpack_bits h, hpositive]

/-- Doubles are compared as the numbers that their bits stand for. -/
theorem lt_iff_compare (r s : Float) :
    r < s ↔ (unpack .binary64 (bits r)).compare (unpack .binary64 (bits s)) = some .lt := by
  change decide ((unpack .binary64 (bits r)).lt (unpack .binary64 (bits s)) = true) = true ↔ _
  rw [decide_eq_true_iff, UnpackedFloat.lt, beq_iff_eq]

/-- Doubles are compared as the numbers that their bits stand for. -/
theorem le_iff_compare (r s : Float) :
    r ≤ s ↔ ((unpack .binary64 (bits r)).compare (unpack .binary64 (bits s))).any (·.isLE)
      = true := by
  change decide ((unpack .binary64 (bits r)).le (unpack .binary64 (bits s)) = true) = true ↔ _
  rw [decide_eq_true_iff, UnpackedFloat.le]

section Positive

variable (hr : magnitude r = .finite m q) (hs : magnitude s = .finite n p)
  (hrsign : isNegative r = false) (hssign : isNegative s = false) (hn : 0 < n)
include hr hs hrsign hssign hn

/-- Doubles without a sign bit are compared by their exponents first. -/
theorem lt_iff : r < s ↔ m = 0 ∨ q < p ∨ q = p ∧ m < n := by
  rw [lt_iff_compare, unpack_bits_of_not_isNegative hr hrsign,
    unpack_bits_of_not_isNegative hs hssign, dif_pos hn]
  rcases Nat.eq_zero_or_pos m with rfl | hm
  · exact iff_of_true rfl (.inl rfl)
  · rw [dif_pos hm]
    simp only [UnpackedFloat.compare, Option.some.injEq, Ordering.then_eq_lt, Int.compare_eq_lt,
      Int.compare_eq_eq, Nat.compare_eq_lt]
    exact (or_iff_right (Nat.ne_of_gt hm)).symm

/-- Of two doubles without a sign bit, one is at least the other or less. -/
theorem le_iff : s ≤ r ↔ ¬ r < s := by
  rw [lt_iff hr hs hrsign hssign hn, le_iff_compare, unpack_bits_of_not_isNegative hr hrsign,
    unpack_bits_of_not_isNegative hs hssign, dif_pos hn]
  rcases Nat.eq_zero_or_pos m with rfl | hm
  · exact iff_of_false Bool.false_ne_true (by simp)
  · rw [dif_pos hm]
    simp only [UnpackedFloat.compare, Option.any_some, Ordering.isLE_iff_ne_gt,
      Ordering.then_eq_gt, Int.compare_eq_gt, Int.compare_eq_eq, Nat.compare_eq_gt]
    omega

end Positive

end Reckoner.Double
