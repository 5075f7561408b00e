import Mathlib.Algebra.Order.Field.Power
import Mathlib.Data.Rat.Cast.Order
import Mathlib.Tactic.FieldSimp
import Mathlib.Tactic.Linarith
import Mathlib.Tactic.Ring
import Reckoner.Decimal.Shortest

/-!
# How large the shortest decimal is

The shortest decimal of a double lies in the interval of the double, so it is as large as the
double up to half a unit of its last place.  And the power of ten of the first digit of a
decimal says how large it is.

* `Decimal.value` — the rational number that a decimal stands for;
* `Decimal.zpow_leading_le`, `Decimal.value_lt_zpow` — what the first digit says;
* `Decimal.le_leading`, `Decimal.leading_lt` — where the first digit stands;
* `Decimal.value_shortest` — the shortest decimal of a double is near it.
-/

namespace Reckoner.Decimal

/-- The number that a decimal stands for. -/
def value (d : Decimal) : ℚ :=
  d.significand * 10 ^ d.exponent

variable {d : Decimal}

/-- A single digit stands at the decimal's own power of ten. -/
theorem leading_of_lt (h : d.significand < 10) : d.leading = d.exponent := by
  rw [leading, Nat.toDigits_of_lt_base h, List.length_singleton]
  omega

/-- A decimal is at least the power of ten of its first digit. -/
theorem zpow_leading_le (h : 0 < d.significand) : (10 : ℚ) ^ d.leading ≤ d.value := by
  have hlength : 10 ^ ((Nat.toDigits 10 d.significand).length - 1) ≤ d.significand := by
    rcases Nat.eq_zero_or_pos ((Nat.toDigits 10 d.significand).length - 1) with hone | hmore
    · rw [hone]
      exact h
    · by_contra hlt
      have hle := (Nat.length_toDigits_le_iff (by decide) hmore).2 (Nat.not_le.1 hlt)
      omega
  have hpos : 0 < (Nat.toDigits 10 d.significand).length := Nat.length_toDigits_pos
  have hsplit : d.leading
      = (((Nat.toDigits 10 d.significand).length - 1 : Nat) : Int) + d.exponent := by
    unfold leading
    omega
  rw [hsplit, zpow_add₀ (by norm_num), zpow_natCast, value]
  exact mul_le_mul_of_nonneg_right (by exact_mod_cast hlength) (by positivity)

/-- A decimal is less than the power of ten above its first digit. -/
theorem value_lt_zpow (d : Decimal) : d.value < (10 : ℚ) ^ (d.leading + 1) := by
  have hlength : d.significand < 10 ^ (Nat.toDigits 10 d.significand).length :=
    (Nat.length_toDigits_le_iff (by decide) Nat.length_toDigits_pos).1 (Nat.le_refl _)
  have hsplit : d.leading + 1
      = ((Nat.toDigits 10 d.significand).length : Int) + d.exponent := by
    unfold leading
    omega
  rw [hsplit, zpow_add₀ (by norm_num), zpow_natCast, value]
  exact mul_lt_mul_of_pos_right (by exact_mod_cast hlength) (by positivity)

/-- The first digit of a decimal that is at least a power of ten stands there or above. -/
theorem le_leading {k : Int} (h : (10 : ℚ) ^ k ≤ d.value) : k ≤ d.leading := by
  have hlt := (zpow_lt_zpow_iff_right₀ (by norm_num)).1 (h.trans_lt d.value_lt_zpow)
  omega

/-- The first digit of a decimal that is less than a power of ten stands below. -/
theorem leading_lt {k : Int} (hpos : 0 < d.significand) (h : d.value < (10 : ℚ) ^ k) :
    d.leading < k :=
  (zpow_lt_zpow_iff_right₀ (by norm_num)).1 ((zpow_leading_le hpos).trans_lt h)

namespace Interval

variable {i : Interval}

/-- What an interval holds lies between its ends. -/
theorem le_of_holds {n : Nat} (h : i.holds n = true) : i.low ≤ n ∧ n ≤ i.high := by
  unfold holds at h
  split at h
  · exact of_decide_eq_true h
  · obtain ⟨hlow, hhigh⟩ := of_decide_eq_true h
    exact ⟨Nat.le_of_lt hlow, Nat.le_of_lt hhigh⟩

/-- A neighbour lies in the interval. -/
theorem holds_of_neighbour? {k d : Nat} (h : i.neighbour? k = some d) :
    i.holds (d * 10 ^ k) = true := by
  unfold neighbour? at h
  dsimp only at h
  split at h
  next hdown =>
    cases h
    exact hdown.1
  next hdown =>
    split at h
    next hup =>
      cases h
      exact hup
    next => cases h

/-- The first grid that meets the interval meets it between its ends. -/
theorem value_firstFrom (hlow : i.low ≤ i.value) (hhigh : i.value ≤ i.high) (k : Nat) :
    ∃ n, i.low ≤ n ∧ n ≤ i.high ∧ (i.firstFrom k).value = n * 10 ^ i.exponent := by
  induction k with
  | zero => exact ⟨i.value, hlow, hhigh, rfl⟩
  | succ k ih =>
      unfold firstFrom
      split
      next d hd =>
        obtain ⟨hlow, hhigh⟩ := le_of_holds (holds_of_neighbour? hd)
        refine ⟨_, hlow, hhigh, ?_⟩
        rw [Decimal.value, zpow_add₀ (by norm_num), zpow_natCast]
        push_cast
        ring
      next => exact ih

end Interval

/-- A quarter of the unit of a double, on the scale of its interval. -/
theorem unit_mul_zpow (q : Int) :
    ((if 2 ≤ q then Nat.pow 2 (q - 2).toNat else Nat.pow 5 (2 - q).toNat : Nat) : ℚ)
      * 10 ^ min (q - 2) 0 = 2 ^ (q - 2) := by
  split
  next h =>
    obtain ⟨n, hn⟩ := Int.eq_ofNat_of_zero_le (show 0 ≤ q - 2 by omega)
    rw [hn, min_eq_right (by omega)]
    simp
  next h =>
    obtain ⟨n, hn⟩ := Int.eq_ofNat_of_zero_le (show 0 ≤ 2 - q by omega)
    have hq : q - 2 = -(n : Int) := by omega
    rw [hn, hq, min_eq_left (by omega), zpow_neg, zpow_neg, zpow_natCast, zpow_natCast]
    have hten : (10 : ℚ) ^ n = 5 ^ n * 2 ^ n := by rw [← mul_pow]; norm_num
    simp only [Int.toNat_natCast, Nat.pow_eq, Nat.cast_pow, Nat.cast_ofNat, hten]
    field_simp

/-- The shortest decimal of a double differs from it by half a unit at most. -/
theorem value_shortest {m : Nat} (h : 0 < m) (q : Int) :
    (4 * m - 2 : ℚ) * 2 ^ (q - 2) ≤ (shortest m q).value ∧
      (shortest m q).value ≤ (4 * m + 2 : ℚ) * 2 ^ (q - 2) := by
  have hbelow : (if m = Double.leadingOne ∧ -1074 < q then 1 else 2) ≤ 2 := by
    split <;> decide
  have hfirst : shortest m q = (Interval.ofDouble m q).shortest := if_neg (Nat.ne_of_gt h)
  obtain ⟨n, hlow, hhigh, hvalue⟩ := Interval.value_firstFrom (i := Interval.ofDouble m q)
    (Nat.mul_le_mul_right _ (Nat.sub_le _ _)) (Nat.mul_le_mul_right _ (Nat.le_add_right _ _))
    (Nat.toDigits 10 (Interval.ofDouble m q).value).length
  have hunit := unit_mul_zpow q
  rw [hfirst, Interval.shortest, hvalue, ← hunit, ← mul_assoc, ← mul_assoc]
  simp only [Interval.ofDouble] at hlow hhigh ⊢
  constructor
  · refine mul_le_mul_of_nonneg_right ?_ (by positivity)
    have hle : (4 * m - 2) * _ ≤ n := (Nat.mul_le_mul_right _ (by omega)).trans hlow
    have hcast : ((4 * m - 2 : Nat) : ℚ) = 4 * m - 2 := by
      rw [Nat.cast_sub (by omega)]
      norm_num
    rw [← hcast]
    exact_mod_cast hle
  · refine mul_le_mul_of_nonneg_right ?_ (by positivity)
    exact_mod_cast hhigh

/-- The shortest decimal of a double other than zero is not zero. -/
theorem significand_shortest_pos {m : Nat} (h : 0 < m) (q : Int) :
    0 < (shortest m q).significand := by
  have hm : (1 : ℚ) ≤ m := by exact_mod_cast h
  have hpos : 0 < (4 * m - 2 : ℚ) * 2 ^ (q - 2) := mul_pos (by linarith) (by positivity)
  have hvalue := hpos.trans_le (value_shortest h q).1
  by_contra hzero
  rw [value, Nat.eq_zero_of_not_pos hzero, Nat.cast_zero, zero_mul] at hvalue
  exact hvalue.false

end Reckoner.Decimal
