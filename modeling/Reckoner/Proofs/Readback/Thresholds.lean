import Mathlib.Tactic.Linarith
import Mathlib.Tactic.NormNum
import Reckoner.Decimal.Bounds
import Reckoner.Decimal.Layout
import Reckoner.Double.Order

/-!
# Where the first digit stands

Whether a double is written with an exponent is decided by the place of the first digit of
its shortest decimal.  That is the same as comparing the double with a power of ten: with
the double next to the power, which is written as the power itself.  No double below has a
decimal in its interval that reaches the power, and none above one that falls short of it.

* `Double.Marks` — a double that is written as a power of ten;
* `Double.Marks.abs_lt_iff` — the doubles below it have their first digit below;
* `Double.leading_shortest_iff` — doubles from `0.0001` up to `1e16` have their first digit
  between the power `-4` and the power `15`.
-/

namespace Reckoner.Double

open Decimal (shortest)

/-- The double `c` is `n · 2 ^ p` and is written as `10 ^ k`, and the power lies within half
a unit of it.  It does not stand at either end of the doubles with its exponent. -/
structure Marks (c : Float) (n : Nat) (p k : Int) : Prop where
  magnitude_eq : magnitude c = .finite n p
  positive : isNegative c = false
  printed : shortest n p = ⟨1, k⟩
  above : (4 * n - 2 : ℚ) * 2 ^ (p - 2) < 10 ^ k
  below : (10 : ℚ) ^ k ≤ (4 * n + 2) * 2 ^ (p - 2)
  notFirst : 2 ^ 52 < n
  notLast : n + 2 ≤ 2 ^ 53

/-- The double next to `0.0001` is written so. -/
theorem marks_tenThousandth : Marks 1e-4 7378697629483821 (-66) (-4) where
  magnitude_eq := by decide +kernel
  positive := by decide +kernel
  printed := by decide +kernel
  above := by norm_num
  below := by norm_num
  notFirst := by decide
  notLast := by decide

/-- The double `1e16` is written so. -/
theorem marks_tenQuadrillion : Marks 1e16 5000000000000000 1 16 where
  magnitude_eq := by decide +kernel
  positive := by decide +kernel
  printed := by decide +kernel
  above := by norm_num
  below := by norm_num
  notFirst := by decide
  notLast := by decide

variable {r c : Float} {m n : Nat} {q p k : Int}

/-- With a greater exponent half as much is as large. -/
theorem mul_zpow_le {a b : ℚ} (hless : q < p) (ha : 0 ≤ a) (hab : a ≤ 2 * b) :
    a * 2 ^ (q - 2) ≤ b * 2 ^ (p - 2) := by
  have hpower : (2 : ℚ) ^ (q - 2) ≤ 2 ^ (p - 2 - 1) :=
    zpow_le_zpow_right₀ (by norm_num) (by omega)
  have hhalf : (2 : ℚ) ^ (p - 2) = 2 ^ (p - 2 - 1) * 2 := by
    rw [← zpow_add_one₀ (by norm_num), Int.sub_add_cancel]
  calc a * 2 ^ (q - 2) ≤ 2 * b * 2 ^ (p - 2 - 1) :=
        mul_le_mul hab hpower (by positivity) (ha.trans hab)
    _ = b * 2 ^ (p - 2) := by rw [hhalf]; ring

/-- A double below one that is written as a power of ten has its first digit below. -/
theorem Marks.leading_lt (h : Marks c n p k) (hm : magnitude r = .finite m q) (hpos : 0 < m)
    (hless : q < p ∨ q = p ∧ m < n) : (shortest m q).leading < k := by
  have hlast : (m : ℚ) + 1 ≤ 2 ^ 53 := by exact_mod_cast (magnitude_bounds hm).1
  have hfirst : (2 : ℚ) ^ 52 + 1 ≤ n := by exact_mod_cast h.notFirst
  have hhalves : (4 * m + 2 : ℚ) * 2 ^ (q - 2) ≤ (4 * n - 2) * 2 ^ (p - 2) := by
    rcases hless with hexponent | ⟨rfl, hsignificand⟩
    · exact mul_zpow_le hexponent (by positivity) (by linarith)
    · have hnext : (m : ℚ) + 1 ≤ n := by exact_mod_cast hsignificand
      exact mul_le_mul_of_nonneg_right (by linarith) (by positivity)
  have hvalue := (Decimal.value_shortest hpos q).2
  exact Decimal.leading_lt (Decimal.significand_shortest_pos hpos q)
    ((hvalue.trans hhalves).trans_lt h.above)

/-- The double itself, and every double above, has its first digit there or above. -/
theorem Marks.le_leading (h : Marks c n p k) (hm : magnitude r = .finite m q) (hpos : 0 < m)
    (hless : ¬ (q < p ∨ q = p ∧ m < n)) : k ≤ (shortest m q).leading := by
  have hleast := (magnitude_bounds h.magnitude_eq).2.1
  have hfirst := (magnitude_bounds hm).2.2
  have hlast : (n : ℚ) + 2 ≤ 2 ^ 53 := by exact_mod_cast h.notLast
  by_cases hsame : q = p ∧ m = n
  · obtain ⟨rfl, rfl⟩ := hsame
    rw [h.printed, Decimal.leading_of_lt (show 1 < 10 by decide)]
  · have hhalves : (4 * n + 2 : ℚ) * 2 ^ (p - 2) ≤ (4 * m - 2) * 2 ^ (q - 2) := by
      by_cases hexponent : p < q
      · have hone : (2 : ℚ) ^ 52 ≤ m := by exact_mod_cast hfirst.resolve_left (by omega)
        exact mul_zpow_le hexponent (by positivity) (by linarith)
      · obtain rfl : q = p := by omega
        have hnext : (n : ℚ) + 1 ≤ m := by exact_mod_cast (show n + 1 ≤ m by omega)
        exact mul_le_mul_of_nonneg_right (by linarith) (by positivity)
    have hvalue := (Decimal.value_shortest hpos q).1
    exact Decimal.le_leading ((h.below.trans hhalves).trans hvalue)

/-- Of the doubles other than zero those below one that is written as a power of ten have
their first digit below. -/
theorem Marks.abs_lt_iff (h : Marks c n p k) (hm : magnitude r = .finite m q) (hpos : 0 < m) :
    r.abs < c ↔ (shortest m q).leading < k := by
  have hfinite : r.isFinite = true := (isFinite_iff_magnitude r).2 ⟨m, q, hm⟩
  have habs : magnitude r.abs = .finite m q := (magnitude_abs hfinite).trans hm
  rw [lt_iff habs h.magnitude_eq (isNegative_abs hfinite) h.positive (by have := h.notFirst; omega)]
  refine ⟨fun hless => h.leading_lt hm hpos (hless.resolve_left (Nat.ne_of_gt hpos)), ?_⟩
  intro hleading
  by_contra hnot
  have hle := h.le_leading hm hpos (not_or.1 hnot).2
  omega

/-- Every double is below one that is written as a power of ten, or at least as large. -/
theorem Marks.le_abs_iff (h : Marks c n p k) (hr : r.isFinite = true) :
    c ≤ r.abs ↔ ¬ r.abs < c := by
  obtain ⟨m, q, hm⟩ := (isFinite_iff_magnitude r).1 hr
  exact le_iff ((magnitude_abs hr).trans hm) h.magnitude_eq (isNegative_abs hr) h.positive
    (by have := h.notFirst; omega)

/-- Only the two zeros are not above zero in size. -/
theorem abs_pos_iff (hm : magnitude r = .finite m q) : 0 < r.abs ↔ 0 < m := by
  have hfinite : r.isFinite = true := (isFinite_iff_magnitude r).2 ⟨m, q, hm⟩
  have habs : magnitude r.abs = .finite m q := (magnitude_abs hfinite).trans hm
  have hzero : magnitude 0 = .finite 0 (-1074) := by decide +kernel
  have hsign : isNegative 0 = false := by decide +kernel
  rcases Nat.eq_zero_or_pos m with rfl | hpos
  · rw [lt_iff_compare, unpack_bits_of_not_isNegative hzero hsign,
      unpack_bits_of_not_isNegative habs (isNegative_abs hfinite)]
    exact iff_of_false nofun (Nat.lt_irrefl 0)
  · rw [lt_iff hzero habs hsign (isNegative_abs hfinite) hpos]
    exact iff_of_true (.inl rfl) hpos

/-- **Thresholds.**  A double is zero or lies from `0.0001` up to, but not including, `1e16`,
exactly when the first digit of its shortest decimal stands between the power `-4` and the
power `15`. -/
theorem leading_shortest_iff (hm : magnitude r = .finite m q) :
    (-4 ≤ (shortest m q).leading ∧ (shortest m q).leading ≤ 15) ↔
      ¬ (0 < r.abs ∧ r.abs < 1e-4 ∨ 1e16 ≤ r.abs) := by
  have hfinite : r.isFinite = true := (isFinite_iff_magnitude r).2 ⟨m, q, hm⟩
  rw [marks_tenQuadrillion.le_abs_iff hfinite, abs_pos_iff hm]
  rcases Nat.eq_zero_or_pos m with rfl | hpos
  · have hlarge : r.abs < 1e16 := by
      rw [lt_iff ((magnitude_abs hfinite).trans hm) marks_tenQuadrillion.magnitude_eq
        (isNegative_abs hfinite) marks_tenQuadrillion.positive (by decide)]
      exact .inl rfl
    have hleading : (shortest 0 q).leading = 0 := Decimal.leading_of_lt (show 0 < 10 by decide)
    rw [hleading]
    exact iff_of_true (by decide) (by simp [hlarge])
  · rw [marks_tenThousandth.abs_lt_iff hm hpos, marks_tenQuadrillion.abs_lt_iff hm hpos]
    omega

end Reckoner.Double
