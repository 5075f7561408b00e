import Reckoner.Decimal.Layout
import Reckoner.Proofs.Words.Numerals

/-!
# What a layout writes

A layout that keeps fractions writes a decimal in one of two shapes: with a point between
digits, or with a single digit before the point, if there is one, and an exponent.  Both are
real numerals.

* `IsPositional`, `IsScientific` — the two shapes;
* `IsPositional.isReal`, `IsScientific.isReal` — they are real numerals;
* `Layout.isPositional_positional`, `Layout.isScientific_scientific` — what is written.
-/

namespace Reckoner

/-- Digits, a point, and digits. -/
def IsPositional (s : List Char) : Prop :=
  ∃ whole fraction, IsDigits whole ∧ IsFraction fraction ∧ s = whole ++ fraction

/-- A digit, perhaps a fraction, and an exponent, which has neither a plus sign nor zeros in
front. -/
def IsScientific (s : List Char) : Prop :=
  ∃ first fraction e, first.isDigit = true ∧ (IsFraction fraction ∨ fraction = []) ∧
    s = first :: (fraction ++ 'e' :: Layout.exponentText e)

/-- The first digits are digits. -/
theorem IsDigits.take {s : List Char} (h : IsDigits s) {n : Nat} (hn : 0 < n) :
    IsDigits (s.take n) := by
  have hlength := List.length_pos_iff.2 h.1
  refine ⟨List.ne_nil_of_length_pos ?_, fun c hc => h.2 c (List.mem_of_mem_take hc)⟩
  rw [List.length_take]
  omega

/-- The digits after the first ones are digits, if there are any. -/
theorem IsDigits.drop {s : List Char} (h : IsDigits s) {n : Nat} (hn : n < s.length) :
    IsDigits (s.drop n) := by
  refine ⟨List.ne_nil_of_length_pos ?_, fun c hc => h.2 c (List.mem_of_mem_drop hc)⟩
  rw [List.length_drop]
  omega

/-- The exponent is written with digits and no other sign than a minus. -/
theorem isExponent_exponentText (e : Int) : IsExponent ('e' :: Layout.exponentText e) := by
  unfold Layout.exponentText
  split
  · exact ⟨'e', ['-'], _, .inl rfl, .inr (.inr rfl), isDigits_toDigits _, rfl⟩
  · exact ⟨'e', [], _, .inl rfl, .inl rfl, isDigits_toDigits _, rfl⟩

/-- A point between digits makes a real numeral. -/
theorem IsPositional.isReal {s : List Char} (h : IsPositional s) : IsReal s := by
  obtain ⟨whole, fraction, hwhole, hfraction, rfl⟩ := h
  exact .inl ⟨whole, fraction, [], .inl hwhole, hfraction, .inr rfl, (List.append_nil _).symm⟩

/-- An exponent makes a real numeral. -/
theorem IsScientific.isReal {s : List Char} (h : IsScientific s) : IsReal s := by
  obtain ⟨first, fraction, e, hfirst, hfraction, rfl⟩ := h
  have hwhole : IsDigits [first] := ⟨List.cons_ne_nil _ _, by simpa using hfirst⟩
  rcases hfraction with hfraction | rfl
  · exact .inl ⟨[first], fraction, _, .inl hwhole, hfraction, .inl (isExponent_exponentText e),
      by simp⟩
  · exact .inr ⟨[first], _, hwhole, isExponent_exponentText e, rfl⟩

namespace Layout

/-- Digits in their positions have a point among them, or the fraction `.0` after them. -/
theorem isPositional_positional {l : Layout} (hkeeps : l.keepsFraction = true) (d : Decimal) :
    IsPositional (l.positional d) := by
  have hdigits := isDigits_toDigits d.significand
  simp only [positional, hkeeps, if_true]
  split
  next hpoint =>
    have hfraction : IsFraction ('.' :: (List.replicate
        (-(d.exponent + ((Nat.toDigits 10 d.significand).length : Int))).toNat '0'
          ++ Nat.toDigits 10 d.significand)) := by
      refine ⟨_, ⟨by simp [hdigits.1], fun c hc => ?_⟩, rfl⟩
      exact (List.mem_append.1 hc).elim isDigit_of_mem_zeros (hdigits.2 c)
    exact ⟨['0'], _, ⟨by simp, by simp⟩, hfraction, rfl⟩
  next hpoint =>
    split
    next hexponent =>
      have hwhole := hdigits.take (n := (d.exponent
        + ((Nat.toDigits 10 d.significand).length : Int)).toNat) (by omega)
      have hfraction := hdigits.drop (n := (d.exponent
        + ((Nat.toDigits 10 d.significand).length : Int)).toNat) (by omega)
      exact ⟨_, _, hwhole, ⟨_, hfraction, rfl⟩, by simp⟩
    next hexponent =>
      have hwhole := hdigits.append fun c hc => @isDigit_of_mem_zeros d.exponent.toNat c hc
      exact ⟨_, ['.', '0'], hwhole, ⟨['0'], ⟨by simp, by simp⟩, rfl⟩, rfl⟩

/-- The first digit stands before the point, and all others after it. -/
theorem isScientific_scientific (d : Decimal) : IsScientific (scientific d) := by
  obtain ⟨first, others, hsplit⟩ :=
    List.exists_cons_of_ne_nil (isDigits_toDigits d.significand).1
  have hdigits := isDigits_toDigits d.significand
  rw [hsplit] at hdigits
  have hfirst := hdigits.2 first List.mem_cons_self
  unfold scientific
  rw [hsplit]
  cases others with
  | nil => exact ⟨first, [], d.leading, hfirst, .inr rfl, rfl⟩
  | cons second others =>
      have hfraction : IsDigits (second :: others) :=
        ⟨List.cons_ne_nil _ _, fun c hc => hdigits.2 c (List.mem_cons_of_mem _ hc)⟩
      exact ⟨first, _, d.leading, hfirst, .inl ⟨_, hfraction, rfl⟩, by simp⟩

end Layout

end Reckoner
