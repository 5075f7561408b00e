import Reckoner.Proofs.Composition
import Reckoner.Proofs.Readback.Layouts
import Reckoner.Proofs.Readback.Thresholds

/-!
# Reals are read back as reals

The text of a finite double is its sign and then the digits of its absolute value, which are
a real numeral.  So the text is one word after the sign, and its value is what the digits are
read as, negated if there is a sign.

* `Number.digits` — the text of a double without its sign;
* `Number.digits_shape` — when the digits have an exponent;
* `Number.words` — the words of the text;
* `Calculator.executeText_text_real` — the text is read as a real.
-/

namespace Reckoner

namespace Layout

/-- A finite double is written as its sign and its shortest decimal. -/
theorem chars_of_magnitude (l : Layout) {r : Float} {m : Nat} {q : Int}
    (h : Double.magnitude r = .finite m q) :
    l.chars r = sign r ++ l.decimal (Decimal.shortest m q) := by
  rw [chars, h]

/-- The absolute value of a finite double is written as its shortest decimal. -/
theorem chars_abs_of_magnitude (l : Layout) {r : Float} {m : Nat} {q : Int}
    (h : Double.magnitude r = .finite m q) :
    l.chars r.abs = l.decimal (Decimal.shortest m q) := by
  have hfinite : r.isFinite = true := (Double.isFinite_iff_magnitude r).2 ⟨m, q, h⟩
  rw [l.chars_of_magnitude ((Double.magnitude_abs hfinite).trans h), sign,
    Double.isNegative_abs hfinite]
  rfl

end Layout

namespace Number

/-- The digits of a real, with a point or an exponent: its text without the sign. -/
def digits (r : Float) : List Char :=
  (real r.abs).text.toList

/-- Reals other than zero that are below `0.0001` or at least `1e16` in size. -/
def NeedsExponent (r : Float) : Prop :=
  0 < r.abs ∧ r.abs < 1e-4 ∨ 1e16 ≤ r.abs

instance (r : Float) : Decidable (NeedsExponent r) :=
  inferInstanceAs (Decidable (_ ∨ _))

/-- The digits of a finite double are those of its shortest decimal. -/
theorem digits_of_magnitude {r : Float} {m : Nat} {q : Int}
    (h : Double.magnitude r = .finite m q) :
    digits r = layout.decimal (Decimal.shortest m q) := by
  rw [digits, text, Layout.text, String.toList_ofList, layout.chars_abs_of_magnitude h]

/-- A finite double is written as its sign and its digits. -/
theorem toList_text_real {r : Float} (h : r.isFinite = true) :
    (real r).text.toList = Layout.sign r ++ digits r := by
  obtain ⟨m, q, hm⟩ := (Double.isFinite_iff_magnitude r).1 h
  rw [digits_of_magnitude hm, text, Layout.text, String.toList_ofList,
    layout.chars_of_magnitude hm]

/-- Very small and very large doubles have an exponent, and all others have a fraction. -/
theorem digits_shape {r : Float} (h : r.isFinite = true) :
    if NeedsExponent r then IsScientific (digits r) else IsPositional (digits r) := by
  obtain ⟨m, q, hm⟩ := (Double.isFinite_iff_magnitude r).1 h
  have hrange := Double.leading_shortest_iff hm
  have hdigits : digits r =
      if -4 ≤ (Decimal.shortest m q).leading ∧ (Decimal.shortest m q).leading ≤ 15 then
        layout.positional (Decimal.shortest m q)
      else Layout.scientific (Decimal.shortest m q) :=
    digits_of_magnitude hm
  rw [hdigits]
  split
  next hexponent =>
    rw [if_neg fun hinside => hrange.1 hinside hexponent]
    exact Layout.isScientific_scientific _
  next hexponent =>
    rw [if_pos (hrange.2 hexponent)]
    exact Layout.isPositional_positional rfl _

/-- The digits are a real numeral. -/
theorem isReal_digits {r : Float} (h : r.isFinite = true) : IsReal (digits r) := by
  have hshape := digits_shape h
  split at hshape
  · exact hshape.isReal
  · exact hshape.isReal

/-- The words of the text of a real: a minus sign if its sign bit is set, and its digits. -/
def words (r : Float) : List Slice :=
  if Double.isNegative r then [⟨.mark .minus, ['-'], 0⟩, ⟨.real, digits r, 1⟩]
  else [⟨.real, digits r, 0⟩]

/-- The lexemes of the words. -/
theorem placed_words (r : Float) :
    placed (words r) =
      if Double.isNegative r then [⟨.minus, 0⟩, ⟨.real (readReal (digits r)), 1⟩]
      else [⟨.real (readReal (digits r)), 0⟩] := by
  unfold words
  split <;> rfl

/-- The text of a finite double is cut into these words and no others. -/
theorem sliced_text_real {r : Float} (h : r.isFinite = true) :
    Sliced 0 (real r).text.toList (words r) [] := by
  have hlongest : Longest (digits r ++ []) ⟨.real, digits r, []⟩ :=
    longest_numeral (.inl rfl) (isReal_digits h) (by simp)
  rw [List.append_nil] at hlongest
  have hcut (offset : Nat) : Sliced offset (digits r) [⟨.real, digits r, offset⟩] [] :=
    .cut hlongest (by simp) (.stop _ [])
  rw [toList_text_real h, Layout.sign, words]
  split
  · exact .cut (longest_of_cut? (cut?_of_mark? rfl (digits r))) (by simp) (hcut 1)
  · exact hcut 0

/-- The text of a finite double has the lexemes of these words. -/
theorem tokenize_text_real {r : Float} (h : r.isFinite = true) :
    tokenize (real r).text = .ok (placed (words r)) := by
  rw [tokenize, (sliced_text_real h).scan_eq, scan_nil]
  exact congrArg Except.ok (List.append_nil _)

end Number

namespace Calculator

/-- The value of the text of a finite double is what its digits are read as, negated if its
sign bit is set. -/
theorem executeText_text_real_eq (c : Calculator) {r : Float} (h : r.isFinite = true) :
    c.executeText (Number.real r).text
      = .ok (.real (if Double.isNegative r then -readReal (Number.digits r)
          else readReal (Number.digits r))) := by
  have htext : (Number.real r).text = String.ofList (Layout.sign r ++ Number.digits r) := by
    rw [← Number.toList_text_real h, String.ofList_toList]
  have hreal := Number.isReal_digits h
  rw [htext, Layout.sign]
  split
  · have hoperand : Written Delimits .unary 1 _ _ 0 := (Written.real hreal 1).widen (by decide)
    have hwritten : Written Delimits .expression 0 _ _ 1 := hoperand.negate.widen (by decide)
    rw [List.singleton_append, hwritten.executeText (by decide)]
    simp only [Calculator.meaning]
    rfl
  · have hwritten : Written Delimits .expression 0 _ _ 0 :=
      (Written.real hreal 0).widen (by decide)
    rw [List.nil_append, hwritten.executeText (by decide), Calculator.meaning]
    rfl

/-- What the digits of a finite double are read as, with its sign, is the double, if they are
read as its absolute value. -/
theorem signed_readReal_digits {r : Float} (h : r.isFinite = true)
    (hread : readReal (Number.digits r) = r.abs) :
    (if Double.isNegative r then -readReal (Number.digits r) else readReal (Number.digits r))
      = r := by
  rw [hread]
  split
  next hnegative => exact Double.neg_abs h hnegative
  next hpositive => exact Double.abs_of_not_isNegative h (by simpa using hpositive)

/-- **Reals are read back as reals.**  The text of a finite double is its sign and its digits,
which have an exponent exactly if the double is very small or very large.  It is one real
word, after a minus sign if the sign bit is set, and every calculator reads it as a real.
The real is the double itself, if its digits are read as its absolute value. -/
theorem executeText_text_real {r : Float} (h : r.isFinite = true) :
    (Number.real r).text.toList = Layout.sign r ++ Number.digits r ∧
      (if Number.NeedsExponent r then IsScientific (Number.digits r)
        else IsPositional (Number.digits r)) ∧
      Sliced 0 (Number.real r).text.toList
        (if Double.isNegative r
          then [⟨.mark .minus, ['-'], 0⟩, ⟨.real, Number.digits r, 1⟩]
          else [⟨.real, Number.digits r, 0⟩]) [] ∧
      tokenize (Number.real r).text
        = .ok (if Double.isNegative r
            then [⟨.minus, 0⟩, ⟨.real (readReal (Number.digits r)), 1⟩]
            else [⟨.real (readReal (Number.digits r)), 0⟩]) ∧
      ∀ c : Calculator, ∃ value, c.executeText (Number.real r).text = .ok (.real value) ∧
        (readReal (Number.digits r) = r.abs → value = r) := by
  refine ⟨Number.toList_text_real h, Number.digits_shape h, Number.sliced_text_real h, ?_,
    fun c => ⟨_, c.executeText_text_real_eq h, signed_readReal_digits h⟩⟩
  rw [Number.tokenize_text_real h, Number.placed_words]

/-- A small negative double is written with an exponent, the negative zero with a fraction,
and both are read back with their signs. -/
theorem executeText_text_real_signs :
    (-1.5e-5 : Float).isFinite = true ∧ (-0.0 : Float).isFinite = true ∧
      tokenize "-1.5e-5" = .ok [⟨.minus, 0⟩, ⟨.real 1.5e-5, 1⟩] ∧
      new.executeText "-1.5e-5" = .ok (.real (-1.5e-5)) ∧
      tokenize "-0.0" = .ok [⟨.minus, 0⟩, ⟨.real 0.0, 1⟩] ∧
      new.executeText "-0.0" = .ok (.real (-0.0)) := by
  have hsmall : (-1.5e-5 : Float).isFinite = true := by decide +kernel
  have hzero : (-0.0 : Float).isFinite = true := by decide +kernel
  have htext : (Number.real (-1.5e-5)).text = "-1.5e-5" := by decide +kernel
  have htext' : (Number.real (-0.0)).text = "-0.0" := by decide +kernel
  obtain ⟨-, -, -, htokens, hvalue⟩ := executeText_text_real hsmall
  obtain ⟨-, -, -, htokens', hvalue'⟩ := executeText_text_real hzero
  obtain ⟨value, hexecute, hread⟩ := hvalue new
  obtain ⟨value', hexecute', hread'⟩ := hvalue' new
  obtain rfl := hread (by decide +kernel)
  obtain rfl := hread' (by decide +kernel)
  rw [htext] at htokens hexecute
  rw [htext'] at htokens' hexecute'
  refine ⟨hsmall, hzero, htokens.trans ?_, hexecute, htokens'.trans ?_, hexecute'⟩
  · decide +kernel
  · decide +kernel

end Calculator

end Reckoner
