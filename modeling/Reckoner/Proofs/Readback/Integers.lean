import Reckoner.Proofs.Composition

/-!
# Integers are read back

The text of an integer is its sign and its digits.  The sign is no part of a numeral, so
what is read is the digits, and then they are negated.  Zeros in front of the digits do not
change their value, however many there are.  Only the least integer has digits that do not
fit by themselves.

* `zeroPadded` — a text with zeros after its sign;
* `Number.toList_text_integer` — an integer is written as its sign and its digits;
* `scan_of_not_fits` — digits that do not fit are an error;
* `Calculator.executeText_zeroPadded` — an integer is read back, unless it is the least.
-/

namespace Reckoner

/-- The text with zeros after its sign, or in front of it when it has none. -/
def zeroPadded (zeros : Nat) (text : String) : String :=
  String.ofList ((Numeral.splitSign text.toList).1
    ++ (List.replicate zeros '0' ++ (Numeral.splitSign text.toList).2))

/-- With no zeros the text stays as it is. -/
@[simp] theorem zeroPadded_zero (text : String) : zeroPadded 0 text = text := by
  rw [zeroPadded, List.replicate_zero, List.nil_append, Numeral.splitSign_append,
    String.ofList_toList]

example : zeroPadded 2 "-7" = "-007" := by decide +kernel

/-- The digits of a whole number with zeros in front of them. -/
def zeroPaddedDigits (zeros n : Nat) : List Char :=
  List.replicate zeros '0' ++ Nat.toDigits 10 n

/-- Zeros in front of a run of digits do not change its value. -/
@[simp] theorem digitsValue_zeros_append (zeros : Nat) (digits : List Char) :
    digitsValue (List.replicate zeros '0' ++ digits) = digitsValue digits := by
  induction zeros with
  | zero => rfl
  | succ zeros ih =>
      rw [List.replicate_succ, List.cons_append, ← ih]
      rfl

/-- The digits of a whole number have its value, with zeros in front or without. -/
@[simp] theorem digitsValue_zeroPaddedDigits (zeros n : Nat) :
    digitsValue (zeroPaddedDigits zeros n) = n := by
  rw [zeroPaddedDigits, digitsValue_zeros_append, digitsValue_toDigits]

/-- Zeros and the digits of a whole number are a run of digits. -/
theorem isDigits_zeroPaddedDigits (zeros n : Nat) : IsDigits (zeroPaddedDigits zeros n) := by
  refine ⟨by simp [zeroPaddedDigits, Nat.toDigits_ne_nil], fun c hc => ?_⟩
  exact (List.mem_append.1 hc).elim isDigit_of_mem_zeros ((isDigits_toDigits n).2 c)

namespace Number

/-- An integer is written as its sign and its digits. -/
theorem toList_text_integer (n : Int64) :
    (integer n).text.toList
      = (if n.toInt < 0 then ['-'] else []) ++ Nat.toDigits 10 n.toInt.natAbs := by
  change (toString n.toInt).toList = _
  rw [Int.toString_eq_repr]
  cases h : n.toInt with
  | ofNat m => simp [Int.repr]
  | negSucc m => simp [Int.repr, Int.negSucc_lt_zero]

/-- With zeros after its sign an integer is written as its sign, the zeros and its digits. -/
theorem zeroPadded_text_integer (zeros : Nat) (n : Int64) :
    zeroPadded zeros (integer n).text
      = String.ofList ((if n.toInt < 0 then ['-'] else [])
          ++ zeroPaddedDigits zeros n.toInt.natAbs) := by
  have hrun := isDigits_toDigits n.toInt.natAbs
  obtain ⟨d, ds, hdigits⟩ := List.exists_cons_of_ne_nil hrun.1
  have hd : d.isDigit = true := hrun.2 d (by simp [hdigits])
  have hsign : (if n.toInt < 0 then ['-'] else []) = [] ∨
      (if n.toInt < 0 then ['-'] else []) = ['+'] ∨
      (if n.toInt < 0 then ['-'] else []) = ['-'] := by
    split
    · exact .inr (.inr rfl)
    · exact .inl rfl
  rw [zeroPadded, toList_text_integer, zeroPaddedDigits, hdigits,
    Numeral.splitSign_of_isDigit hsign hd]

end Number

/-- Digits whose value does not fit are an error where they start. -/
theorem scan_of_not_fits {digits : List Char} (h : IsDigits digits)
    (hlarge : ¬ Number.Fits (digitsValue digits)) (offset : Nat) :
    scan offset digits = .error (.literalTooLarge offset) := by
  have hlongest : Longest (digits ++ []) ⟨.integer, digits, []⟩ :=
    longest_numeral (.inr rfl) h (by simp)
  rw [List.append_nil] at hlongest
  exact (Breaks.tooLarge hlongest rfl hlarge).scan_eq

namespace Calculator

variable (c : Calculator) (zeros : Nat) {n : Int64}

/-- What is not negative is its digits. -/
theorem executeText_zeroPadded_of_nonneg (h : 0 ≤ n.toInt) :
    c.executeText (zeroPadded zeros (Number.integer n).text) = .ok (.integer n) := by
  have hvalue : (digitsValue (zeroPaddedDigits zeros n.toInt.natAbs) : Int) = n.toInt := by
    rw [digitsValue_zeroPaddedDigits, Int.natAbs_of_nonneg h]
  have hwritten : Written Delimits .expression 0 _ _ 0 :=
    (Written.integer (isDigits_zeroPaddedDigits zeros _) hvalue 0).widen (by decide)
  rw [Number.zeroPadded_text_integer, if_neg (Int.not_lt.2 h), List.nil_append,
    hwritten.executeText (Nat.zero_le _), Calculator.meaning]
  rfl

/-- What is negative is the opposite of its digits, if they fit. -/
theorem executeText_zeroPadded_of_neg (h : n.toInt < 0) (hmin : n ≠ Int64.minValue) :
    c.executeText (zeroPadded zeros (Number.integer n).text) = .ok (.integer n) := by
  have habs : (n.toInt.natAbs : Int) = -n.toInt := Int.ofNat_natAbs_of_nonpos (Int.le_of_lt h)
  have hfits : Number.Fits (n.toInt.natAbs : Int) := by
    have hne : n.toInt ≠ -9223372036854775808 := fun heq => hmin (Int64.toInt_inj.1 heq)
    have hrange := Number.fits_toInt n
    unfold Number.Fits at hrange ⊢
    omega
  have hvalue : (digitsValue (zeroPaddedDigits zeros n.toInt.natAbs) : Int)
      = (Int64.ofInt n.toInt.natAbs).toInt := by
    rw [digitsValue_zeroPaddedDigits, Number.toInt_ofInt_of_fits hfits]
  have hoperand : Written Delimits .unary 1 _ _ 0 :=
    (Written.integer (isDigits_zeroPaddedDigits zeros _) hvalue 1).widen (by decide)
  have hwritten : Written Delimits .expression 0 _ _ 1 := hoperand.negate.widen (by decide)
  have hneg : (Number.integer (Int64.ofInt n.toInt.natAbs)).neg = .ok (.integer n) := by
    rw [Number.neg, Number.toInt_ofInt_of_fits hfits, habs, Int.neg_neg,
      Number.exact_of_fits (Number.fits_toInt n), Int64.ofInt_toInt]
  rw [Number.zeroPadded_text_integer, if_pos h, List.singleton_append,
    hwritten.executeText (by decide)]
  simp only [Calculator.meaning]
  change ((Number.integer (Int64.ofInt n.toInt.natAbs)).neg).mapError Error.runtime = _
  rw [hneg]
  rfl

/-- The digits of the least integer do not fit, and the error points at them. -/
theorem executeText_zeroPadded_minValue :
    c.executeText (zeroPadded zeros (Number.integer Int64.minValue).text)
      = .error (.parse (.literalTooLarge 1)) := by
  have hlarge : ¬ Number.Fits
      (digitsValue (zeroPaddedDigits zeros Int64.minValue.toInt.natAbs)) := by
    rw [digitsValue_zeroPaddedDigits]
    decide
  refine executeText_eq_parse_error_iff.2 (readExpression_eq_error_iff.2 (.inl ?_))
  rw [Number.zeroPadded_text_integer, if_pos (by decide), List.singleton_append, tokenize,
    String.toList_ofList, scan_of_cut?_eq_some (cut?_of_mark? rfl _)]
  change (scan 1 _).bind _ = _
  rw [scan_of_not_fits (isDigits_zeroPaddedDigits zeros _) hlarge]
  rfl

/-- **Integers are read back.**  Every calculator reads the text of an integer as the
integer, with zeros after its sign or without.  The one exception is the least integer: its
digits do not fit without the sign, whatever zeros stand before them. -/
theorem executeText_zeroPadded (n : Int64) :
    c.executeText (zeroPadded zeros (Number.integer n).text)
      = if n = Int64.minValue then .error (.parse (.literalTooLarge 1)) else .ok (.integer n) := by
  split
  next hmin =>
    rw [hmin]
    exact c.executeText_zeroPadded_minValue zeros
  next hmin =>
    rcases Int.lt_or_le n.toInt 0 with hneg | hnonneg
    · exact c.executeText_zeroPadded_of_neg zeros hneg hmin
    · exact c.executeText_zeroPadded_of_nonneg zeros hnonneg

end Calculator

end Reckoner
