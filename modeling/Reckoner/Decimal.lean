/-!
# Decimals

A decimal is a whole number scaled by a power of ten.  It stands between the
digits of a text and a double: reading rounds it to the nearest double, and
writing looks for the shortest one that reads back.

* `digitsValue` — the number that a run of digits spells;
* `Decimal.leading` — the power of ten of the first digit;
* `Decimal.toFloat` — the double nearest to a decimal, infinite past the last
  finite one.
-/

namespace Reckoner

/-- The number that a run of digits spells, most significant digit first. -/
def digitsValue (digits : List Char) : Nat :=
  digits.foldl (fun value c => 10 * value + (c.toNat - '0'.toNat)) 0

@[simp] theorem digitsValue_nil : digitsValue [] = 0 := rfl

/-- One more digit on the right multiplies by ten and adds it. -/
theorem digitsValue_concat (digits : List Char) (c : Char) :
    digitsValue (digits ++ [c]) = 10 * digitsValue digits + (c.toNat - '0'.toNat) := by
  simp [digitsValue]

/-- The number `significand · 10 ^ exponent`. -/
structure Decimal where
  significand : Nat
  exponent : Int
deriving Repr, DecidableEq

namespace Decimal

/-- The power of ten of the first digit. -/
def leading (d : Decimal) : Int :=
  d.exponent + ((Nat.toDigits 10 d.significand).length : Int) - 1

/-- The exponent, drawn in to where it decides.  Above `400` every positive
decimal is past the last finite double, and far enough below zero every one is
nearer to zero than to the least positive double; so the value read is the
same, and the powers of ten that reading computes stay small. -/
def usefulExponent (d : Decimal) : Int :=
  max (-(401 + (d.significand.log2 : Int))) (min 400 d.exponent)

/-- The double nearest to the decimal, a tie going to the even significand. -/
def toFloat (d : Decimal) : Float :=
  Float.ofScientific d.significand (d.usefulExponent < 0) d.usefulExponent.natAbs

end Decimal

end Reckoner
