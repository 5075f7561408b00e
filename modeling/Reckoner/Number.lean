import Reckoner.Decimal.Layout
import Reckoner.Error

/-!
# Numbers

A number is a 64-bit integer or a double.  Two integers stay integers under
`+`, `-` and `*`, and a result that does not fit is an overflow, never a wrapped
value.  As soon as one operand is real, both are; and `/` is always real.

* `Number.add`, `Number.sub`, `Number.mul`, `Number.div`, `Number.neg` —
  arithmetic;
* `Number.toFloat`, `Number.toInt64` — conversion to either kind;
* `Number.text` — how a number is written.
-/

namespace Reckoner

/-- A 64-bit integer or a double. -/
inductive Number where
  | integer (value : Int64)
  | real (value : Float)
deriving Repr, DecidableEq

namespace Number

/-- An integer equals an integer, and reals compare as IEEE doubles do; an
integer never equals a real. -/
def equal : Number → Number → Bool
  | integer a, integer b => a == b
  | real a, real b => a == b
  | _, _ => false

/-- Whether the number is an integer. -/
def isInteger : Number → Bool
  | integer _ => true
  | real _ => false

/-- Whether the number is real. -/
def isReal : Number → Bool
  | integer _ => false
  | real _ => true

/-- The number as a double, the nearest one for an integer. -/
def toFloat : Number → Float
  | integer n => Float.ofInt n.toInt
  | real r => r

/-- The number as an integer, a real losing its fraction. -/
def toInt64 : Number → Int64
  | integer n => n
  | real r => Double.truncate r

/-- Whether a whole number fits in 64 bits, one of them for the sign. -/
def Fits (n : Int) : Prop :=
  -9223372036854775808 ≤ n ∧ n ≤ 9223372036854775807

instance (n : Int) : Decidable (Fits n) :=
  inferInstanceAs (Decidable (_ ∧ _))

/-- The integer that is exactly `n`, or an overflow. -/
def exact (n : Int) : Outcome Number :=
  if Fits n then .ok (integer (Int64.ofInt n)) else .error .overflow

/-- What fits is the result. -/
theorem exact_of_fits {n : Int} (h : Fits n) : exact n = .ok (integer (Int64.ofInt n)) :=
  if_pos h

/-- What does not fit overflows. -/
theorem exact_of_not_fits {n : Int} (h : ¬ Fits n) : exact n = .error .overflow :=
  if_neg h

/-- Every 64-bit integer fits. -/
theorem fits_toInt (n : Int64) : Fits n.toInt :=
  ⟨n.le_toInt, n.toInt_le⟩

/-- A whole number that fits is kept exactly. -/
theorem toInt_ofInt_of_fits {n : Int} (h : Fits n) : (Int64.ofInt n).toInt = n :=
  Int64.toInt_ofInt_of_le h.1 (Int.lt_of_le_of_lt h.2 (by decide))

/-- An operation that is exact on two integers and otherwise works on doubles. -/
def combine (whole : Int → Int → Int) (inexact : Float → Float → Float) :
    Number → Number → Outcome Number
  | integer a, integer b => exact (whole a.toInt b.toInt)
  | a, b => .ok (real (inexact a.toFloat b.toFloat))

/-- The sum, exact on integers. -/
def add : Number → Number → Outcome Number :=
  combine (· + ·) (· + ·)

/-- The difference, exact on integers. -/
def sub : Number → Number → Outcome Number :=
  combine (· - ·) (· - ·)

/-- The product, exact on integers. -/
def mul : Number → Number → Outcome Number :=
  combine (· * ·) (· * ·)

/-- Division is always real, so dividing by zero gives an infinity or NaN. -/
def div (a b : Number) : Outcome Number :=
  .ok (real (a.toFloat / b.toFloat))

/-- The opposite.  Only the least integer has none. -/
def neg : Number → Outcome Number
  | integer n => exact (-n.toInt)
  | real r => .ok (real (-r))

/-- Reals keep their fraction, and are written positionally from `0.0001` up to,
but not including, `1e16`. -/
def layout : Layout :=
  { keepsFraction := true, positionalRange := some (-4, 15) }

/-- How a number is written. -/
def text : Number → String
  | integer n => toString n.toInt
  | real r => layout.text r

end Number

end Reckoner
