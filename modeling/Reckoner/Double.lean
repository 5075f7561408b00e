/-!
# Doubles taken apart

A finite double is exactly `± m · 2 ^ q`.  This module reads the sign, `m` and
`q` off the 64 bits, which is all that writing a double or cutting off its
fraction needs.

* `Double.isNegative`, `Double.magnitude` — sign bit and size;
* `Double.truncate` — the whole number left when the fraction is cut off.
-/

namespace Reckoner.Double

/-- The size of a double, its sign left out. -/
inductive Magnitude where
  /-- The number `significand · 2 ^ exponent`; zero has significand zero. -/
  | finite (significand : Nat) (exponent : Int)
  | infinite
  | nan
deriving Repr, DecidableEq

/-- Whether the sign bit is set, as it is for `-0.0` too. -/
def isNegative (r : Float) : Bool :=
  r.toBits.toNat.testBit 63

/-- How many values the 52 bits of the fraction field have.  It is the least significand
with a leading one. -/
def leadingOne : Nat := 4503599627370496

/-- The size that the exponent field (11 bits) and the fraction field (52 bits)
stand for.  A zero exponent field marks zero and the subnormals, whose
significand has no leading one; a full one marks infinity and NaN. -/
def magnitude (r : Float) : Magnitude :=
  let field : Nat := r.toBits.toNat / leadingOne % 2048
  let fraction : Nat := r.toBits.toNat % leadingOne
  if field = 2047 then
    if fraction = 0 then .infinite else .nan
  else if field = 0 then
    .finite fraction (-1074)
  else
    .finite (leadingOne + fraction) ((field : Int) - 1075)

/-- The whole part of `m · 2 ^ q`. -/
def wholePart (m : Nat) (q : Int) : Nat :=
  if 0 ≤ q then m <<< q.toNat else m >>> (-q).toNat

/-- The sign of the double, put before a whole number. -/
def signed (r : Float) (n : Nat) : Int :=
  if isNegative r then -(n : Int) else n

/-- The double without its fraction.  What lies outside 64 bits, infinities
included, goes to the nearest end of the range, and NaN goes to zero. -/
def truncate (r : Float) : Int64 :=
  match magnitude r with
  | .finite m q => Int64.ofIntClamp (signed r (wholePart m q))
  | .infinite => if isNegative r then Int64.minValue else Int64.maxValue
  | .nan => 0

end Reckoner.Double
