import Reckoner.Decimal
import Reckoner.Double

/-!
# The shortest decimal that reads back

A double `m · 2 ^ q` is read back from every decimal nearer to it than to its
neighbours.  Those decimals fill an interval.  This module finds the one with
the fewest digits in it, and the nearest of those.

All is whole-number arithmetic: a power of two is a decimal, so the double and
both ends of its interval are whole multiples of one power of ten.

* `Interval.ofDouble` — the interval of a double;
* `Interval.neighbour?` — the better of the two grid points around the double;
* `Interval.shortest` — the coarsest grid that has one, and that point.
-/

namespace Reckoner.Decimal

/-- The reals that round to one double: from `low` to `high` around `value`, each
times `10 ^ exponent`.  The ends belong to it when `closed`. -/
structure Interval where
  low : Nat
  value : Nat
  high : Nat
  closed : Bool
  exponent : Int
deriving Repr, DecidableEq

namespace Interval

/-- The interval of `m · 2 ^ q`, in quarters of the unit `2 ^ q`.  It reaches half
a unit each way, but only a quarter down where the doubles below lie twice as
close.  A tie rounds to the even significand, so the ends belong to an even
`m` alone. -/
def ofDouble (m : Nat) (q : Int) : Interval :=
  let unit := if 2 ≤ q then Nat.pow 2 (q - 2).toNat else Nat.pow 5 (2 - q).toNat
  let below := if m = Double.leadingOne ∧ -1074 < q then 1 else 2
  { low := (4 * m - below) * unit
    value := 4 * m * unit
    high := (4 * m + 2) * unit
    closed := m % 2 = 0
    exponent := min (q - 2) 0 }

/-- Whether a number, on the scale of the interval, lies in it. -/
def holds (i : Interval) (n : Nat) : Bool :=
  if i.closed then i.low ≤ n ∧ n ≤ i.high else i.low < n ∧ n < i.high

/-- Of the two multiples of `10 ^ k` around the value, the one that lies in the
interval.  If both do, the nearer; halfway between them, the upper. -/
def neighbour? (i : Interval) (k : Nat) : Option Nat :=
  let grid := Nat.pow 10 k
  let d := i.value / grid
  let down := d * grid
  let up := (d + 1) * grid
  if i.holds down ∧ (¬ i.holds up ∨ i.value - down < up - i.value) then some d
  else if i.holds up then some (d + 1)
  else none

/-- The first grid that meets the interval, trying `10 ^ k` and then each finer
one.  The finest is the exact value itself. -/
def firstFrom (i : Interval) : Nat → Decimal
  | 0 => ⟨i.value, i.exponent⟩
  | k + 1 =>
    match i.neighbour? (k + 1) with
    | some d => ⟨d, i.exponent + (k + 1 : Nat)⟩
    | none => i.firstFrom k

/-- The decimal with the fewest digits in the interval, and of those the nearest.
The coarsest grid tried is the power of ten just above the value. -/
def shortest (i : Interval) : Decimal :=
  i.firstFrom (Nat.toDigits 10 i.value).length

end Interval

/-- The shortest decimal that reads back as `m · 2 ^ q`, and the nearest such. -/
def shortest (m : Nat) (q : Int) : Decimal :=
  if m = 0 then ⟨0, 0⟩ else (Interval.ofDouble m q).shortest

end Reckoner.Decimal
