import Reckoner.Decimal.Shortest
import Reckoner.Double

/-!
# Laying out a real number

A double is written with the digits of its shortest decimal.  A `Layout` says
what else there is to decide: when the digits are written positionally, and
whether a whole value keeps a fraction.

* `Layout.positional`, `Layout.scientific` — the two ways of writing a decimal;
* `Layout.text` — the text of any double.
-/

namespace Reckoner

/-- How real numbers are written. -/
structure Layout where
  /-- Whole values keep the fraction `.0`. -/
  keepsFraction : Bool
  /-- The powers of ten of the first digit, lowest and highest, that are written
  positionally; with none, all are. -/
  positionalRange : Option (Int × Int)
deriving Repr, DecidableEq

namespace Layout

/-- The digits with the point where the exponent puts it: `0.0001`, `12.5`, `300`. -/
def positional (l : Layout) (d : Decimal) : List Char :=
  let digits := Nat.toDigits 10 d.significand
  let point := d.exponent + (digits.length : Int)
  if point ≤ 0 then
    ['0', '.'] ++ List.replicate (-point).toNat '0' ++ digits
  else if d.exponent < 0 then
    digits.take point.toNat ++ ['.'] ++ digits.drop point.toNat
  else
    digits ++ List.replicate d.exponent.toNat '0'
      ++ (if l.keepsFraction then ['.', '0'] else [])

/-- The decimal digits of an exponent, with a sign only below zero. -/
def exponentText (e : Int) : List Char :=
  if e < 0 then '-' :: Nat.toDigits 10 e.natAbs else Nat.toDigits 10 e.natAbs

/-- One digit, the others after a point, and the exponent: `1e16`, `1.5e-5`. -/
def scientific (d : Decimal) : List Char :=
  let digits := Nat.toDigits 10 d.significand
  let fraction := digits.drop 1
  digits.take 1 ++ (if fraction = [] then [] else '.' :: fraction)
    ++ ['e'] ++ exponentText d.leading

/-- The digits of a decimal, positional within the layout's range. -/
def decimal (l : Layout) (d : Decimal) : List Char :=
  match l.positionalRange with
  | none => l.positional d
  | some (lowest, highest) =>
    if lowest ≤ d.leading ∧ d.leading ≤ highest then l.positional d else scientific d

/-- The minus sign of a double whose sign bit is set. -/
def sign (r : Float) : List Char :=
  if Double.isNegative r then ['-'] else []

/-- The characters of a double.  NaN has no sign. -/
def chars (l : Layout) (r : Float) : List Char :=
  match Double.magnitude r with
  | .finite m q => sign r ++ l.decimal (Decimal.shortest m q)
  | .infinite => sign r ++ ['i', 'n', 'f']
  | .nan => ['N', 'a', 'N']

/-- The text of a double. -/
def text (l : Layout) (r : Float) : String :=
  String.ofList (l.chars r)

end Layout

end Reckoner
