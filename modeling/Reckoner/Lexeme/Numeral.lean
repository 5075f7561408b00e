import Reckoner.Decimal

/-!
# Numerals

A numeral is a run of digits with an optional fraction and an optional exponent.
It is real when it has one of the two, and the digits may be missing only before
a fraction: `42`, `2.5`, `.5`, `2e3`, `.5e-3`.  A point needs a digit after it,
and an `e` needs digits after it and its sign, or they belong to what follows.

* `Numeral.split` — the longest numeral at the front of a text, and the rest;
* `Numeral.split_append` — the two together are the text;
* `Numeral.toDecimal` — the value that a numeral spells;
* `readReal` — the double that a spelling stands for.
-/

namespace Reckoner

/-- The digits of a text up to its first other character, and what is left. -/
def spanDigits (cs : List Char) : List Char × List Char :=
  (cs.takeWhile Char.isDigit, cs.dropWhile Char.isDigit)

/-- The characters of a numeral in its three parts.  The fraction includes its
point, and the exponent its `e` and its sign. -/
structure Numeral where
  whole : List Char
  fraction : List Char
  exponent : List Char
deriving Repr, DecidableEq

namespace Numeral

/-- A point with at least one digit after it, or nothing. -/
def splitFraction : List Char → List Char × List Char
  | '.' :: cs =>
    match spanDigits cs with
    | ([], _) => ([], '.' :: cs)
    | (digits, rest) => ('.' :: digits, rest)
  | cs => ([], cs)

/-- A sign, or nothing. -/
def splitSign : List Char → List Char × List Char
  | '+' :: cs => (['+'], cs)
  | '-' :: cs => (['-'], cs)
  | cs => ([], cs)

/-- An `e` with at least one digit after it and its sign, or nothing. -/
def splitExponent : List Char → List Char × List Char
  | [] => ([], [])
  | c :: cs =>
    if c = 'e' ∨ c = 'E' then
      match spanDigits (splitSign cs).2 with
      | ([], _) => ([], c :: cs)
      | (digits, rest) => (c :: (splitSign cs).1 ++ digits, rest)
    else ([], c :: cs)

/-- The longest numeral at the front of a text, and the rest.  With neither digits
nor a fraction there is none, and its parts are empty. -/
def split (cs : List Char) : Numeral × List Char :=
  let (whole, afterWhole) := spanDigits cs
  let (fraction, afterFraction) := splitFraction afterWhole
  if whole = [] ∧ fraction = [] then
    (⟨[], [], []⟩, cs)
  else
    let (exponent, rest) := splitExponent afterFraction
    (⟨whole, fraction, exponent⟩, rest)

/-- The characters of the numeral. -/
def spelling (n : Numeral) : List Char :=
  n.whole ++ n.fraction ++ n.exponent

/-- Whether the numeral is real, rather than whole. -/
def isReal (n : Numeral) : Bool :=
  !n.fraction.isEmpty || !n.exponent.isEmpty

/-- The whole number after `e`. -/
def exponentValue : List Char → Int
  | [] => 0
  | _ :: cs =>
    match splitSign cs with
    | (['-'], digits) => -(digitsValue digits : Int)
    | (_, digits) => digitsValue digits

/-- The decimal that the numeral spells.  Each digit of the fraction lowers the
exponent by one. -/
def toDecimal (n : Numeral) : Decimal :=
  let fraction := n.fraction.drop 1
  { significand := digitsValue (n.whole ++ fraction)
    exponent := exponentValue n.exponent - fraction.length }

/-- No part of a split loses a character. -/
theorem spanDigits_append (cs : List Char) : (spanDigits cs).1 ++ (spanDigits cs).2 = cs :=
  List.takeWhile_append_dropWhile

theorem splitFraction_append (cs : List Char) :
    (splitFraction cs).1 ++ (splitFraction cs).2 = cs := by
  fun_cases splitFraction cs with
  | case1 cs rest h => rfl
  | case2 cs digits rest _ h => simpa [h] using spanDigits_append cs
  | case3 cs => rfl

theorem splitSign_append (cs : List Char) : (splitSign cs).1 ++ (splitSign cs).2 = cs := by
  fun_cases splitSign cs <;> rfl

theorem splitExponent_append (cs : List Char) :
    (splitExponent cs).1 ++ (splitExponent cs).2 = cs := by
  fun_cases splitExponent cs with
  | case1 => rfl
  | case2 c cs _ rest h => rfl
  | case3 c cs _ digits rest _ h =>
    have hdigits := spanDigits_append (splitSign cs).2
    rw [h] at hdigits
    simpa [hdigits] using splitSign_append cs
  | case4 => rfl

/-- A numeral and what is left make up the text. -/
theorem split_append (cs : List Char) : (split cs).1.spelling ++ (split cs).2 = cs := by
  unfold split spelling
  by_cases h : (spanDigits cs).1 = [] ∧ (splitFraction (spanDigits cs).2).1 = []
  · simp [h]
  · simp only [h, if_false, List.append_assoc, splitExponent_append, splitFraction_append,
      spanDigits_append]

end Numeral

/-- The double that a spelling stands for. -/
def readReal (spelling : List Char) : Float :=
  (Numeral.split spelling).1.toDecimal.toFloat

end Reckoner
