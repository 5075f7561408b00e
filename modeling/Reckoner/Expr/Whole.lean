import Reckoner.Expr

/-!
# Whole-number expressions

Some trees can be told to have a whole value, without evaluating them: those in
which no real literal and no division occurs.  This module computes their value
exactly, in integers of any size, and lists the exact results on the way to it.

* `Expr.isWhole` — no real literal, no division of two operands or more;
* `Expr.exactValue` — the value of a whole tree;
* `Expr.wholeSteps` — the exact result of every step on whole operands;
* `Expr.usesBuiltins` — every call names a built-in operation and has an argument.
-/

namespace Reckoner

/-- The operator on integers of any size.  Division has no exact result here, and is
given none. -/
def Operator.exact : Operator → Int → Int → Int
  | add, a, b => a + b
  | sub, a, b => a - b
  | mul, a, b => a * b
  | div, _, _ => 0

/-- The results of folding from the left, one for each element. -/
def partialResults (f : Int → Int → Int) : Int → List Int → List Int
  | _, [] => []
  | a, b :: others => f a b :: partialResults f (f a b) others

namespace Expr

/-- Whether an expression has a whole value, as far as can be told without evaluating
it. -/
def isWhole : Expr → Bool
  | literal value _ => value.isInteger
  | negate operand _ => operand.isWhole
  | binary left op right _ => op != .div && left.isWhole && right.isWhole
  | call name arguments _ =>
    !(name == Operator.div.operationName && 2 ≤ arguments.length) &&
      (arguments.map isWhole).all id

/-- The value of a whole tree, exactly. -/
def exactValue : Expr → Int
  | literal (.integer n) _ => n.toInt
  | literal (.real _) _ => 0
  | negate operand _ => -operand.exactValue
  | binary left op right _ => op.exact left.exactValue right.exactValue
  | call name arguments _ =>
    match Operator.ofName? name, arguments.map exactValue with
    | some op, first :: others => others.foldl op.exact first
    | _, _ => 0

/-- The exact result of every step that has whole operands: a negation, a sum, a
difference or a product, and each pairwise step of a call as long as its arguments
are whole. -/
def wholeSteps : Expr → List Int
  | literal _ _ => []
  | negate operand _ =>
    operand.wholeSteps ++ if operand.isWhole then [-operand.exactValue] else []
  | binary left op right _ =>
    left.wholeSteps ++ right.wholeSteps ++
      if op != .div && left.isWhole && right.isWhole then
        [op.exact left.exactValue right.exactValue]
      else []
  | call name arguments _ =>
    arguments.flatMap wholeSteps ++
      match Operator.ofName? name, (arguments.takeWhile isWhole).map exactValue with
      | some .div, _ => []
      | some op, first :: others => partialResults op.exact first others
      | _, _ => []

/-- Whether every call names a built-in operation and has at least one argument. -/
def usesBuiltins : Expr → Bool
  | literal _ _ => true
  | negate operand _ => operand.usesBuiltins
  | binary left _ right _ => left.usesBuiltins && right.usesBuiltins
  | call name arguments _ =>
    (Operator.ofName? name).isSome && !arguments.isEmpty && (arguments.map usesBuiltins).all id

end Expr

end Reckoner
