import Reckoner.Calculator
import Reckoner.Expr

/-!
# The meaning of expressions

What a tree means, said node by node: a literal is its value, a negation negates,
and an operator or a call evaluates what is below it from left to right and then
applies the operation of its name.  The first error is the outcome.

* `Calculator.meaning` — the outcome of a tree, by recursion on it;
* `Expr.asCalls` — the tree with each operator written as the call of its operation.
-/

namespace Reckoner

/-- The outcome of a tree. -/
def Calculator.meaning (c : Calculator) : Expr → Outcome Number
  | .literal value _ => .ok value
  | .negate operand _ => do (← c.meaning operand).neg
  | .binary left op right _ => do
    let a ← c.meaning left
    let b ← c.meaning right
    c.execute op.operationName [a, b]
  | .call name arguments _ => do c.execute name (← arguments.mapM c.meaning)

/-- The tree with each operator written as the call of its operation. -/
def Expr.asCalls : Expr → Expr
  | .literal value position => .literal value position
  | .negate operand position => .negate operand.asCalls position
  | .binary left op right position =>
    .call op.operationName [left.asCalls, right.asCalls] position
  | .call name arguments position => .call name (arguments.map asCalls) position

end Reckoner
