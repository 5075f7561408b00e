import Reckoner.Calculator
import Reckoner.Expr

/-!
# Evaluating expressions

An operand chain such as `1 + 2 - 3` is a tree that leans to the left, as deep as
the chain is long.  It is not evaluated from its root: the walk goes down the left
operands first and collects the steps still to be made, and then makes them from
the innermost outwards.  So only minus signs, calls, and right operands nest.

* `Steps` — operators with their right operands, waiting for the left one;
* `Steps.resume` — making the steps, innermost first;
* `Calculator.evalWith`, `Calculator.eval` — the value of a tree.
-/

namespace Reckoner

/-- Operators and the outcomes of their right operands, innermost first. -/
abbrev Steps : Type := List (Operator × Outcome Number)

namespace Steps

/-- Makes the steps, one after the other.  An error in the left operand comes
before one in the right, and both before one of the operation itself. -/
def resume (c : Calculator) (left : Outcome Number) : Steps → Outcome Number
  | [] => left
  | (op, right) :: outer =>
    resume c (do c.execute op.operationName [← left, ← right]) outer

end Steps

namespace Calculator

/-- The value of a tree, and then of the steps that wait for it.  The arguments of a
call are all evaluated, from left to right, before its name is looked up. -/
def evalWith (c : Calculator) : Expr → Steps → Outcome Number
  | .literal value _, steps => Steps.resume c (.ok value) steps
  | .negate operand _, steps => Steps.resume c (c.evalWith operand [] >>= Number.neg) steps
  | .binary left op right _, steps => c.evalWith left ((op, c.evalWith right []) :: steps)
  | .call name arguments _, steps =>
    Steps.resume c (arguments.mapM (fun a => c.evalWith a []) >>= c.execute name) steps

/-- The value of a tree.  A negation is not looked up by a name; an operator and a
call are. -/
def eval (c : Calculator) (e : Expr) : Outcome Number :=
  c.evalWith e []

end Calculator

end Reckoner
