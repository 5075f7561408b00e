import Reckoner.Expr

/-!
# How deep an evaluation goes

The evaluation of a tree goes down its left operands in one go, so a chain is as
deep as its deepest operand however long it is.

* `Expr.evalDepth` — how many evaluations are open at once;
* `Expr.operands` — the first operand of a chain and then its right operands;
* `Expr.evalDepth_binary` — a chain is one deeper than the deepest of its operands.
-/

namespace Reckoner.Expr

/-- Whether the tree is the application of an operator. -/
def isBinary : Expr → Bool
  | binary _ _ _ _ => true
  | _ => false

/-- How many evaluations are open at once below the one of the tree itself. -/
def depthBelow : Expr → Nat
  | literal _ _ => 0
  | negate operand _ => operand.depthBelow + 1
  | binary left _ right _ =>
    max (if left.isBinary then left.depthBelow else left.depthBelow + 1) (right.depthBelow + 1)
  | call _ arguments _ => (arguments.map fun a => a.depthBelow + 1).foldr max 0

/-- How many evaluations are open at once when a tree is evaluated. -/
def evalDepth (e : Expr) : Nat :=
  e.depthBelow + 1

/-- The operands of a chain: what the walk down the left operands ends at, and then
the right operands, from the innermost outwards. -/
def operands : Expr → List Expr
  | binary left _ right _ => left.operands ++ [right]
  | e => [e]

/-- The deepest evaluation among several. -/
def deepest (es : List Expr) : Nat :=
  (es.map evalDepth).foldr max 0

/-- The deepest of two runs together is the deeper of their deepest. -/
theorem deepest_append (xs ys : List Expr) :
    deepest (xs ++ ys) = max (deepest xs) (deepest ys) := by
  induction xs with
  | nil => simp [deepest]
  | cons x xs ih =>
    simp only [deepest, List.cons_append, List.map_cons, List.foldr_cons] at ih ⊢
    omega

@[simp] theorem evalDepth_literal (value : Number) (position : Nat) :
    (literal value position).evalDepth = 1 := by
  simp [evalDepth, depthBelow]

@[simp] theorem evalDepth_negate (operand : Expr) (position : Nat) :
    (negate operand position).evalDepth = operand.evalDepth + 1 := by
  simp [evalDepth, depthBelow]

@[simp] theorem evalDepth_call (name : String) (arguments : List Expr) (position : Nat) :
    (call name arguments position).evalDepth = deepest arguments + 1 := by
  simp only [evalDepth, depthBelow, deepest]
  rfl

/-- Walking down a chain opens no evaluation, so what is below it is its operands. -/
theorem deepest_operands (e : Expr) :
    deepest e.operands = if e.isBinary then e.depthBelow else e.depthBelow + 1 := by
  induction e with
  | literal value position => simp [operands, deepest, isBinary, evalDepth]
  | negate operand position ih => simp [operands, deepest, isBinary, evalDepth]
  | binary left op right position ihleft ihright =>
    simp only [operands, deepest_append, ihleft, isBinary, depthBelow, if_true]
    simp [deepest, evalDepth]
  | call name arguments position ih => simp [operands, deepest, isBinary, evalDepth]

/-- A chain is one deeper than the deepest of its operands. -/
theorem evalDepth_binary (left : Expr) (op : Operator) (right : Expr) (position : Nat) :
    (binary left op right position).evalDepth
      = deepest (binary left op right position).operands + 1 := by
  simp [deepest_operands, isBinary, evalDepth]

end Reckoner.Expr
