import Reckoner.Expr
import Reckoner.Lexeme

/-!
# The operations that a tree mentions

A tree mentions the operations of its operators and of its calls.  A minus sign in
front of an operand mentions none.

* `Expr.operators`, `Expr.calls` — the operators between operands, and the names called;
* `Expr.operations` — the operations that a tree mentions;
* `Lexeme.operation?` — the operation that a lexeme can be the mention of;
* `chain` — operands joined from the left by one operator.
-/

namespace Reckoner

/-- The operators that stand between two operands, in the order of the text. -/
def Expr.operators : Expr → List Operator
  | .literal _ _ => []
  | .negate operand _ => operand.operators
  | .binary left op right _ => left.operators ++ op :: right.operators
  | .call _ arguments _ => arguments.flatMap operators

/-- The names that a tree calls, in the order of the text. -/
def Expr.calls : Expr → List String
  | .literal _ _ => []
  | .negate operand _ => operand.calls
  | .binary left _ right _ => left.calls ++ right.calls
  | .call name arguments _ => name :: arguments.flatMap calls

/-- The operations that a tree mentions, in the order of the text. -/
def Expr.operations : Expr → List String
  | .literal _ _ => []
  | .negate operand _ => operand.operations
  | .binary left op right _ => left.operations ++ op.operationName :: right.operations
  | .call name arguments _ => name :: arguments.flatMap operations

/-- A tree mentions the names that it calls and the operations of its operators. -/
theorem Expr.mem_operations {e : Expr} {name : String} :
    name ∈ e.operations ↔
      name ∈ e.calls ∨ ∃ op ∈ e.operators, op.operationName = name := by
  induction e with
  | literal value position => simp [operations, calls, operators]
  | negate operand position ih => simpa only [operations, calls, operators] using ih
  | binary left op right position ihleft ihright =>
      simp only [operations, calls, operators, List.mem_append, List.mem_cons, ihleft, ihright]
      grind
  | call other arguments position ih =>
      simp only [operations, calls, operators, List.mem_cons, List.mem_flatMap]
      grind

/-- The operation that a lexeme can be the mention of: a name, or the operation of an
operator. -/
def Lexeme.operation? (lexeme : Lexeme) : Option String :=
  match lexeme with
  | .identifier name => some name
  | lexeme => lexeme.operator?.map Operator.operationName

/-- Operands joined from the left by one operator, each but the first with the position of
the operator before it. -/
def chain (op : Operator) (first : Expr) (others : List (Nat × Expr)) : Expr :=
  others.foldl (fun left link => .binary left op link.2 link.1) first

end Reckoner
