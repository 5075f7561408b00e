import Reckoner.Operator

/-!
# Reducers

A reducer turns the operands of an operation into its result.  The built-in
ones fold a pairwise operation from the left.

* `fold` — the reducer of a pairwise operation;
* `fold_append` — a fold may stop anywhere and go on from its partial result;
* `Operator.reducer` — the built-in reducer of each operator.
-/

namespace Reckoner

/-- What an operation does with its operands. -/
abbrev Reducer : Type := List Number → Outcome Number

/-- Combines the operands from the left, two at a time.  One operand is its own
result, and none at all is an error that bears the name. -/
def fold (name : String) (op : Number → Number → Outcome Number) : Reducer
  | [] => .error (.emptyArguments name)
  | first :: others => others.foldlM op first

/-- No operand is an error. -/
@[simp] theorem fold_nil (name : String) (op : Number → Number → Outcome Number) :
    fold name op [] = .error (.emptyArguments name) := rfl

/-- One operand is its own result, whatever the operation. -/
@[simp] theorem fold_singleton (name : String) (op : Number → Number → Outcome Number)
    (a : Number) : fold name op [a] = .ok a := rfl

/-- Two operands are combined once. -/
@[simp] theorem fold_pair (name : String) (op : Number → Number → Outcome Number)
    (a b : Number) : fold name op [a, b] = op a b := by
  simp [fold]

/-- The fold of two non-empty runs is the fold of the second, started with the
result of the first. -/
theorem fold_append (name : String) (op : Number → Number → Outcome Number)
    {xs : List Number} (ys : List Number) (h : xs ≠ []) :
    fold name op (xs ++ ys) = fold name op xs >>= fun a => fold name op (a :: ys) := by
  cases xs with
  | nil => exact absurd rfl h
  | cons first others => simp [fold, List.foldlM_append]

/-- The reducer that an operator's name is bound to at first. -/
def Operator.reducer (op : Operator) : Reducer :=
  fold op.operationName op.apply

end Reckoner
