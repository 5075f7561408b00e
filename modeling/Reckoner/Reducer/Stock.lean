import Reckoner.Reducer

/-!
# Ready-made reducers

Reducers to register beside the built-in ones.
-/

namespace Reckoner.Reducer

/-- The sum of the squares, from the integer zero. -/
def sumOfSquares : Reducer := fun operands =>
  operands.foldlM (fun sum n => do sum.add (← n.mul n)) (.integer 0)

/-- The same result, whatever the operands. -/
def always (value : Number) : Reducer := fun _ =>
  .ok value

/-- How many operands there are. -/
def count : Reducer := fun operands =>
  .ok (.integer (Int64.ofNat operands.length))

/-- The operand at an index; without one, an error that bears the name. -/
def nth (index : Nat) (name : String) : Reducer := fun operands =>
  match operands[index]? with
  | some operand => .ok operand
  | none => .error (.emptyArguments name)

/-- The largest operand when all are compared as doubles, the first of equals. -/
def largest (name : String) : Reducer :=
  fold name fun best n => .ok (if best.toFloat < n.toFloat then n else best)

/-- The sum of the whole parts. -/
def sumOfWholeParts : Reducer := fun operands =>
  operands.foldlM (fun sum n => sum.add (.integer n.toInt64)) (.integer 0)

/-- No result, for a fixed reason. -/
def failing (error : RuntimeError) : Reducer := fun _ =>
  .error error

end Reckoner.Reducer
