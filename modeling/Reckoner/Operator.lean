import Reckoner.Number

/-!
# Binary operators

The four operators of infix text.  Each stands for the operation of its name, so
`1 + 2` means what `ADD(1, 2)` means, whatever is registered under `ADD`.

* `Operator.symbol` — the character written between two operands;
* `Operator.operationName`, `Operator.ofName?` — the operation that is looked up, and
  back;
* `Operator.apply` — the arithmetic that the name is bound to at first.
-/

namespace Reckoner

/-- A binary operator of infix text. -/
inductive Operator where
  | add
  | sub
  | mul
  | div
deriving Repr, DecidableEq

namespace Operator

/-- All four operators. -/
def all : List Operator :=
  [add, sub, mul, div]

/-- The character written between the operands. -/
def symbol : Operator → String
  | add => "+"
  | sub => "-"
  | mul => "*"
  | div => "/"

/-- The name of the operation that the operator stands for. -/
def operationName : Operator → String
  | add => "ADD"
  | sub => "SUB"
  | mul => "MUL"
  | div => "DIV"

/-- The operator of an operation, if the operation has one. -/
def ofName? (name : String) : Option Operator :=
  all.find? fun op => op.operationName == name

/-- The arithmetic of the operator. -/
def apply : Operator → Number → Number → Outcome Number
  | add => Number.add
  | sub => Number.sub
  | mul => Number.mul
  | div => Number.div

/-- Whether the operator binds its operands tighter than `+` and `-` do. -/
def isMultiplicative : Operator → Bool
  | add | sub => false
  | mul | div => true

/-- There is no other operator. -/
theorem mem_all (op : Operator) : op ∈ all := by
  cases op <;> decide

/-- Different operators stand for different operations. -/
theorem operationName_inj {a b : Operator} (h : a.operationName = b.operationName) : a = b := by
  cases a <;> cases b <;> first | rfl | exact absurd h (by decide)

/-- The operator of an operator's operation is that operator. -/
@[simp] theorem ofName?_operationName (op : Operator) : ofName? op.operationName = some op := by
  cases op <;> decide

/-- An operation has an operator exactly when it is the operation of one. -/
theorem ofName?_eq_some {name : String} {op : Operator} :
    ofName? name = some op ↔ op.operationName = name := by
  constructor
  · intro h
    simpa using List.find?_some h
  · rintro rfl
    exact ofName?_operationName op

end Operator

end Reckoner
