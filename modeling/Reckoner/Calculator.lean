import Std.Data.ExtTreeMap
import Reckoner.Reducer
import Reckoner.Text.ByteOrder

/-!
# Calculators

A calculator holds operations by name, and a policy for names that are taken.
Names are kept in the order of their UTF-8 bytes, so a calculator is determined
by what each name is bound to.

* `Calculator.withPolicy` — the built-in operations, nothing else;
* `Calculator.register`, `Calculator.unregister` — the two ways to change one;
* `Calculator.find?`, `Calculator.lookup`, `Calculator.contains`,
  `Calculator.operationNames` — the ways to look at one;
* `Calculator.execute` — applying an operation to operands.
-/

namespace Reckoner

/-- What happens when a name that is taken is registered again. -/
inductive Policy where
  /-- The new operation replaces the old one. -/
  | overwrite
  /-- The old operation stays, and registering fails. -/
  | reject
deriving Repr, DecidableEq

/-- The registered operations and the policy for names that are taken. -/
structure Calculator where
  operations : Std.ExtTreeMap String Reducer byteOrder
  policy : Policy

namespace Calculator

/-- The built-in operations, one for each operator. -/
def builtins : Std.ExtTreeMap String Reducer byteOrder :=
  Operator.all.foldl (fun operations op => operations.insert op.operationName op.reducer) ∅

/-- A calculator that holds the built-in operations. -/
def withPolicy (policy : Policy) : Calculator :=
  { operations := builtins, policy }

/-- The usual calculator, which overwrites. -/
def new : Calculator :=
  withPolicy .overwrite

instance : Inhabited Calculator := ⟨new⟩

/-- The operation of a name, if there is one. -/
def find? (c : Calculator) (name : String) : Option Reducer :=
  c.operations[name]?

/-- Whether a name has an operation. -/
def contains (c : Calculator) (name : String) : Bool :=
  c.operations.contains name

/-- The registered names in the order of their UTF-8 bytes. -/
def operationNames (c : Calculator) : List String :=
  c.operations.keys

/-- Binds a name to an operation.  Under `reject` a name that is taken stays as it
is, and the calculator with it. -/
def register (c : Calculator) (name : String) (reducer : Reducer) : Outcome Calculator :=
  if c.policy = .reject ∧ c.contains name then
    .error (.functionAlreadyDefined name)
  else
    .ok { c with operations := c.operations.insert name reducer }

/-- Frees a name, and gives back the operation it had. -/
def unregister (c : Calculator) (name : String) : Option Reducer × Calculator :=
  (c.find? name, { c with operations := c.operations.erase name })

/-- The operation of a name, or the error that there is none. -/
def lookup (c : Calculator) (name : String) : Outcome Reducer :=
  match c.find? name with
  | some reducer => .ok reducer
  | none => .error (.functionNotFound name)

/-- Applies the operation of a name to operands. -/
def execute (c : Calculator) (name : String) (operands : List Number) : Outcome Number := do
  (← c.lookup name) operands

end Calculator

end Reckoner
