import Reckoner.Calculator
import Reckoner.Token

/-!
# Token sequences

A token sequence is evaluated group by group.  A registered name opens a group,
and the numbers up to the next registered name are its operands.  When a group
ends it is executed, and its result becomes the first operand of the group that
follows: `ADD 2 3 4 DIV 2 SUB 12` is `((2 + 3 + 4) / 2) - 12`.  What stands before
the first registered name is ignored.

* `Calculator.operation?` — the operation that a token opens a group of;
* `Calculator.foldTokens` — one pass over the tokens with at most one open group;
* `Calculator.executeSequence` — the same, each failure wrapped once.
-/

namespace Reckoner

/-- An operation that waits for the rest of its operands, the latest first. -/
structure Group where
  operation : String
  operands : List Number

namespace Group

/-- Adds one operand after those already there. -/
def push (g : Group) (operand : Number) : Group :=
  { g with operands := operand :: g.operands }

/-- The result of the group in a calculator. -/
def execute (g : Group) (c : Calculator) : Outcome Number :=
  c.execute g.operation g.operands.reverse

end Group

namespace Calculator

/-- The name of the token, if an operation is registered under it. -/
def operation? (c : Calculator) (token : Token) : Option String :=
  token.name?.filter c.contains

/-- Whether the token names a registered operation. -/
def isOperation (c : Calculator) (token : Token) : Bool :=
  (c.operation? token).isSome

/-- The group that a name opens.  The result of the group before it, if there is
one, is its first operand. -/
def openGroup (c : Calculator) (name : String) : Option Group → Outcome Group
  | none => .ok ⟨name, []⟩
  | some before => do return ⟨name, [← before.execute c]⟩

/-- The result of the tokens, given the group that is open. -/
def foldTokens (c : Calculator) : Option Group → List Token → Outcome Number
  | none, [] => .error .missingOperation
  | some group, [] => group.execute c
  | pending, token :: rest =>
    match c.operation? token, pending with
    | some name, pending => do c.foldTokens (some (← c.openGroup name pending)) rest
    | none, none => c.foldTokens none rest
    | none, some group => do c.foldTokens (some (group.push (← token.toNumber))) rest

/-- The value of a token sequence.  Whatever goes wrong in it is the cause of one
`wrongExpression`. -/
def executeSequence (c : Calculator) (tokens : List Token) : Outcome Number :=
  (c.foldTokens none tokens).mapError .wrongExpression

end Calculator

end Reckoner
