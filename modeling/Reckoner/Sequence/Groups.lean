import Reckoner.Sequence
import Reckoner.Expr

/-!
# The groups of a token sequence

A token sequence is cut before each registered name.  This module says what the
groups are and what they come to, without a pass over the tokens that does both at
once.

* `Calculator.split` — what stands before the first group, and the groups;
* `Calculator.groupsOutcome` — the outcome of groups, the first cause of failure first;
* `nest` — groups of numbers as calls, each inside the one that follows.
-/

namespace Reckoner

namespace Calculator

/-- The tokens before the first registered name, and each registered name with the
tokens up to the next one. -/
def split (c : Calculator) : List Token → List Token × List (String × List Token)
  | [] => ([], [])
  | token :: rest =>
    let (before, groups) := c.split rest
    match c.operation? token with
    | some name => ([], (name, before) :: groups)
    | none => (token :: before, groups)

/-- The outcome of groups that follow a result, if there is one yet.  Of each group the
operands come first, and then its operation. -/
def groupsOutcome (c : Calculator) : Option Number → List (String × List Token) → Outcome Number
  | none, [] => .error .missingOperation
  | some result, [] => .ok result
  | carried, (name, tokens) :: groups => do
    let numbers ← tokens.mapM Token.toNumber
    let result ← c.execute name (carried.toList ++ numbers)
    c.groupsOutcome (some result) groups

end Calculator

/-- Groups of numbers as one call: the first group is innermost, and each call is the
first argument of the next. -/
def nest : Expr → List (String × List Number) → Expr
  | inner, [] => inner
  | inner, (name, numbers) :: groups =>
    nest (.call name (inner :: numbers.map fun n => .literal n 0) 0) groups

end Reckoner
