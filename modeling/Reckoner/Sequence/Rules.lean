import Reckoner.Sequence

/-!
# The rules of token sequences

What a token sequence comes to, said by rules and not by a pass over it.  It is cut before
each registered name, and its groups are taken in order.  Of each group the operands are
looked at first, and then its operation is applied; the first thing that fails is the
outcome, whatever stands after it.

* `Calculator.Splits` — the tokens before the first group, and the groups;
* `Calculator.Yields` — what groups that follow a result come to.
-/

namespace Reckoner

/-- The tokens of groups, those of each after the name that opens it. -/
def groupTokens (groups : List (String × List Token)) : List Token :=
  groups.flatMap fun g => .name g.1 :: g.2

@[simp] theorem groupTokens_nil : groupTokens [] = [] := rfl

@[simp] theorem groupTokens_cons (g : String × List Token) (groups : List (String × List Token)) :
    groupTokens (g :: groups) = .name g.1 :: (g.2 ++ groupTokens groups) := by
  simp [groupTokens]

namespace Calculator

/-- The tokens are cut at the registered names, and at no other place. -/
structure Splits (c : Calculator) (tokens before : List Token)
    (groups : List (String × List Token)) : Prop where
  /-- Nothing is lost. -/
  joined : tokens = before ++ groupTokens groups
  /-- What opens a group is registered. -/
  opens : ∀ g ∈ groups, c.contains g.1 = true
  /-- Nothing registered stands before the first group. -/
  ignored : ∀ t ∈ before, c.isOperation t = false
  /-- Nothing registered stands inside a group. -/
  operands : ∀ g ∈ groups, ∀ t ∈ g.2, c.isOperation t = false

/-- The outcome of groups that follow a result, if there is one yet. -/
inductive Yields (c : Calculator) :
    Option Number → List (String × List Token) → Outcome Number → Prop
  /-- Without any group there is no operation. -/
  | missing : Yields c none [] (.error .missingOperation)
  /-- The result of the last group is the value. -/
  | done (result : Number) : Yields c (some result) [] (.ok result)
  /-- The first name among the operands of a group is the cause, and nothing after it has
  a part in that. -/
  | misplaced {carried : Option Number} {operation name : String} {numbers : List Number}
      {rest : List Token} {groups : List (String × List Token)} :
      Yields c carried ((operation, numbers.map .number ++ .name name :: rest) :: groups)
        (.error (.expectedNumber name))
  /-- An operation that fails is the cause, and no group after it has a part in that. -/
  | failed {carried : Option Number} {operation : String} {numbers : List Number}
      {groups : List (String × List Token)} {reducer : Reducer} {cause : RuntimeError}
      (hfind : c.find? operation = some reducer)
      (hcause : reducer (carried.toList ++ numbers) = .error cause) :
      Yields c carried ((operation, numbers.map .number) :: groups) (.error cause)
  /-- The result of a group is the first operand of the next. -/
  | next {carried : Option Number} {operation : String} {numbers : List Number}
      {groups : List (String × List Token)} {reducer : Reducer} {result : Number}
      {outcome : Outcome Number} (hfind : c.find? operation = some reducer)
      (hresult : reducer (carried.toList ++ numbers) = .ok result)
      (hrest : Yields c (some result) groups outcome) :
      Yields c carried ((operation, numbers.map .number) :: groups) outcome

end Calculator

end Reckoner
