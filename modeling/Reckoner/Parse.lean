import Reckoner.Parse.State

/-!
# From lexemes to expressions

    expression     := additive
    additive       := multiplicative (("+" | "-") multiplicative)*
    multiplicative := unary (("*" | "/") unary)*
    unary          := "-" unary | primary
    primary        := INTEGER | REAL
                    | NAME "(" [expression ("," expression)*] ")"
                    | "(" expression ")"

Chains lean to the left.  A reading is one pass over the lexemes, and each of them
is looked at once.

* `State.run` — reading on from a state;
* `parseRule` — the longest chain of a kind at the front, and the lexemes after it;
* `parse` — the expression that all the lexemes make up.
-/

namespace Reckoner

/-- Reads on from a state until the expression ends. -/
def State.run (s : State) : List PlacedLexeme → Except ParseError (Expr × List PlacedLexeme)
  | [] => do return (← s.finish, [])
  | t :: rest => do
    match ← s.step t with
    | .advance s => s.run rest
    | .finish value => return (value, t :: rest)

/-- The chain of a kind at the front of the lexemes, and the lexemes after it, when
`depth` constructs are open already. -/
def parseRule (rule : Rule) (depth : Nat) (lexemes : List PlacedLexeme) :
    Except ParseError (Expr × List PlacedLexeme) :=
  (State.start rule depth).run lexemes

/-- The expression that the lexemes make up, all of them. -/
def parse (lexemes : List PlacedLexeme) : Except ParseError Expr := do
  match ← parseRule .expression 0 lexemes with
  | (value, []) => return value
  | (_, t :: _) => .error (.unexpectedTrailingTokens t.lexeme.text t.position)

end Reckoner
