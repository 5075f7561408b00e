import Mathlib.Data.List.MinMax
import Mathlib.Order.Nat
import Reckoner.Expr.Walk
import Reckoner.Parse.State

/-!
# The grammar of expressions

    expression     := additive
    additive       := multiplicative (("+" | "-") multiplicative)*
    multiplicative := unary (("*" | "/") unary)*
    unary          := "-" unary | primary
    primary        := INTEGER | REAL
                    | NAME "(" [expression ("," expression)*] ")"
                    | "(" expression ")"

The grammar says which lexemes make up a phrase, which tree they stand for, and how
deep their brackets, calls and minus signs nest.  It does not say how to find out.

* `Derives` — a phrase, its lexemes, its tree and its nesting;
* `Derives.widen`, `Derives.operate` — chains of one operand, and chains in general;
* `Rule.phrase`, `Rule.Ends` — the phrase of a kind of chain, and what stops it.
-/

namespace Reckoner

/-- The phrases of the grammar. -/
inductive Phrase where
  | expression
  | additive
  | multiplicative
  | unary
  | primary
deriving Repr, DecidableEq

/-- How much a phrase admits: each phrase can stand for those of the levels above. -/
def Phrase.level : Phrase → Nat
  | primary => 0
  | unary => 1
  | multiplicative => 2
  | additive => 3
  | expression => 4

/-- The chains that an operator makes. -/
def Operator.chain (op : Operator) : Phrase :=
  if op.isMultiplicative then .multiplicative else .additive

/-- The right operands that an operator takes. -/
def Operator.operand (op : Operator) : Phrase :=
  if op.isMultiplicative then .unary else .multiplicative

/-- An argument of a call: its lexemes, its tree, its nesting, and where the comma
before it stands, if it has one. -/
structure Argument where
  lexemes : List PlacedLexeme
  tree : Expr
  nesting : Nat
  comma : Nat

namespace Argument

/-- The lexemes of arguments after the first, each with its comma. -/
def following : List Argument → List PlacedLexeme
  | [] => []
  | a :: others => ⟨.comma, a.comma⟩ :: (a.lexemes ++ following others)

/-- The lexemes of all arguments, a comma between each two. -/
def joined : List Argument → List PlacedLexeme
  | [] => []
  | a :: others => a.lexemes ++ following others

/-- The deepest nesting among arguments. -/
def deepest (arguments : List Argument) : Nat :=
  arguments.foldr (fun a n => max a.nesting n) 0

/-- The deepest nesting is the greatest. -/
theorem deepest_eq (arguments : List Argument) :
    deepest arguments = (arguments.map nesting).foldr max 0 :=
  List.foldr_map.symm

/-- No argument nests deeper than the deepest. -/
theorem nesting_le_deepest {a : Argument} {arguments : List Argument} (h : a ∈ arguments) :
    a.nesting ≤ deepest arguments := by
  rw [deepest_eq]
  exact List.le_max_of_le (List.mem_map_of_mem h) (Nat.le_refl _)

/-- The deepest argument nests no deeper than a bound on all of them. -/
theorem deepest_le {arguments : List Argument} {bound : Nat}
    (h : ∀ a ∈ arguments, a.nesting ≤ bound) : deepest arguments ≤ bound := by
  rw [deepest_eq]
  exact List.max_le_of_forall_le _ _ (List.forall_mem_map.2 h)

end Argument

/-- The lexemes make up the phrase, with this tree and this nesting. -/
inductive Derives : Phrase → List PlacedLexeme → Expr → Nat → Prop
  | expression {ts : List PlacedLexeme} {e : Expr} {n : Nat} (additive : Derives .additive ts e n) :
      Derives .expression ts e n
  | term {ts : List PlacedLexeme} {e : Expr} {n : Nat} (term : Derives .multiplicative ts e n) :
      Derives .additive ts e n
  | sum {ls rs : List PlacedLexeme} {left right : Expr} {m n position : Nat} {op : Operator}
      (hkind : op.isMultiplicative = false) (hleft : Derives .additive ls left m)
      (hright : Derives .multiplicative rs right n) :
      Derives .additive (ls ++ ⟨op.lexeme, position⟩ :: rs) (.binary left op right position)
        (max m n)
  | factor {ts : List PlacedLexeme} {e : Expr} {n : Nat} (factor : Derives .unary ts e n) :
      Derives .multiplicative ts e n
  | product {ls rs : List PlacedLexeme} {left right : Expr} {m n position : Nat} {op : Operator}
      (hkind : op.isMultiplicative = true) (hleft : Derives .multiplicative ls left m)
      (hright : Derives .unary rs right n) :
      Derives .multiplicative (ls ++ ⟨op.lexeme, position⟩ :: rs) (.binary left op right position)
        (max m n)
  | negate {ts : List PlacedLexeme} {e : Expr} {n position : Nat} (operand : Derives .unary ts e n) :
      Derives .unary (⟨.minus, position⟩ :: ts) (.negate e position) (n + 1)
  | primary {ts : List PlacedLexeme} {e : Expr} {n : Nat} (primary : Derives .primary ts e n) :
      Derives .unary ts e n
  | integer (value : Int64) (position : Nat) :
      Derives .primary [⟨.integer value, position⟩] (.literal (.integer value) position) 0
  | real (value : Float) (position : Nat) :
      Derives .primary [⟨.real value, position⟩] (.literal (.real value) position) 0
  | group {ts : List PlacedLexeme} {e : Expr} {n bracket closing : Nat}
      (inside : Derives .expression ts e n) :
      Derives .primary (⟨.leftParen, bracket⟩ :: (ts ++ [⟨.rightParen, closing⟩])) e (n + 1)
  | call {name : String} {position bracket closing : Nat} {arguments : List Argument}
      (inside : ∀ a ∈ arguments, Derives .expression a.lexemes a.tree a.nesting) :
      Derives .primary
        (⟨.identifier name, position⟩ :: ⟨.leftParen, bracket⟩ ::
          (Argument.joined arguments ++ [⟨.rightParen, closing⟩]))
        (.call name (arguments.map Argument.tree) position) (Argument.deepest arguments + 1)

namespace Derives

variable {phrase phrase' : Phrase} {op : Operator} {ts ls rs : List PlacedLexeme}
  {e left right : Expr} {m n : Nat}

/-- A phrase stands for those of the levels above. -/
theorem widen (h : Derives phrase ts e n) (hlevel : phrase.level ≤ phrase'.level) :
    Derives phrase' ts e n := by
  have hunary : phrase.level ≤ Phrase.unary.level → Derives .unary ts e n := by
    intro hle
    cases phrase with
    | primary => exact .primary h
    | unary => exact h
    | _ => exact absurd hle (by decide)
  have hmultiplicative : phrase.level ≤ Phrase.multiplicative.level →
      Derives .multiplicative ts e n := by
    intro hle
    cases phrase with
    | primary | unary => exact .factor (hunary (by decide))
    | multiplicative => exact h
    | _ => exact absurd hle (by decide)
  have hadditive : phrase.level ≤ Phrase.additive.level → Derives .additive ts e n := by
    intro hle
    cases phrase with
    | primary | unary | multiplicative => exact .term (hmultiplicative (by decide))
    | additive => exact h
    | expression => exact absurd hle (by decide)
  cases phrase' with
  | primary =>
      cases phrase with
      | primary => exact h
      | _ => exact absurd hlevel (by decide)
  | unary => exact hunary hlevel
  | multiplicative => exact hmultiplicative hlevel
  | additive => exact hadditive hlevel
  | expression =>
      cases phrase with
      | expression => exact h
      | _ => exact .expression (hadditive (by decide))

/-- An operator goes on a chain of its kind. -/
theorem operate (position : Nat) (hleft : Derives op.chain ls left m)
    (hright : Derives op.operand rs right n) :
    Derives op.chain (ls ++ ⟨op.lexeme, position⟩ :: rs) (.binary left op right position)
      (max m n) := by
  cases hkind : op.isMultiplicative with
  | false =>
      simp only [Operator.chain, Operator.operand, hkind] at hleft hright ⊢
      exact .sum hkind hleft hright
  | true =>
      simp only [Operator.chain, Operator.operand, hkind] at hleft hright ⊢
      exact .product hkind hleft hright

end Derives

/-- The phrase that a kind of chain is. -/
def Rule.phrase : Rule → Phrase
  | expression => .expression
  | additive => .additive
  | multiplicative => .multiplicative

/-- The lexemes that a chain of the kind goes on with. -/
def Rule.continuing : Rule → List Lexeme
  | expression | additive => [.plus, .minus, .star, .slash]
  | multiplicative => [.star, .slash]

/-- A chain of the kind does not go on with what is left. -/
def Rule.Ends (rule : Rule) (rest : List PlacedLexeme) : Prop :=
  ∀ t ∈ rest.head?, t.lexeme ∉ rule.continuing

/-- At the end of the lexemes every chain ends. -/
theorem Rule.ends_nil (rule : Rule) : rule.Ends [] := by
  simp [Ends]

/-- A lexeme that a chain does not go on with is no operator that it admits. -/
theorem Rule.continuation?_eq_none {rule : Rule} {lexeme : Lexeme} :
    rule.continuation? lexeme = none ↔ lexeme ∉ rule.continuing := by
  cases rule <;> cases lexeme <;>
    simp [continuation?, continuing, Lexeme.operator?, admits, Operator.isMultiplicative]

end Reckoner
