import Reckoner.Operator

/-!
# Expressions

The tree of an infix text.  Brackets leave no node.  Each node carries the byte
offset of the token that made it: a literal, a minus sign, an operator, or the
name of a call.

* `Expr` — the trees;
* `Expr.induct` — induction on a tree, through the arguments of calls.
-/

namespace Reckoner

/-- The tree of an infix text. -/
inductive Expr where
  | literal (value : Number) (position : Nat)
  | negate (operand : Expr) (position : Nat)
  | binary (left : Expr) (op : Operator) (right : Expr) (position : Nat)
  | call (name : String) (arguments : List Expr) (position : Nat)
deriving Repr

namespace Expr

/-- The byte offset of the token that made the node. -/
def position : Expr → Nat
  | literal _ position => position
  | negate _ position => position
  | binary _ _ _ position => position
  | call _ _ position => position

/-- To show something of every tree, show it of each kind of node, given that it
holds of the trees below the node. -/
@[elab_as_elim, induction_eliminator]
theorem induct {motive : Expr → Prop}
    (literal : ∀ value position, motive (.literal value position))
    (negate : ∀ operand position, motive operand → motive (.negate operand position))
    (binary : ∀ left op right position, motive left → motive right →
      motive (.binary left op right position))
    (call : ∀ name arguments position, (∀ a ∈ arguments, motive a) →
      motive (.call name arguments position))
    (e : Expr) : motive e :=
  Expr.rec (motive_1 := motive) (motive_2 := fun arguments => ∀ a ∈ arguments, motive a)
    literal negate binary call
    (fun _ h => nomatch h)
    (fun _ _ hhead htail _ hmem => by
      cases hmem with
      | head => exact hhead
      | tail _ hmem => exact htail _ hmem)
    e

end Expr

end Reckoner
