import Reckoner.Expr.Depth
import Reckoner.Lexeme.Pattern

/-!
# Printing expressions

A tree is written without white space and with no bracket that could be left out:
around a chain under a minus sign, around a sum among the operands of a product, and
around a chain that is a right operand of an operator that binds as tightly or
tighter.  Reals have many spellings; which one is written is a parameter, and it may
differ from node to node.

* `Expr.print` — the text of a tree;
* `Expr.relocate` — the tree with each node at the offset where its token is printed;
* `Expr.printNesting` — how deep the printed brackets, calls and minus signs nest;
* `Expr.Printable` — the trees that can be written at all.
-/

namespace Reckoner

/-- A spelling for each real literal, given the offset where it is printed. -/
abbrev Spelling : Type := Nat → Float → List Char

/-- The text, in brackets if it needs them. -/
def bracketed (needed : Bool) (text : List Char) : List Char :=
  if needed then '(' :: (text ++ [')']) else text

/-- One more level, if brackets are needed. -/
def bracketCount (needed : Bool) : Nat :=
  if needed then 1 else 0

namespace Expr

/-- Whether the tree is the application of `+` or `-`. -/
def isSum : Expr → Bool
  | binary _ op _ _ => !op.isMultiplicative
  | _ => false

/-- Whether the left operand of an operator needs brackets. -/
def leftNeeds (op : Operator) (left : Expr) : Bool :=
  op.isMultiplicative && left.isSum

/-- Whether the right operand of an operator needs brackets. -/
def rightNeeds (op : Operator) (right : Expr) : Bool :=
  if op.isMultiplicative then right.isBinary else right.isSum

mutual

/-- The text of a tree that is printed from an offset on. -/
def print (spell : Spelling) (offset : Nat) : Expr → List Char
  | literal (.integer n) _ => Nat.toDigits 10 n.toInt.natAbs
  | literal (.real r) _ => spell offset r
  | negate operand _ =>
    let needed := operand.isBinary
    '-' :: bracketed needed (operand.print spell (offset + 1 + bracketCount needed))
  | binary left op right _ =>
    let before := bracketed (leftNeeds op left)
      (left.print spell (offset + bracketCount (leftNeeds op left)))
    let position := offset + utf8Length before
    before ++ op.symbol.toList ++ bracketed (rightNeeds op right)
      (right.print spell (position + 1 + bracketCount (rightNeeds op right)))
  | call name arguments _ =>
    name.toList ++ '(' :: (printAll spell (offset + utf8Length name.toList + 1) arguments ++ [')'])

/-- The texts of trees with a comma between each two. -/
def printAll (spell : Spelling) (offset : Nat) : List Expr → List Char
  | [] => []
  | e :: others =>
    let first := e.print spell offset
    first ++ printFollowing spell (offset + utf8Length first) others

/-- The texts of trees, each after a comma. -/
def printFollowing (spell : Spelling) (offset : Nat) : List Expr → List Char
  | [] => []
  | e :: others =>
    let first := e.print spell (offset + 1)
    ',' :: (first ++ printFollowing spell (offset + 1 + utf8Length first) others)

end

/-- How deep the printed brackets, calls and minus signs nest. -/
def printNesting : Expr → Nat
  | literal _ _ => 0
  | negate operand _ => bracketCount operand.isBinary + operand.printNesting + 1
  | binary left op right _ =>
    max (bracketCount (leftNeeds op left) + left.printNesting)
      (bracketCount (rightNeeds op right) + right.printNesting)
  | call _ arguments _ => (arguments.map printNesting).foldr max 0 + 1

mutual

/-- The tree with each node at the offset where its token is printed, when the tree is
printed from an offset on. -/
def relocate (spell : Spelling) (offset : Nat) : Expr → Expr
  | literal value _ => literal value offset
  | negate operand _ =>
    negate (operand.relocate spell (offset + 1 + bracketCount operand.isBinary)) offset
  | binary left op right _ =>
    let before := bracketed (leftNeeds op left)
      (left.print spell (offset + bracketCount (leftNeeds op left)))
    let position := offset + utf8Length before
    binary (left.relocate spell (offset + bracketCount (leftNeeds op left))) op
      (right.relocate spell (position + 1 + bracketCount (rightNeeds op right))) position
  | call name arguments _ =>
    call name (relocateAll spell (offset + utf8Length name.toList + 1) arguments) offset

/-- The trees relocated, each to where the one before it and a comma end. -/
def relocateAll (spell : Spelling) (offset : Nat) : List Expr → List Expr
  | [] => []
  | e :: others =>
    e.relocate spell offset ::
      relocateAll spell (offset + utf8Length (e.print spell offset) + 1) others

end

/-- The trees that can be written: no negative literal, reals by a numeral that reads
back, and calls by a name. -/
inductive Printable (spell : Spelling) : Expr → Prop
  | integer {n : Int64} {position : Nat} (hn : 0 ≤ n.toInt) :
      Printable spell (literal (.integer n) position)
  | real {r : Float} {position : Nat} (hspelling : ∀ offset, IsReal (spell offset r))
      (hread : ∀ offset, readReal (spell offset r) = r) :
      Printable spell (literal (.real r) position)
  | negate {operand : Expr} {position : Nat} (hoperand : Printable spell operand) :
      Printable spell (negate operand position)
  | binary {left right : Expr} {op : Operator} {position : Nat} (hleft : Printable spell left)
      (hright : Printable spell right) : Printable spell (binary left op right position)
  | call {name : String} {arguments : List Expr} {position : Nat} (hname : IsName name.toList)
      (harguments : ∀ a ∈ arguments, Printable spell a) :
      Printable spell (call name arguments position)

end Expr

end Reckoner
