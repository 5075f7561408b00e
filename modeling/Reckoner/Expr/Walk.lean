import Reckoner.Error
import Reckoner.Expr
import Reckoner.Lexeme

/-!
# Walking through a tree

* `Expr.walk` — the lexemes that made the nodes, in the order of the text;
* `Expr.nodes`, `Expr.token` — the nodes in that order, and the lexeme that made each;
* `Expr.mapPositions`, `PlacedLexeme.mapPosition`, `ParseError.mapPosition` — other
  positions for the same thing.
-/

namespace Reckoner

/-- The lexeme of an operator. -/
def Operator.lexeme : Operator → Lexeme
  | add => .plus
  | sub => .minus
  | mul => .star
  | div => .slash

/-- The lexeme of an operator stands for that operator. -/
@[simp] theorem Operator.operator?_lexeme (op : Operator) : op.lexeme.operator? = some op := by
  cases op <;> rfl

/-- A lexeme that stands for an operator is the operator's own. -/
theorem Lexeme.eq_lexeme_of_operator? {lexeme : Lexeme} {op : Operator}
    (h : lexeme.operator? = some op) : lexeme = op.lexeme := by
  cases lexeme <;> cases h <;> rfl

/-- The lexeme of a number. -/
def Number.lexeme : Number → Lexeme
  | integer value => .integer value
  | real value => .real value

/-- Whether a lexeme only groups: a bracket or a comma.  It leaves no node. -/
def Lexeme.isGrouping : Lexeme → Bool
  | leftParen | rightParen | comma => true
  | _ => false

namespace Expr

/-- The lexemes that made the nodes of a tree, in the order of the text. -/
def walk : Expr → List PlacedLexeme
  | literal value position => [⟨value.lexeme, position⟩]
  | negate operand position => ⟨.minus, position⟩ :: operand.walk
  | binary left op right position => left.walk ++ ⟨op.lexeme, position⟩ :: right.walk
  | call name arguments position => ⟨.identifier name, position⟩ :: arguments.flatMap walk

/-- The nodes of a tree, each with what is below it, in the order of the text. -/
def nodes : Expr → List Expr
  | literal value position => [literal value position]
  | negate operand position => negate operand position :: operand.nodes
  | binary left op right position =>
    left.nodes ++ binary left op right position :: right.nodes
  | call name arguments position => call name arguments position :: arguments.flatMap nodes

/-- The lexeme that made the node at the root of a tree, where it stands. -/
def token : Expr → PlacedLexeme
  | literal value position => ⟨value.lexeme, position⟩
  | negate _ position => ⟨.minus, position⟩
  | binary _ op _ position => ⟨op.lexeme, position⟩
  | call name _ position => ⟨.identifier name, position⟩

/-- A node has the position of its lexeme. -/
@[simp] theorem position_token (e : Expr) : e.token.position = e.position := by
  cases e <;> rfl

/-- The walk through a tree meets its nodes one by one. -/
theorem walk_eq_map_nodes (e : Expr) : e.walk = e.nodes.map token := by
  induction e with
  | literal value position => simp [walk, nodes, token]
  | negate operand position ih => simp [walk, nodes, token, ih]
  | binary left op right position ihleft ihright => simp [walk, nodes, token, ihleft, ihright]
  | call name arguments position ih =>
      have harguments : arguments.flatMap walk = (arguments.flatMap nodes).map token := by
        rw [List.map_flatMap, List.flatMap_def, List.map_congr_left ih, ← List.flatMap_def]
      simp [walk, nodes, token, harguments]

/-- The walk through what is below a node is part of the walk through the tree. -/
theorem walk_sublist_of_mem {e x : Expr} (h : x ∈ e.nodes) : x.walk.Sublist e.walk := by
  induction e with
  | literal value position =>
      rw [nodes, List.mem_singleton] at h
      subst h
      exact .refl _
  | negate operand position ih =>
      rw [nodes, List.mem_cons] at h
      rcases h with rfl | h
      · exact .refl _
      · rw [walk]
        exact (ih h).cons _
  | binary left op right position ihleft ihright =>
      rw [nodes, List.mem_append, List.mem_cons] at h
      rcases h with h | rfl | h
      · rw [walk]
        exact (ihleft h).trans (List.sublist_append_left _ _)
      · exact .refl _
      · rw [walk]
        exact ((ihright h).cons _).trans (List.sublist_append_right _ _)
  | call name arguments position ih =>
      rw [nodes, List.mem_cons, List.mem_flatMap] at h
      rcases h with rfl | ⟨a, ha, h⟩
      · exact .refl _
      · rw [walk]
        exact ((ih a ha h).trans (List.sublist_flatten_of_mem (List.mem_map_of_mem ha))).cons _

/-- The tree with other positions. -/
def mapPositions (f : Nat → Nat) : Expr → Expr
  | literal value position => literal value (f position)
  | negate operand position => negate (operand.mapPositions f) (f position)
  | binary left op right position =>
    binary (left.mapPositions f) op (right.mapPositions f) (f position)
  | call name arguments position => call name (arguments.map (mapPositions f)) (f position)

end Expr

/-- The lexeme at another position. -/
def PlacedLexeme.mapPosition (f : Nat → Nat) (t : PlacedLexeme) : PlacedLexeme :=
  ⟨t.lexeme, f t.position⟩

/-- The error at another position. -/
def ParseError.mapPosition (f : Nat → Nat) : ParseError → ParseError
  | unexpectedToken token position => unexpectedToken token (f position)
  | unexpectedEndOfInput => unexpectedEndOfInput
  | expectedClosingParen position => expectedClosingParen (f position)
  | unexpectedTrailingTokens token position => unexpectedTrailingTokens token (f position)
  | literalTooLarge position => literalTooLarge (f position)
  | nestingTooDeep position => nestingTooDeep (f position)

end Reckoner
