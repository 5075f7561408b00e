import Reckoner.Evaluate
import Reckoner.Proofs.Reading.Walk
import Reckoner.Proofs.Words.Tokens

/-!
# Where the nodes of a tree stand

The walk through the tree of a text meets the lexemes of the text in their order, and only
brackets and commas are missing from it.  So the nodes of the tree stand as the words of the
text do: one after the other, an operator between its operands, and each at a word for it.

* `Expr.operator_between` — where the walk through a tree is in order, operators stand
  between their operands;
* `walk_of_tokenize` — all this for the tree of a text.
-/

namespace Reckoner

namespace Expr

/-- The walk through a tree meets the lexeme of each node. -/
theorem token_mem_walk {e x : Expr} (h : x ∈ e.nodes) : x.token ∈ e.walk := by
  rw [walk_eq_map_nodes]
  exact List.mem_map_of_mem h

/-- Where the walk through a tree is in order, an operator stands after what is on its left
and before what is on its right. -/
theorem operator_between {e left right : Expr} {op : Operator} {position : Nat}
    (h : e.walk.Pairwise fun t t' => t.position < t'.position)
    (hnode : .binary left op right position ∈ e.nodes) :
    (∀ x ∈ left.nodes, x.position < position) ∧ ∀ x ∈ right.nodes, position < x.position := by
  have hpart := h.sublist (walk_sublist_of_mem hnode)
  rw [walk, List.pairwise_append, List.pairwise_cons] at hpart
  obtain ⟨-, ⟨hright, -⟩, hleft⟩ := hpart
  constructor
  · intro x hx
    simpa using hleft _ (token_mem_walk hx) _ List.mem_cons_self
  · intro x hx
    simpa using hright _ (token_mem_walk hx)

end Expr

/-- **No lexeme is lost, doubled or moved.**  The walk through the tree of a text gives the
lexemes of the text without its brackets and commas, at their offsets.  So the offsets
increase along the walk, the offset of each operator is between those of all nodes on its
left and of all nodes on its right, and at the offset of each node the text goes on with the
word that made the node. -/
theorem walk_of_tokenize {source : String} {ts : List PlacedLexeme} {e : Expr}
    (hscan : tokenize source = .ok ts) (hparse : parse ts = .ok e) :
    e.walk = ts.filter PlacedLexeme.isKept ∧
    e.walk.Pairwise (fun t t' => t.position < t'.position) ∧
    (∀ left op right position, .binary left op right position ∈ e.nodes →
      (∀ x ∈ left.nodes, x.position < position) ∧ ∀ x ∈ right.nodes, position < x.position) ∧
    ∀ x ∈ e.nodes, WordAt source x.token := by
  obtain ⟨n, hderives, -⟩ := parse_eq_ok_iff.1 hparse
  have hwalk := hderives.walk_eq
  have hincreasing : e.walk.Pairwise (fun t t' => t.position < t'.position) := by
    rw [hwalk]
    exact (tokenize_increasing hscan).filter _
  refine ⟨hwalk, hincreasing, fun _ _ _ _ hnode => Expr.operator_between hincreasing hnode, ?_⟩
  intro x hx
  have hmem := Expr.token_mem_walk hx
  rw [hwalk] at hmem
  exact wordAt_of_tokenize hscan (List.mem_filter.1 hmem).1

/-- In `-2 * f(3)` the product stands between a negation and a call. -/
theorem walk_of_tokenize_product :
    let left : Expr := .negate (.literal (.integer 2) 1) 0
    let right : Expr := .call "f" [.literal (.integer 3) 7] 5
    let e : Expr := .binary left .mul right 3
    readExpression "-2 * f(3)" = .ok e ∧
      e.walk = [⟨.minus, 0⟩, ⟨.integer 2, 1⟩, ⟨.star, 3⟩, ⟨.identifier "f", 5⟩, ⟨.integer 3, 7⟩] ∧
      e.walk.Pairwise (fun t t' => t.position < t'.position) ∧
      (∀ x ∈ left.nodes, x.position < 3) ∧ (∀ x ∈ right.nodes, 3 < x.position) ∧
      WordAt "-2 * f(3)" right.token := by
  intro left right e
  have hscan : tokenize "-2 * f(3)" = .ok [⟨.minus, 0⟩, ⟨.integer 2, 1⟩, ⟨.star, 3⟩,
      ⟨.identifier "f", 5⟩, ⟨.leftParen, 6⟩, ⟨.integer 3, 7⟩, ⟨.rightParen, 8⟩] := by
    decide +kernel
  have hparse : parse [⟨.minus, 0⟩, ⟨.integer 2, 1⟩, ⟨.star, 3⟩, ⟨.identifier "f", 5⟩,
      ⟨.leftParen, 6⟩, ⟨.integer 3, 7⟩, ⟨.rightParen, 8⟩] = .ok e := rfl
  obtain ⟨hwalk, hincreasing, hbetween, hwords⟩ := walk_of_tokenize hscan hparse
  have hroot : e ∈ e.nodes := by simp [e, Expr.nodes]
  have hright : right ∈ e.nodes := by simp [e, right, Expr.nodes]
  obtain ⟨hleft, hafter⟩ := hbetween left .mul right 3 hroot
  exact ⟨readExpression_eq_ok_iff.2 ⟨_, hscan, hparse⟩, hwalk, hincreasing, hleft, hafter,
    hwords right hright⟩

end Reckoner
