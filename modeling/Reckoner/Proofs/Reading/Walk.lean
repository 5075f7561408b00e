import Reckoner.Expr.Operations
import Reckoner.Proofs.Reading.Sound

/-!
# What is read is walked

The walk through the tree of a phrase gives back the lexemes of the phrase, brackets and
commas apart.  So whatever the nodes of a tree show stands in the lexemes that it was
read from.

* `Derives.walk_eq` — the walk through the tree of a phrase;
* `Expr.exists_mem_walk` — an operation that a tree mentions has a lexeme on its walk;
* `exists_mem_of_parse` — and so it has one among the lexemes that the tree was read from.
-/

namespace Reckoner

/-- Whether a lexeme leaves a node, which brackets and commas do not. -/
def PlacedLexeme.isKept (t : PlacedLexeme) : Bool :=
  !t.lexeme.isGrouping

@[simp] theorem Operator.isGrouping_lexeme (op : Operator) : op.lexeme.isGrouping = false := by
  cases op <;> rfl

namespace Argument

/-- Commas leave no node. -/
theorem filter_following {arguments : List Argument}
    (h : ∀ a ∈ arguments, a.tree.walk = a.lexemes.filter PlacedLexeme.isKept) :
    (following arguments).filter PlacedLexeme.isKept
      = (arguments.map tree).flatMap Expr.walk := by
  induction arguments with
  | nil => rfl
  | cons a others ih =>
      obtain ⟨ha, hothers⟩ := List.forall_mem_cons.1 h
      simp [following, PlacedLexeme.isKept, Lexeme.isGrouping, ha, ← ih hothers]

/-- The lexemes of arguments are those of their trees, commas apart. -/
theorem filter_joined {arguments : List Argument}
    (h : ∀ a ∈ arguments, a.tree.walk = a.lexemes.filter PlacedLexeme.isKept) :
    (joined arguments).filter PlacedLexeme.isKept
      = (arguments.map tree).flatMap Expr.walk := by
  cases arguments with
  | nil => rfl
  | cons a others =>
      obtain ⟨ha, hothers⟩ := List.forall_mem_cons.1 h
      simp [joined, filter_following hothers, ha]

end Argument

/-- **Walking undoes reading.**  The walk through the tree of a phrase gives the lexemes of
the phrase without its brackets and commas. -/
theorem Derives.walk_eq {phrase : Phrase} {ts : List PlacedLexeme} {e : Expr} {n : Nat}
    (h : Derives phrase ts e n) : e.walk = ts.filter PlacedLexeme.isKept := by
  induction h with
  | expression _ ih => exact ih
  | term _ ih => exact ih
  | factor _ ih => exact ih
  | sum _ _ _ ihleft ihright | product _ _ _ ihleft ihright =>
      simp [Expr.walk, PlacedLexeme.isKept, ihleft, ihright]
  | negate _ ih => simp [Expr.walk, PlacedLexeme.isKept, Lexeme.isGrouping, ih]
  | primary _ ih => exact ih
  | integer value position | real value position =>
      simp [Expr.walk, Number.lexeme, PlacedLexeme.isKept, Lexeme.isGrouping]
  | group _ ih => simp [PlacedLexeme.isKept, Lexeme.isGrouping, ih]
  | call _ ih =>
      have harguments := Argument.filter_joined ih
      simp [Expr.walk, harguments, PlacedLexeme.isKept, Lexeme.isGrouping]

/-- An operation that a tree mentions has a lexeme on the walk through the tree. -/
theorem Expr.exists_mem_walk {e : Expr} {name : String} (h : name ∈ e.operations) :
    ∃ t ∈ e.walk, t.lexeme.operation? = some name := by
  induction e with
  | literal value position => simp [operations] at h
  | negate operand position ih =>
      rw [operations] at h
      obtain ⟨t, ht, hname⟩ := ih h
      exact ⟨t, by simp [walk, ht], hname⟩
  | binary left op right position ihleft ihright =>
      rw [operations, List.mem_append, List.mem_cons] at h
      rcases h with h | rfl | h
      · obtain ⟨t, ht, hname⟩ := ihleft h
        exact ⟨t, by simp [walk, ht], hname⟩
      · exact ⟨⟨op.lexeme, position⟩, by simp [walk], by cases op <;> rfl⟩
      · obtain ⟨t, ht, hname⟩ := ihright h
        exact ⟨t, by simp [walk, ht], hname⟩
  | call other arguments position ih =>
      rw [operations, List.mem_cons, List.mem_flatMap] at h
      rcases h with rfl | ⟨a, ha, h⟩
      · exact ⟨⟨.identifier name, position⟩, by simp [walk], rfl⟩
      · obtain ⟨t, ht, hname⟩ := ih a ha h
        refine ⟨t, ?_, hname⟩
        rw [walk]
        exact List.mem_cons_of_mem _ (List.mem_flatMap.2 ⟨a, ha, ht⟩)

/-- An operation that a tree mentions has a lexeme among those that the tree was read
from. -/
theorem exists_mem_of_parse {ts : List PlacedLexeme} {e : Expr} {name : String}
    (h : parse ts = .ok e) (hname : name ∈ e.operations) :
    ∃ t ∈ ts, t.lexeme.operation? = some name := by
  obtain ⟨n, hderives, -⟩ := parse_eq_ok_iff.1 h
  obtain ⟨t, ht, hlexeme⟩ := Expr.exists_mem_walk hname
  rw [hderives.walk_eq] at ht
  exact ⟨t, (List.mem_filter.1 ht).1, hlexeme⟩

end Reckoner
