import Reckoner.Proofs.Evaluation
import Reckoner.Proofs.Sequence.Groups

/-!
# Token sequences as nested calls

A token sequence whose groups have numbers only says the same as a tree: the first group
is the innermost call, and each group is a call whose first argument is the call of the
group before it.  The pass over the tokens starts with what the recursion over the tree
comes to first.

* `Calculator.meaning_nest` — calls around a tree are groups that follow its value;
* `Calculator.executeSequence_nest` — a token sequence has the value of its nested calls.
-/

namespace Reckoner

/-- A group whose operands are numbers. -/
def numberGroup (g : String × List Number) : String × List Token :=
  (g.1, g.2.map .number)

namespace Calculator

variable {c : Calculator}

/-- Literals mean their values. -/
theorem mapM_meaning_literal (numbers : List Number) :
    (numbers.map fun n => Expr.literal n 0).mapM c.meaning = .ok numbers := by
  induction numbers with
  | nil => rfl
  | cons n numbers ih =>
      rw [List.map_cons, List.mapM_cons, ih, meaning]
      rfl

/-- Numbers are the operands of a group as they are. -/
theorem groupsOutcome_numberGroup (carried : Option Number) (g : String × List Number)
    (groups : List (String × List Token)) :
    c.groupsOutcome carried (numberGroup g :: groups) = (do
      let result ← c.execute g.1 (carried.toList ++ g.2)
      c.groupsOutcome (some result) groups) := by
  rw [numberGroup, groupsOutcome_cons, Token.mapM_toNumber_eq_ok.2 rfl]
  rfl

/-- Calls around a tree mean what groups come to that follow its value. -/
theorem meaning_nest (inner : Expr) (groups : List (String × List Number)) :
    c.meaning (nest inner groups) = (do
      let result ← c.meaning inner
      c.groupsOutcome (some result) (groups.map numberGroup)) := by
  induction groups generalizing inner with
  | nil => cases h : c.meaning inner <;> simp [nest, h, groupsOutcome, bind, Except.bind]
  | cons g groups ih =>
      rw [nest, ih, meaning, List.mapM_cons, mapM_meaning_literal, List.map_cons]
      cases c.meaning inner with
      | error e => rfl
      | ok result =>
          simp only [groupsOutcome_numberGroup]
          rfl

/-- A sequence whose groups have numbers only is cut into these groups. -/
theorem splits_numberGroup {before : List Token} {groups : List (String × List Number)}
    (hbefore : ∀ t ∈ before, c.isOperation t = false)
    (hopens : ∀ g ∈ groups, c.contains g.1 = true) :
    c.Splits (before ++ groupTokens (groups.map numberGroup)) before
      (groups.map numberGroup) := by
  refine ⟨rfl, ?_, hbefore, ?_⟩
  · intro g hg
    obtain ⟨h, hh, rfl⟩ := List.mem_map.1 hg
    exact hopens h hh
  · intro g hg t ht
    obtain ⟨h, hh, rfl⟩ := List.mem_map.1 hg
    obtain ⟨n, hn, rfl⟩ := List.mem_map.1 ht
    rfl

/-- **The two evaluators agree.**  A sequence of at least one group, the groups having
numbers only, has the value of the calls that nest as the groups follow each other,
wherever their nodes stand.  Its failure is theirs, wrapped once. -/
theorem executeSequence_nest (c : Calculator) {before : List Token}
    {first : String × List Number} {others : List (String × List Number)} {e : Expr}
    (hbefore : ∀ t ∈ before, c.isOperation t = false)
    (hopens : ∀ g ∈ first :: others, c.contains g.1 = true)
    (he : e.mapPositions (fun _ => 0)
      = nest (.call first.1 (first.2.map fun n => .literal n 0) 0) others) :
    c.executeSequence (before ++ groupTokens ((first :: others).map numberGroup))
      = (c.eval e).mapError .wrongExpression := by
  have hmeaning : c.eval e = c.groupsOutcome none ((first :: others).map numberGroup) := by
    calc c.eval e = c.meaning (e.mapPositions fun _ => 0) := by
          rw [eval_eq_meaning, meaning_mapPositions]
      _ = (do
          let result ← c.execute first.1 first.2
          c.groupsOutcome (some result) (others.map numberGroup)) := by
          rw [he, meaning_nest, meaning, mapM_meaning_literal]
          rfl
      _ = c.groupsOutcome none ((first :: others).map numberGroup) := by
          rw [List.map_cons, groupsOutcome_numberGroup]
          rfl
  rw [executeSequence, (splits_numberGroup hbefore hopens).foldTokens_eq, hmeaning]

/-- The product overflows, in the sequence and in the tree, before the empty group that
follows it is looked at. -/
theorem executeSequence_nest_overflow :
    new.executeSequence [.number (.integer 7), .name "X", .name "ADD", .number (.integer 2),
      .number (.integer 3), .name "MUL", .number (.integer Int64.maxValue), .name "SUB"]
      = .error (.wrongExpression .overflow) ∧
    new.eval (.call "SUB" [.call "MUL" [.call "ADD" [.literal (.integer 2) 12,
      .literal (.integer 3) 15] 8, .literal (.integer Int64.maxValue) 18] 4] 0)
      = .error .overflow := by
  have heval : new.eval (.call "SUB" [.call "MUL" [.call "ADD" [.literal (.integer 2) 12,
      .literal (.integer 3) 15] 8, .literal (.integer Int64.maxValue) 18] 4] 0)
      = .error .overflow := by
    simp only [eval_eq_meaning, meaning, List.mapM_cons, List.mapM_nil]
    rfl
  have hfails := congrArg (Except.mapError RuntimeError.wrongExpression) heval
  refine ⟨(@executeSequence_nest new [.number (.integer 7), .name "X"]
    ("ADD", [.integer 2, .integer 3]) [("MUL", [.integer Int64.maxValue]), ("SUB", [])] _
    (by decide) (by decide) ?_).trans hfails, heval⟩
  simp only [Expr.mapPositions, nest, List.map_cons, List.map_nil]

end Calculator

end Reckoner
