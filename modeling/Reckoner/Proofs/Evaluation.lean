import Reckoner.Evaluate
import Reckoner.Expr.Meaning
import Reckoner.Expr.Walk

/-!
# Evaluation and meaning

Evaluation collects the steps of a chain and makes them from the inside out.  What it
computes is what the tree means, node by node, and no position has a part in it.

* `Calculator.evalWith_eq` — a tree and then the steps that wait for it;
* `Calculator.eval_eq_meaning` — evaluation computes the meaning;
* `Calculator.eval_eq_loop` — a chain is evaluated in a loop, from the inside out;
* `Calculator.meaning_mapPositions` — positions do not matter;
* `Calculator.meaning_asCalls` — an operator means the call of its operation;
* `Calculator.evaluations_agree` — all these on one tree;
* `executeText_of_parse` — a text has the value of its tree.
-/

namespace Reckoner

/-- Outcomes that agree on each element agree on the list. -/
theorem mapM_outcome_congr {α β : Type} {f g : α → Outcome β} {xs : List α}
    (h : ∀ x ∈ xs, f x = g x) : xs.mapM f = xs.mapM g := by
  induction xs with
  | nil => rfl
  | cons x xs ih =>
      rw [List.mapM_cons, List.mapM_cons, h x List.mem_cons_self,
        ih fun y hy => h y (List.mem_cons_of_mem x hy)]

namespace Expr

/-- What the walk down the left operands of a chain ends at. -/
def innermost : Expr → Expr
  | binary left _ _ _ => left.innermost
  | e => e

/-- The operators of a chain with their right operands, innermost first. -/
def links : Expr → List (Operator × Expr)
  | binary left op right _ => left.links ++ [(op, right)]
  | _ => []

end Expr

namespace Calculator

/-- One round of the loop over a chain: the right operand, and then the operation. -/
def evalLink (c : Calculator) (left : Number) (link : Operator × Expr) : Outcome Number := do
  c.execute link.1.operationName [left, ← c.eval link.2]

/-- The steps that wait for a tree are made with its meaning. -/
theorem evalWith_eq (c : Calculator) (e : Expr) (steps : Steps) :
    c.evalWith e steps = Steps.resume c (c.meaning e) steps := by
  induction e generalizing steps with
  | literal value position => rw [evalWith, meaning]
  | negate operand position ih =>
      rw [evalWith, meaning, ih]
      rfl
  | binary left op right position ihleft ihright =>
      rw [evalWith, meaning, ihleft, ihright]
      simp only [Steps.resume]
  | call name arguments position ih =>
      have hmap : arguments.mapM (fun a => c.evalWith a []) = arguments.mapM c.meaning :=
        mapM_outcome_congr fun a ha => ih a ha []
      rw [evalWith, meaning, hmap]

/-- **Evaluation computes the meaning.** -/
theorem eval_eq_meaning (c : Calculator) (e : Expr) : c.eval e = c.meaning e := by
  rw [eval, evalWith_eq, Steps.resume]

/-- Trees that differ in positions only have the same meaning. -/
theorem meaning_mapPositions (c : Calculator) (f : Nat → Nat) (e : Expr) :
    c.meaning (e.mapPositions f) = c.meaning e := by
  induction e with
  | literal value position => rw [Expr.mapPositions, meaning, meaning]
  | negate operand position ih => rw [Expr.mapPositions, meaning, meaning, ih]
  | binary left op right position ihleft ihright =>
      rw [Expr.mapPositions, meaning, meaning, ihleft, ihright]
  | call name arguments position ih =>
      have hmap : (arguments.map (Expr.mapPositions f)).mapM c.meaning
          = arguments.mapM c.meaning := by
        rw [List.mapM_map]
        exact mapM_outcome_congr ih
      rw [Expr.mapPositions, meaning, meaning, hmap]

/-- An operator means what the call of its operation means. -/
theorem meaning_asCalls (c : Calculator) (e : Expr) : c.meaning e.asCalls = c.meaning e := by
  induction e with
  | literal value position => rw [Expr.asCalls]
  | negate operand position ih => rw [Expr.asCalls, meaning, meaning, ih]
  | binary left op right position ihleft ihright =>
      rw [Expr.asCalls, meaning, meaning, List.mapM_cons, List.mapM_cons, List.mapM_nil, ihleft,
        ihright]
      cases c.meaning left with
      | error e => rfl
      | ok a => cases c.meaning right <;> rfl
  | call name arguments position ih =>
      have hmap : (arguments.map Expr.asCalls).mapM c.meaning = arguments.mapM c.meaning := by
        rw [List.mapM_map]
        exact mapM_outcome_congr ih
      rw [Expr.asCalls, meaning, meaning, hmap]

/-- A chain is evaluated in a loop: first what the walk down its left operands ends at, and
then one operator after the other, from the innermost outwards. -/
theorem eval_eq_loop (c : Calculator) (e : Expr) :
    c.eval e = (do e.links.foldlM c.evalLink (← c.eval e.innermost)) := by
  induction e with
  | binary left op right position ihleft ihright =>
      calc c.eval (.binary left op right position)
          = (do
              let a ← c.eval left
              c.evalLink a (op, right)) := by
            simp only [eval_eq_meaning, evalLink, meaning]
        _ = (do
              let first ← c.eval left.innermost
              let a ← left.links.foldlM c.evalLink first
              c.evalLink a (op, right)) := by
            rw [ihleft, bind_assoc]
        _ = _ := by
            simp only [Expr.links, Expr.innermost, List.foldlM_append, List.foldlM_cons,
              List.foldlM_nil, bind_pure]
  | _ => simp [Expr.links, Expr.innermost]

/-- **The loop, the recursion and the calls agree.**  A tree has the value that the loop over
its chain arrives at, which is what it means node by node, and writing each of its operators
as the call of the operator's operation does not change it. -/
theorem evaluations_agree (c : Calculator) (e : Expr) :
    c.eval e = (do e.links.foldlM c.evalLink (← c.eval e.innermost)) ∧
    c.eval e = c.meaning e ∧
    c.eval e.asCalls = c.eval e := by
  refine ⟨c.eval_eq_loop e, c.eval_eq_meaning e, ?_⟩
  rw [eval_eq_meaning, meaning_asCalls, eval_eq_meaning]

end Calculator

/-- A source that is read has the value of its tree. -/
theorem executeText_of_parse {source : String} {ts : List PlacedLexeme} {e : Expr}
    (hscan : tokenize source = .ok ts) (hparse : parse ts = .ok e) (c : Calculator) :
    c.executeText source = (c.meaning e).mapError .runtime := by
  rw [Calculator.executeText, readExpression_eq_ok_iff.2 ⟨ts, hscan, hparse⟩,
    ← Calculator.eval_eq_meaning]
  rfl

end Reckoner
