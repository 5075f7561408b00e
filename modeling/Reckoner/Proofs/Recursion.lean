import Reckoner.Expr.Depth
import Reckoner.Proofs.Evaluation
import Reckoner.Proofs.Reading.Sound
import Reckoner.Proofs.Words.Tokens

/-!
# How deep the evaluation of a text goes

Brackets, calls and minus signs nest at most 256 deep, and each of these levels adds at
most three open evaluations: one for a sum, one for a product in it, and one for the
operand.  A bracket that is the left operand of a chain adds none, its operands being
operands of the chain.  So however long a text is, its evaluation goes 771 deep at most.

* `Calculator.evalWithin` — evaluation that gives up beyond a number of levels;
* `Calculator.evalWithin_eq` — as many levels as the tree is deep are enough;
* `Derives.evalDepth_le` — a phrase evaluates three levels deep for each it nests;
* `evalDepth_of_parse` — the bound for every text.
-/

namespace Reckoner

/-- An outcome that is reached within the levels there are. -/
def settled {α : Type} (outcome : Outcome α) : ExceptT RuntimeError Option α :=
  ExceptT.mk (some outcome)

/-- What follows a settled outcome is settled if it is for each value. -/
theorem settled_bind {α β : Type} (outcome : Outcome α) {f : α → Outcome β}
    {g : α → ExceptT RuntimeError Option β} (h : ∀ a, g a = settled (f a)) :
    settled outcome >>= g = settled (outcome >>= f) := by
  cases outcome with
  | error e => rfl
  | ok a => exact h a

/-- A list is settled if each of its elements is. -/
theorem mapM_settled {α β : Type} {f : α → Outcome β} {g : α → ExceptT RuntimeError Option β}
    {xs : List α} (h : ∀ x ∈ xs, g x = settled (f x)) : xs.mapM g = settled (xs.mapM f) := by
  induction xs with
  | nil => rfl
  | cons x xs ih =>
      obtain ⟨hx, hxs⟩ := List.forall_mem_cons.1 h
      rw [List.mapM_cons, List.mapM_cons, hx, ih hxs]
      exact settled_bind _ fun b => settled_bind _ fun bs => rfl

/-- A loop is settled if each of its rounds is. -/
theorem foldlM_settled {α β : Type} {f : β → α → Outcome β}
    {g : β → α → ExceptT RuntimeError Option β} {xs : List α}
    (h : ∀ x ∈ xs, ∀ b, g b x = settled (f b x)) (b : β) :
    xs.foldlM g b = settled (xs.foldlM f b) := by
  induction xs generalizing b with
  | nil => rfl
  | cons x xs ih =>
      obtain ⟨hx, hxs⟩ := List.forall_mem_cons.1 h
      rw [List.foldlM_cons, List.foldlM_cons, hx]
      exact settled_bind _ fun b => ih hxs b

namespace Calculator

/-- The value of a tree when at most so many evaluations may be open at once.  Beyond
that there is no outcome at all. -/
def evalWithin (c : Calculator) : Nat → Expr → ExceptT RuntimeError Option Number
  | 0, _ => ExceptT.mk none
  | _ + 1, .literal value _ => settled (.ok value)
  | levels + 1, .negate operand _ => do
    let value ← c.evalWithin levels operand
    settled value.neg
  | levels + 1, .binary left op right position => do
    let chain := Expr.binary left op right position
    let first ← c.evalWithin levels chain.innermost
    chain.links.foldlM (fun left link => do
      let right ← c.evalWithin levels link.2
      settled (c.execute link.1.operationName [left, right])) first
  | levels + 1, .call name arguments _ => do
    let values ← arguments.mapM (c.evalWithin levels)
    settled (c.execute name values)

end Calculator

namespace Expr

/-- None of several evaluations goes deeper than the deepest. -/
theorem evalDepth_le_deepest {e : Expr} {es : List Expr} (h : e ∈ es) :
    e.evalDepth ≤ deepest es :=
  List.le_max_of_le (List.mem_map_of_mem h) (Nat.le_refl _)

/-- The deepest evaluation goes no deeper than a bound on all of them. -/
theorem deepest_le {es : List Expr} {bound : Nat} (h : ∀ e ∈ es, e.evalDepth ≤ bound) :
    deepest es ≤ bound :=
  List.max_le_of_forall_le _ _ (List.forall_mem_map.2 h)

/-- The operands of a chain are what the loop evaluates. -/
theorem operands_eq (e : Expr) : e.operands = e.innermost :: e.links.map Prod.snd := by
  induction e with
  | binary left op right position ihleft ihright =>
      rw [operands, ihleft, innermost, links, List.map_append]
      rfl
  | _ => rfl

@[simp] theorem deepest_singleton (e : Expr) : deepest [e] = e.evalDepth :=
  Nat.max_zero e.evalDepth

end Expr

/-- **Enough levels.**  As many levels as the tree is deep are enough to evaluate it. -/
theorem Calculator.evalWithin_eq (c : Calculator) {levels : Nat} {e : Expr}
    (h : e.evalDepth ≤ levels) : c.evalWithin levels e = settled (c.eval e) := by
  induction levels generalizing e with
  | zero => exact absurd h (Nat.not_succ_le_zero e.depthBelow)
  | succ levels ih =>
      cases e with
      | literal value position => rw [evalWithin, eval_eq_meaning, meaning]
      | negate operand position =>
          have hoperand : operand.evalDepth ≤ levels := by simpa using h
          rw [evalWithin, ih hoperand, c.eval_eq_meaning (.negate operand position), meaning,
            ← eval_eq_meaning]
          exact settled_bind _ fun value => rfl
      | binary left op right position =>
          have hdeepest : Expr.deepest (Expr.binary left op right position).operands ≤ levels := by
            rw [Expr.evalDepth_binary] at h
            exact Nat.le_of_succ_le_succ h
          have hoperands (a : Expr) (ha : a ∈ (Expr.binary left op right position).operands) :
              c.evalWithin levels a = settled (c.eval a) :=
            ih (Nat.le_trans (Expr.evalDepth_le_deepest ha) hdeepest)
          rw [Expr.operands_eq] at hoperands
          obtain ⟨hfirst, hlinks⟩ := List.forall_mem_cons.1 hoperands
          rw [evalWithin, eval_eq_loop]
          simp only [hfirst]
          refine settled_bind _ fun first => foldlM_settled (fun link hlink left => ?_) first
          rw [hlinks link.2 (List.mem_map_of_mem hlink)]
          exact settled_bind _ fun right => rfl
      | call name arguments position =>
          have harguments (a : Expr) (ha : a ∈ arguments) :
              c.evalWithin levels a = settled (c.eval a) := by
            rw [Expr.evalDepth_call] at h
            exact ih (Nat.le_trans (Expr.evalDepth_le_deepest ha) (Nat.le_of_succ_le_succ h))
          have hmap : arguments.mapM c.eval = arguments.mapM c.meaning :=
            mapM_outcome_congr fun a _ => c.eval_eq_meaning a
          rw [evalWithin, mapM_settled harguments, eval_eq_meaning, meaning, hmap]
          exact settled_bind _ fun values => rfl

/-- How many evaluations a phrase can have open without nesting anything. -/
def Phrase.width : Phrase → Nat
  | primary | unary => 1
  | multiplicative => 2
  | additive | expression => 3

/-- How many evaluations an operand of a phrase can have open without nesting anything. -/
def Phrase.operandWidth : Phrase → Nat
  | primary | unary | multiplicative => 1
  | additive | expression => 2

/-- **Depth by nesting.**  A phrase evaluates three levels deep for each that it nests, and
as deep as it is wide.  Its operands evaluate one level less. -/
theorem Derives.evalDepth_le {phrase : Phrase} {ts : List PlacedLexeme} {e : Expr} {n : Nat}
    (h : Derives phrase ts e n) :
    e.evalDepth ≤ 3 * n + phrase.width ∧
      Expr.deepest e.operands ≤ 3 * n + phrase.operandWidth := by
  -- The second bound is what a left operand in brackets is held to: its operands join the
  -- chain around it, and are not evaluated one level deeper.
  induction h with
  | expression _ ih => exact ih
  | term _ ih =>
      simp only [Phrase.width, Phrase.operandWidth] at ih ⊢
      omega
  | sum _ _ _ ihleft ihright | product _ _ _ ihleft ihright =>
      simp only [Expr.evalDepth_binary, Expr.operands, Expr.deepest_append, Expr.deepest_singleton,
        Phrase.width, Phrase.operandWidth] at ihleft ihright ⊢
      omega
  | factor _ ih =>
      simp only [Phrase.width, Phrase.operandWidth] at ih ⊢
      omega
  | negate _ ih =>
      simp only [Expr.operands, Expr.deepest_singleton, Expr.evalDepth_negate, Phrase.width,
        Phrase.operandWidth] at ih ⊢
      omega
  | primary _ ih => exact ih
  | integer value position | real value position =>
      simp [Expr.operands, Phrase.width, Phrase.operandWidth]
  | group _ ih =>
      simp only [Phrase.width, Phrase.operandWidth] at ih ⊢
      omega
  | @call name position bracket closing arguments _ ih =>
      have harguments : Expr.deepest (arguments.map Argument.tree)
          ≤ 3 * Argument.deepest arguments + 3 := by
        refine Expr.deepest_le fun e he => ?_
        obtain ⟨a, ha, rfl⟩ := List.mem_map.1 he
        have htree : a.tree.evalDepth ≤ 3 * a.nesting + 3 := (ih a ha).1
        have hnesting := Argument.nesting_le_deepest ha
        omega
      simp only [Expr.operands, Expr.deepest_singleton, Expr.evalDepth_call, Phrase.width,
        Phrase.operandWidth]
      omega

/-- **No text needs deep recursion.**  An expression that is read where `depth` constructs
are open evaluates three levels deep for each construct that may still be opened, and
three more.  So all lexemes of a text, whatever their number, make a tree that is at most
771 levels deep, and 771 levels are enough to evaluate it in every calculator. -/
theorem evalDepth_of_parse :
    (∀ (depth : Nat) (ts rest : List PlacedLexeme) (e : Expr),
      parseRule .expression depth ts = .ok (e, rest) →
      e.evalDepth ≤ 3 * (maxNesting - depth) + 3) ∧
    (∀ (ts : List PlacedLexeme) (e : Expr), parse ts = .ok e → e.evalDepth ≤ 771) ∧
    ∀ (source : String) (e : Expr), readExpression source = .ok e →
      e.evalDepth ≤ 771 ∧ ∀ c : Calculator, (c.evalWithin 771 e).run = some (c.eval e) := by
  have hparse (ts : List PlacedLexeme) (e : Expr) (h : parse ts = .ok e) : e.evalDepth ≤ 771 := by
    obtain ⟨n, hderives, hn⟩ := parse_eq_ok_iff.1 h
    have hdepth := hderives.evalDepth_le.1
    simp only [Phrase.width, maxNesting] at hdepth hn
    omega
  refine ⟨fun depth ts rest e h => ?_, hparse, fun source e h => ?_⟩
  · obtain ⟨front, -, ⟨n, hderives, hn⟩, -⟩ := derives_of_parseRule h
    have hdepth := hderives.evalDepth_le.1
    simp only [Rule.phrase, Phrase.width] at hdepth
    omega
  · obtain ⟨ts, -, hts⟩ := readExpression_eq_ok_iff.1 h
    have hdepth := hparse ts e hts
    exact ⟨hdepth, fun c => congrArg ExceptT.run (c.evalWithin_eq hdepth)⟩

/-- A sum, a product in it and a call in that, twice over.  Where one construct may still be
opened no tree goes deeper. -/
theorem evalDepth_of_parse_six :
    let inner : Expr := .binary (.literal (.integer 1) 6) .add
      (.binary (.literal (.integer 1) 8) .mul (.literal (.integer 1) 10) 9) 7
    let e : Expr := .binary (.literal (.integer 1) 0) .add
      (.binary (.literal (.integer 1) 2) .mul (.call "f" [inner] 4) 3) 1
    let ts : List PlacedLexeme := [⟨.integer 1, 0⟩, ⟨.plus, 1⟩, ⟨.integer 1, 2⟩, ⟨.star, 3⟩,
      ⟨.identifier "f", 4⟩, ⟨.leftParen, 5⟩, ⟨.integer 1, 6⟩, ⟨.plus, 7⟩, ⟨.integer 1, 8⟩,
      ⟨.star, 9⟩, ⟨.integer 1, 10⟩, ⟨.rightParen, 11⟩]
    parseRule .expression 255 ts = .ok (e, []) ∧ e.evalDepth = 6 ∧
      e.evalDepth ≤ 3 * (maxNesting - 255) + 3 ∧ parse ts = .ok e ∧ e.evalDepth ≤ 771 ∧
      readExpression "1+1*f(1+1*1)" = .ok e ∧
      (Calculator.new.evalWithin 771 e).run = some (Calculator.new.eval e) := by
  intro inner e ts
  have hread : parseRule .expression 255 ts = .ok (e, []) := rfl
  have hparse : parse ts = .ok e := rfl
  have hscan : tokenize "1+1*f(1+1*1)" = .ok ts := by decide +kernel
  have hsource : readExpression "1+1*f(1+1*1)" = .ok e :=
    readExpression_eq_ok_iff.2 ⟨ts, hscan, hparse⟩
  obtain ⟨hrule, hall, htext⟩ := evalDepth_of_parse
  exact ⟨hread, by simp [e, inner, Expr.evalDepth, Expr.depthBelow, Expr.isBinary],
    hrule 255 ts [] e hread, hparse, hall ts e hparse, hsource, (htext _ e hsource).2 _⟩

end Reckoner
