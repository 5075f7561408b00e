import Mathlib.Data.List.Forall2
import Reckoner.Calculator.Lemmas
import Reckoner.Expr.Whole
import Reckoner.Proofs.Evaluation

/-!
# Built-in arithmetic is exact

A tree that uses the built-in operations alone can fail in one way only: an exact whole
result on the way does not fit in 64 bits.  Whether it does, whether the value is whole,
and which whole number it is, can all be told from the tree.

The proof is one law of composition.  What a computation does is told by the whole steps
that it makes and by what holds of its value; one computation after another makes the steps
of both.

* `Number.Agrees` — a number is as was told of it;
* `Follows` — an outcome is as was told of it, and `Follows.bind`, the law of composition;
* `Number.Agrees.neg`, `Number.Agrees.apply`, `follows_foldlM` — negations, operators and
  folds;
* `Expr.follows` — a tree that uses the built-in operations alone;
* `eval_builtins` — when it overflows, and what its value is otherwise.
-/

namespace Reckoner

/-- The number is as was told of it: whole and of this value, or real. -/
inductive Number.Agrees : Bool → Int → Number → Prop
  | integer {n : Int64} {value : Int} (hvalue : n.toInt = value) : Agrees true value (.integer n)
  | real (value : Int) (r : Float) : Agrees false value (.real r)

/-- The outcome of a computation that makes these whole steps, each exactly.  It is an
overflow if one of them does not fit, and otherwise a value of which `P` holds. -/
inductive Follows {α : Type} (steps : List Int) (P : α → Prop) : Outcome α → Prop
  | overflow (h : ∃ n ∈ steps, ¬ Number.Fits n) : Follows steps P (.error .overflow)
  | value {a : α} (hfit : ∀ n ∈ steps, Number.Fits n) (h : P a) : Follows steps P (.ok a)

namespace Follows

variable {α β : Type} {steps later : List Int} {P : α → Prop} {Q : β → Prop}

/-- A value that is there already takes no step. -/
theorem pure {a : α} (h : P a) : Follows [] P (.ok a) :=
  .value nofun h

/-- One computation after another makes the steps of both. -/
theorem bind {outcome : Outcome α} {f : α → Outcome β} (h : Follows steps P outcome)
    (hf : ∀ a, P a → Follows later Q (f a)) : Follows (steps ++ later) Q (outcome >>= f) := by
  cases h with
  | overflow h =>
      obtain ⟨n, hn, hfit⟩ := h
      exact .overflow ⟨n, List.mem_append_left later hn, hfit⟩
  | @value a hfit h =>
      change Follows (steps ++ later) Q (f a)
      have hlater := hf a h
      generalize f a = outcome at hlater
      cases hlater with
      | overflow h =>
          obtain ⟨n, hn, hnot⟩ := h
          exact .overflow ⟨n, List.mem_append_right steps hn, hnot⟩
      | value hfit' h => exact .value (List.forall_mem_append.2 ⟨hfit, hfit'⟩) h

/-- Computations one after the other make the steps of all. -/
theorem mapM {f : α → Outcome β} {steps : α → List Int} {P : α → β → Prop} {xs : List α}
    (h : ∀ x ∈ xs, Follows (steps x) (P x) (f x)) :
    Follows (xs.flatMap steps) (List.Forall₂ P xs) (xs.mapM f) := by
  induction xs with
  | nil => exact .pure .nil
  | cons x xs ih =>
      obtain ⟨hx, hxs⟩ := List.forall_mem_cons.1 h
      rw [List.flatMap_cons, List.mapM_cons]
      refine hx.bind fun y hy => ?_
      rw [← List.append_nil (xs.flatMap steps)]
      exact (ih hxs).bind fun ys hys => .pure (.cons hy hys)

end Follows

/-- An exact result is kept if it fits. -/
theorem follows_exact (n : Int) : Follows [n] (Number.Agrees true n) (Number.exact n) := by
  by_cases hfit : Number.Fits n
  · rw [Number.exact_of_fits hfit]
    exact .value (by simpa using hfit) (.integer (Number.toInt_ofInt_of_fits hfit))
  · rw [Number.exact_of_not_fits hfit]
    exact .overflow (by simpa using hfit)

/-- An operator other than division is exact on whole numbers. -/
theorem Operator.apply_integer {op : Operator} (hop : op ≠ .div) (a b : Int64) :
    op.apply (.integer a) (.integer b) = Number.exact (op.exact a.toInt b.toInt) := by
  cases op with
  | div => exact absurd rfl hop
  | _ => rfl

/-- A division, and an operator that is given a real number, never fails. -/
theorem Operator.apply_real {op : Operator} {a b : Number}
    (h : (op != .div && a.isInteger && b.isInteger) = false) :
    ∃ r, op.apply a b = .ok (.real r) := by
  cases op with
  | div => exact ⟨_, rfl⟩
  | _ =>
      cases a with
      | real r => exact ⟨_, rfl⟩
      | integer n =>
          cases b with
          | real r => exact ⟨_, rfl⟩
          | integer m => cases h

namespace Number.Agrees

variable {whole whole' : Bool} {value value' : Int} {a b : Number}

/-- Which kind of number it is was told. -/
theorem isInteger_eq (h : a.Agrees whole value) : a.isInteger = whole := by
  cases h <;> rfl

/-- A negation makes one step on a whole number. -/
theorem neg (h : a.Agrees whole value) :
    Follows (if whole then [-value] else []) (Agrees whole (-value)) a.neg := by
  cases h with
  | integer hvalue =>
      rw [← hvalue]
      exact follows_exact _
  | real value r => exact .pure (.real _ _)

/-- An operator makes one step on whole numbers, unless it is division. -/
theorem apply (op : Operator) (ha : a.Agrees whole value) (hb : b.Agrees whole' value') :
    Follows (if op != .div && whole && whole' then [op.exact value value'] else [])
      (Agrees (op != .div && whole && whole') (op.exact value value')) (op.apply a b) := by
  cases hkind : op != .div && whole && whole' with
  | false =>
      rw [← ha.isInteger_eq, ← hb.isInteger_eq] at hkind
      obtain ⟨r, hr⟩ := Operator.apply_real hkind
      rw [hr]
      exact .pure (.real _ r)
  | true =>
      simp only [Bool.and_eq_true, bne_iff_ne] at hkind
      obtain ⟨⟨hop, rfl⟩, rfl⟩ := hkind
      cases ha with
      | integer hvalue =>
          cases hb with
          | integer hvalue' =>
              rw [Operator.apply_integer hop, hvalue, hvalue']
              exact follows_exact _

end Number.Agrees

/-- Once it is real, the result of a fold stays real. -/
theorem foldlM_apply_real (op : Operator) (r : Float) (numbers : List Number) :
    ∃ r', numbers.foldlM op.apply (.real r) = .ok (.real r') := by
  induction numbers generalizing r with
  | nil => exact ⟨r, rfl⟩
  | cons n numbers ih =>
      obtain ⟨r', hr'⟩ : ∃ r', op.apply (.real r) n = .ok (.real r') :=
        Operator.apply_real (by simp [Number.isInteger])
      rw [List.foldlM_cons, hr']
      exact ih r'

/-- The number is as the tree tells without being evaluated. -/
abbrev Expr.Tells (e : Expr) : Number → Prop :=
  Number.Agrees e.isWhole e.exactValue

/-- From a whole number on, a fold makes a step for each operand up to the first that is
not whole. -/
theorem follows_foldlM {op : Operator} (hop : op ≠ .div) {trees : List Expr}
    {numbers : List Number} (h : List.Forall₂ Expr.Tells trees numbers) {a : Number} {value : Int}
    (ha : a.Agrees true value) :
    Follows (partialResults op.exact value ((trees.takeWhile Expr.isWhole).map Expr.exactValue))
      (Number.Agrees (trees.all Expr.isWhole) ((trees.map Expr.exactValue).foldl op.exact value))
      (numbers.foldlM op.apply a) := by
  -- The result so far stays whole up to the first operand that is not.
  induction h generalizing a value with
  | nil => exact .pure ha
  | @cons e n trees numbers hn _ ih =>
      have hstep := ha.apply op hn
      cases hwhole : e.isWhole with
      | true =>
          simp only [hwhole, bne_iff_ne.2 hop, Bool.and_self, if_true] at hstep
          simpa [hwhole, partialResults, List.foldlM_cons] using hstep.bind fun _ => ih
      | false =>
          obtain ⟨r, hr⟩ : ∃ r, op.apply a n = .ok (.real r) :=
            Operator.apply_real (by rw [hn.isInteger_eq, hwhole, Bool.and_false])
          obtain ⟨r', hr'⟩ := foldlM_apply_real op r numbers
          have hresult : (n :: numbers).foldlM op.apply a = .ok (.real r') := by
            rw [List.foldlM_cons, hr]
            exact hr'
          rw [hresult]
          simpa [hwhole, partialResults] using .pure (.real _ r')

namespace Expr

variable {op : Operator} {arguments : List Expr} {numbers : List Number}

/-- The steps of folding whole operands, one for each after the first. -/
def foldSteps (op : Operator) : List Int → List Int
  | [] => []
  | first :: others => partialResults op.exact first others

/-- A call makes the steps of its arguments, and then, unless it divides, those of folding
the arguments up to the first that is not whole. -/
theorem wholeSteps_call (op : Operator) (arguments : List Expr) (position : Nat) :
    (call op.operationName arguments position).wholeSteps = arguments.flatMap wholeSteps ++
      if op = .div then [] else foldSteps op ((arguments.takeWhile isWhole).map exactValue) := by
  rw [wholeSteps, Operator.ofName?_operationName]
  cases (arguments.takeWhile isWhole).map exactValue <;> cases op <;> rfl

/-- A call that does not divide is whole when all its arguments are. -/
theorem isWhole_call (hop : op ≠ .div) (position : Nat) :
    (call op.operationName arguments position).isWhole = arguments.all isWhole := by
  have hname : op.operationName ≠ Operator.div.operationName :=
    fun heq => hop (Operator.operationName_inj heq)
  simp [isWhole, hname]

/-- The value of a call is that of folding its arguments. -/
theorem exactValue_call (op : Operator) (first : Expr) (others : List Expr) (position : Nat) :
    (call op.operationName (first :: others) position).exactValue
      = (others.map exactValue).foldl op.exact first.exactValue := by
  simp [exactValue]

/-- Operands are folded exactly as long as they are whole. -/
theorem follows_fold (hop : op ≠ .div) (position : Nat) (hne : arguments ≠ [])
    (h : List.Forall₂ Tells arguments numbers) :
    Follows (foldSteps op ((arguments.takeWhile isWhole).map exactValue))
      (Tells (call op.operationName arguments position)) (op.reducer numbers) := by
  rw [Tells, isWhole_call hop]
  cases h with
  | nil => exact absurd rfl hne
  | @cons first n others numbers hn hothers =>
      rw [exactValue_call, List.all_cons]
      cases hwhole : first.isWhole with
      | true =>
          rw [Tells, hwhole] at hn
          rw [List.takeWhile_cons_of_pos hwhole, Bool.true_and]
          exact follows_foldlM hop hothers hn
      | false =>
          rw [Tells, hwhole] at hn
          rw [List.takeWhile_cons_of_neg (by simp [hwhole]), Bool.false_and]
          cases hn with
          | real value r =>
              obtain ⟨r', hr'⟩ := foldlM_apply_real op r numbers
              have hresult : op.reducer (.real r :: numbers) = .ok (.real r') := hr'
              rw [hresult]
              exact .pure (.real _ r')

/-- Operands are divided in doubles, but for a single one, which stays as it is. -/
theorem follows_division (position : Nat) (hne : arguments ≠ [])
    (h : List.Forall₂ Tells arguments numbers) :
    Follows [] (Tells (call Operator.div.operationName arguments position))
      (Operator.div.reducer numbers) := by
  rw [Tells]
  cases h with
  | nil => exact absurd rfl hne
  | @cons first n others numbers hn hothers =>
      rw [exactValue_call]
      cases hothers with
      | nil => simpa [isWhole] using .pure hn
      | @cons second m others numbers hm hothers =>
          obtain ⟨r, hr⟩ := foldlM_apply_real .div (n.toFloat / m.toFloat) numbers
          have hresult : Operator.div.reducer (n :: m :: numbers) = .ok (.real r) := hr
          rw [hresult]
          simpa [isWhole] using .pure (.real _ r)

/-- A call of a built-in operation makes the steps of its arguments and then those of its
fold. -/
theorem follows_call (op : Operator) (position : Nat) (hne : arguments ≠ [])
    (h : ∀ a ∈ arguments, Follows a.wholeSteps a.Tells (Calculator.new.meaning a)) :
    Follows (call op.operationName arguments position).wholeSteps
      (Tells (call op.operationName arguments position))
      (Calculator.new.meaning (call op.operationName arguments position)) := by
  rw [wholeSteps_call, Calculator.meaning]
  refine (Follows.mapM h).bind fun numbers hnumbers => ?_
  rw [Calculator.execute_new]
  by_cases hop : op = .div
  · rw [if_pos hop, hop]
    exact follows_division position hne hnumbers
  · rw [if_neg hop]
    exact follows_fold hop position hne hnumbers

/-- **A tree tells its value.**  What the built-in operations make of a tree is what can be
told of it without evaluating it. -/
theorem follows {e : Expr} (h : e.usesBuiltins = true) :
    Follows e.wholeSteps e.Tells (Calculator.new.meaning e) := by
  induction e with
  | literal value position =>
      rw [wholeSteps, Calculator.meaning, Tells, isWhole]
      cases value with
      | integer n =>
          rw [exactValue]
          exact .pure (.integer rfl)
      | real r => exact .pure (.real _ r)
  | negate operand position ih =>
      rw [usesBuiltins] at h
      rw [wholeSteps, Calculator.meaning, Tells, isWhole, exactValue]
      exact (ih h).bind fun a ha => ha.neg
  | binary left op right position ihleft ihright =>
      rw [usesBuiltins, Bool.and_eq_true] at h
      rw [wholeSteps, Calculator.meaning, Tells, isWhole, exactValue, List.append_assoc]
      refine (ihleft h.1).bind fun a ha => (ihright h.2).bind fun b hb => ?_
      rw [Calculator.execute_new, Operator.reducer, fold_pair]
      exact ha.apply op hb
  | call name arguments position ih =>
      rw [usesBuiltins, Bool.and_eq_true, Bool.and_eq_true] at h
      obtain ⟨⟨hname, hne⟩, harguments⟩ := h
      obtain ⟨op, hop⟩ := Option.isSome_iff_exists.1 hname
      obtain rfl := Operator.ofName?_eq_some.1 hop
      refine follows_call op position (by simpa using hne) fun a ha => ih a ha ?_
      simpa using List.all_eq_true.1 harguments a.usesBuiltins (List.mem_map_of_mem ha)

end Expr

/-- **Built-in arithmetic is exact.**  A tree that uses the built-in operations alone
overflows exactly when some whole step of it does not fit in 64 bits, and fails in no other
way.  Otherwise it has a value, which is its exact value if the tree is whole, and real if
it is not. -/
theorem eval_builtins {e : Expr} (h : e.usesBuiltins = true) :
    (Calculator.new.eval e = .error .overflow ↔ ∃ n ∈ e.wholeSteps, ¬ Number.Fits n) ∧
    (∀ cause, Calculator.new.eval e = .error cause → cause = .overflow) ∧
    ((∀ n ∈ e.wholeSteps, Number.Fits n) →
      (e.isWhole = true → ∃ n : Int64, Calculator.new.eval e = .ok (.integer n) ∧
        n.toInt = e.exactValue) ∧
      (e.isWhole = false → ∃ r, Calculator.new.eval e = .ok (.real r))) := by
  rw [Calculator.eval_eq_meaning]
  have hfollows := Expr.follows h
  generalize Calculator.new.meaning e = outcome at hfollows ⊢
  cases hfollows with
  | overflow hsome =>
      refine ⟨by simpa using hsome, by simp, fun hall => ?_⟩
      obtain ⟨n, hn, hnot⟩ := hsome
      exact absurd (hall n hn) hnot
  | value hall hvalue =>
      refine ⟨by simpa using hall, nofun, fun _ => ⟨fun hwhole => ?_, fun hwhole => ?_⟩⟩
      · rw [Expr.Tells, hwhole] at hvalue
        cases hvalue with
        | integer hvalue => exact ⟨_, rfl, hvalue⟩
      · rw [Expr.Tells, hwhole] at hvalue
        cases hvalue with
        | real value r => exact ⟨r, rfl⟩

/-- A sum overflows on the way although its last operand would make it real, and a single
operand of a division stays whole. -/
theorem eval_builtins_on_the_way :
    Calculator.new.eval (.call "ADD" [.literal (.integer Int64.maxValue) 4,
      .literal (.integer 1) 24, .binary (.literal (.integer 1) 26) .div
        (.literal (.integer 2) 28) 27] 0) = .error .overflow ∧
    ∃ n : Int64, Calculator.new.eval (.negate (.call "DIV" [.literal (.integer 7) 5] 1) 0)
      = .ok (.integer n) ∧ n.toInt = -7 := by
  have hadd : Operator.ofName? "ADD" = some .add := rfl
  have hdiv : Operator.ofName? "DIV" = some .div := rfl
  constructor
  · have hsteps : (Expr.call "ADD" [.literal (.integer Int64.maxValue) 4,
        .literal (.integer 1) 24, .binary (.literal (.integer 1) 26) .div
          (.literal (.integer 2) 28) 27] 0).wholeSteps = [9223372036854775808] := by
      simp [Expr.wholeSteps, Expr.isWhole, Number.isInteger, Expr.exactValue, hadd,
        partialResults, Operator.exact]
      decide
    exact (eval_builtins (by simp [Expr.usesBuiltins, hadd])).1.2
      ⟨9223372036854775808, by simp [hsteps], by decide⟩
  · have hfits : ∀ n ∈ (Expr.negate (.call "DIV" [.literal (.integer 7) 5] 1) 0).wholeSteps,
        Number.Fits n := by
      have hsteps : (Expr.negate (.call "DIV" [.literal (.integer 7) 5] 1) 0).wholeSteps
          = [-7] := by
        simp [Expr.wholeSteps, Expr.isWhole, Number.isInteger, Expr.exactValue, hdiv]
      rw [hsteps]
      decide
    obtain ⟨n, heval, hvalue⟩ := ((eval_builtins (by simp [Expr.usesBuiltins, hdiv])).2.2
      hfits).1 (by simp [Expr.isWhole, Number.isInteger])
    exact ⟨n, heval, hvalue.trans (by simp [Expr.exactValue, hdiv])⟩

end Reckoner
