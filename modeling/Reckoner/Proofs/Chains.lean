import Reckoner.Calculator.Lemmas
import Reckoner.Expr.Operations
import Reckoner.Proofs.Evaluation

/-!
# Chains and calls

A chain of one operator evaluates an operand, applies the operation to what it has and to
the operand, and goes on to the next one.  A call of the operation evaluates all operands
first and then folds them.  Where the operation is the built-in one, both make the same steps
with the same values.  They differ only in which error comes first: a chain can fail at a
step before it comes to an operand that a call fails at.

* `foldlM_of_mapM`, `exists_value_of_foldlM` — a loop that evaluates as it goes, and a loop
  over values;
* `Calculator.meaning_chain`, `Calculator.meaning_call` — a chain and a call as such loops;
* `Calculator.eval_chain` — a chain and a call have the same values.
-/

namespace Reckoner

section Loops

variable {α β : Type} {f : α → Outcome β} {g : β → β → Outcome β} {xs : List α}

/-- Elements that each have a value have them together. -/
theorem exists_mapM_of_forall (h : ∀ x ∈ xs, ∃ value, f x = .ok value) :
    ∃ values, xs.mapM f = .ok values := by
  induction xs with
  | nil => exact ⟨[], rfl⟩
  | cons x xs ih =>
      obtain ⟨⟨value, hx⟩, hxs⟩ := List.forall_mem_cons.1 h
      obtain ⟨values, hvalues⟩ := ih hxs
      refine ⟨value :: values, ?_⟩
      rw [List.mapM_cons, hx, hvalues]
      rfl

/-- A loop that evaluates each element when it comes to it is the loop over the values, if
all elements have one. -/
theorem foldlM_of_mapM {values : List β} (h : xs.mapM f = .ok values) (b : β) :
    xs.foldlM (fun b x => f x >>= g b) b = values.foldlM g b := by
  induction xs generalizing values b with
  | nil =>
      cases h
      rfl
  | cons x xs ih =>
      rw [List.mapM_cons] at h
      obtain ⟨value, hx, h⟩ := bind_eq_ok_iff.1 h
      obtain ⟨others, hxs, h⟩ := bind_eq_ok_iff.1 h
      obtain rfl := Except.ok.inj h
      rw [List.foldlM_cons, List.foldlM_cons, hx]
      exact bind_congr fun b => ih hxs b

/-- A loop that evaluates each element when it comes to it comes to its end only if all
elements have a value. -/
theorem exists_value_of_foldlM {b v : β} (h : xs.foldlM (fun b x => f x >>= g b) b = .ok v) :
    ∀ x ∈ xs, ∃ value, f x = .ok value := by
  induction xs generalizing b with
  | nil => exact nofun
  | cons x xs ih =>
      rw [List.foldlM_cons] at h
      obtain ⟨b', hstep, h⟩ := bind_eq_ok_iff.1 h
      obtain ⟨value, hx, -⟩ := bind_eq_ok_iff.1 hstep
      exact List.forall_mem_cons.2 ⟨⟨value, hx⟩, ih h⟩

end Loops

namespace Calculator

variable {c : Calculator} {op : Operator}

/-- Where the operation of an operator is the built-in one, it takes two operands as the
operator does. -/
theorem execute_pair (hop : c.find? op.operationName = some op.reducer) (a b : Number) :
    c.execute op.operationName [a, b] = op.apply a b := by
  rw [execute_of_find? hop, Operator.reducer, fold_pair]

/-- A chain evaluates each operand when it comes to it. -/
theorem meaning_chain (hop : c.find? op.operationName = some op.reducer) (first : Expr)
    (others : List (Nat × Expr)) :
    c.meaning (chain op first others) = (do
      let a ← c.meaning first
      (others.map Prod.snd).foldlM (fun a e => c.meaning e >>= op.apply a) a) := by
  induction others generalizing first with
  | nil => simp [chain]
  | cons link others ih =>
      have hlink : chain op first (link :: others)
          = chain op (.binary first op link.2 link.1) others := rfl
      rw [hlink, ih, meaning]
      simp only [bind_assoc, List.map_cons, List.foldlM_cons, execute_pair hop]

/-- A call evaluates all operands first. -/
theorem meaning_call (hop : c.find? op.operationName = some op.reducer) (first : Expr)
    (others : List Expr) (position : Nat) :
    c.meaning (.call op.operationName (first :: others) position) = (do
      let a ← c.meaning first
      let values ← others.mapM c.meaning
      values.foldlM op.apply a) := by
  rw [meaning, List.mapM_cons]
  simp only [bind_assoc, pure_bind, execute_of_find? hop, Operator.reducer, fold]

/-- A chain has a value only if its operands have values. -/
theorem exists_mapM_of_chain (hop : c.find? op.operationName = some op.reducer) {first : Expr}
    {others : List (Nat × Expr)} {v : Number} (h : c.meaning (chain op first others) = .ok v) :
    ∃ values, (others.map Prod.snd).mapM c.meaning = .ok values := by
  rw [meaning_chain hop] at h
  obtain ⟨a, -, hloop⟩ := bind_eq_ok_iff.1 h
  exact exists_mapM_of_forall (exists_value_of_foldlM hloop)

/-- A call has a value only if its operands have values. -/
theorem exists_mapM_of_call (hop : c.find? op.operationName = some op.reducer) {first : Expr}
    {others : List Expr} {position : Nat} {v : Number}
    (h : c.meaning (.call op.operationName (first :: others) position) = .ok v) :
    ∃ values, others.mapM c.meaning = .ok values := by
  rw [meaning_call hop] at h
  obtain ⟨a, -, h⟩ := bind_eq_ok_iff.1 h
  obtain ⟨values, hvalues, -⟩ := bind_eq_ok_iff.1 h
  exact ⟨values, hvalues⟩

/-- A chain and a call whose operands have values come to the same. -/
theorem meaning_chain_eq_call (hop : c.find? op.operationName = some op.reducer) (first : Expr)
    (others : List (Nat × Expr)) (position : Nat) {values : List Number}
    (hvalues : (others.map Prod.snd).mapM c.meaning = .ok values) :
    c.meaning (chain op first others)
      = c.meaning (.call op.operationName (first :: others.map Prod.snd) position) := by
  rw [meaning_chain hop, meaning_call hop, hvalues]
  exact bind_congr fun a => foldlM_of_mapM hvalues a

/-- **A chain is a call.**  Where the operation of an operator is the built-in one, whatever
else is registered, operands joined from the left by the operator have the value that the
call of the operation has on all of them, or neither has one.  If all operands have values,
the outcomes are the same, errors included. -/
theorem eval_chain (hop : c.find? op.operationName = some op.reducer) (first : Expr)
    (others : List (Nat × Expr)) (position : Nat) :
    (∀ v, c.eval (chain op first others) = .ok v ↔
      c.eval (.call op.operationName (first :: others.map Prod.snd) position) = .ok v) ∧
    ((∀ e ∈ first :: others.map Prod.snd, ∃ v, c.eval e = .ok v) →
      c.eval (chain op first others)
        = c.eval (.call op.operationName (first :: others.map Prod.snd) position)) := by
  simp only [eval_eq_meaning]
  refine ⟨fun v => ⟨fun h => ?_, fun h => ?_⟩, fun h => ?_⟩
  · obtain ⟨values, hvalues⟩ := exists_mapM_of_chain hop h
    rw [← meaning_chain_eq_call hop first others position hvalues, h]
  · obtain ⟨values, hvalues⟩ := exists_mapM_of_call hop h
    rw [meaning_chain_eq_call hop first others position hvalues, h]
  · obtain ⟨-, hothers⟩ := List.forall_mem_cons.1 h
    obtain ⟨values, hvalues⟩ := exists_mapM_of_forall hothers
    exact meaning_chain_eq_call hop first others position hvalues

/-- `9 - 3 - 2` without a multiplication among the operations, and a sum that overflows before
its last operand. -/
theorem eval_chain_overflow :
    let c := (new.unregister "MUL").2
    let literal (n : Int64) : Expr := .literal (.integer n) 0
    c.eval (chain .sub (literal 9) [(1, literal 3), (2, literal 2)]) = .ok (.integer 4) ∧
      c.eval (.call "SUB" [literal 9, literal 3, literal 2] 0) = .ok (.integer 4) ∧
      c.eval (chain .add (literal Int64.maxValue) [(1, literal 1), (2, literal (-1))])
        = .error .overflow ∧
      c.eval (.call "ADD" [literal Int64.maxValue, literal 1, literal (-1)] 0)
        = .error .overflow := by
  intro c literal
  have hop (op : Operator) (hne : "MUL" ≠ op.operationName) :
      c.find? op.operationName = some op.reducer := by
    rw [find?_unregister, if_neg hne, new, find?_withPolicy, Operator.ofName?_operationName,
      Option.map_some]
  have hliteral (n : Int64) : c.meaning (literal n) = .ok (.integer n) := by
    rw [meaning]
  have hcall (op : Operator) (hne : "MUL" ≠ op.operationName) (n m k : Int64) :
      c.eval (.call op.operationName [literal n, literal m, literal k] 0)
        = [Number.integer m, .integer k].foldlM op.apply (.integer n) := by
    rw [eval_eq_meaning, meaning_call (hop op hne), List.mapM_cons, List.mapM_cons,
      List.mapM_nil, hliteral, hliteral, hliteral]
    rfl
  have hsub := (eval_chain (hop .sub (by decide)) (literal 9) [(1, literal 3), (2, literal 2)]
    0).1 (.integer 4)
  have hadd := (eval_chain (hop .add (by decide)) (literal Int64.maxValue)
    [(1, literal 1), (2, literal (-1))] 0).2 (by simp [eval_eq_meaning, hliteral])
  have hfour : c.eval (.call "SUB" [literal 9, literal 3, literal 2] 0) = .ok (.integer 4) :=
    (hcall .sub (by decide) 9 3 2).trans rfl
  have hoverflow : c.eval (.call "ADD" [literal Int64.maxValue, literal 1, literal (-1)] 0)
      = .error .overflow :=
    (hcall .add (by decide) Int64.maxValue 1 (-1)).trans rfl
  exact ⟨hsub.2 hfour, hfour, hadd.trans hoverflow, hoverflow⟩

end Calculator

end Reckoner
