import Mathlib.Data.List.TFAE
import Mathlib.Tactic.TFAE
import Reckoner.Proofs.History
import Reckoner.Sequence

/-!
# All views of a calculator agree

A calculator can be asked for the names that it holds, whether it holds a name, for the
operation of a name, and whether a token opens a group.  All of these say the same of a
name, and executing the name does what they say.  After a history of commands, what they say
is what the commands about the name lead to.

* `Calculator.exists_lookup_iff`, `Calculator.isOperation_name` — the views of one name;
* `Calculator.pairwise_operationNames` — the names in the order of their bytes;
* `Calculator.views_after` — all views after any history.
-/

namespace Reckoner.Calculator

open Command

/-- A look-up succeeds exactly for the names that are registered. -/
theorem exists_lookup_iff {c : Calculator} {name : String} :
    (∃ reducer, c.lookup name = .ok reducer) ↔ c.contains name = true := by
  rw [contains_eq]
  unfold lookup
  cases c.find? name <;> simp

/-- A name opens a group exactly when it is registered. -/
theorem isOperation_name (c : Calculator) (name : String) :
    c.isOperation (.name name) = c.contains name := by
  unfold isOperation operation? Token.name?
  cases hname : c.contains name <;> simp [hname]

/-- The names are listed in strictly increasing order of their bytes. -/
theorem pairwise_operationNames (c : Calculator) :
    (c.operationNames.map utf8Bytes).Pairwise (· < ·) := by
  rw [List.pairwise_map]
  exact c.operationNames_increasing.imp byteOrder_eq_lt.1

/-- No name is listed twice. -/
theorem nodup_operationNames (c : Calculator) : c.operationNames.Nodup := by
  refine c.operationNames_increasing.imp ?_
  rintro name _ hless rfl
  have hself : byteOrder name name = .eq := Std.ReflCmp.compare_self
  rw [hself] at hless
  cases hless

/-- **All views agree.**  However a calculator began and whatever commands it was given, the
refused ones among them, its names are listed in strictly increasing order of their bytes and
each once.  A name is listed, held, found, and taken for an operation, or none of these, and
which it is depends on the commands about it.  Executing it applies the operation that it is
bound to, or fails because there is none. -/
theorem views_after (policy : Policy) (history : List Command) :
    (runAll new history = after .overwrite history ∧
      runAll default history = after .overwrite history) ∧
    ((after policy history).operationNames.map utf8Bytes).Pairwise (· < ·) ∧
    (after policy history).operationNames.Nodup ∧
    ∀ name : String,
      List.TFAE [
        name ∈ (after policy history).operationNames,
        (after policy history).contains name = true,
        ∃ reducer, (after policy history).lookup name = .ok reducer,
        (after policy history).isOperation (.name name) = true,
        (bindAll policy name (builtin? name) history).isSome = true] ∧
      (after policy history).lookup name
        = (match bindAll policy name (builtin? name) history with
          | some reducer => .ok reducer
          | none => .error (.functionNotFound name)) ∧
      ∀ operands : List Number,
        (after policy history).execute name operands
          = (match bindAll policy name (builtin? name) history with
            | some reducer => reducer operands
            | none => .error (.functionNotFound name)) := by
  refine ⟨⟨rfl, rfl⟩, pairwise_operationNames _, nodup_operationNames _, fun name => ⟨?_, ?_, ?_⟩⟩
  · tfae_have 1 ↔ 2 := mem_operationNames
    tfae_have 3 ↔ 2 := exists_lookup_iff
    tfae_have 4 ↔ 2 := by rw [isOperation_name]
    tfae_have 5 ↔ 2 := by rw [contains_eq, find?_after]
    tfae_finish
  · rw [← find?_after]
    rfl
  · intro operands
    rw [← find?_after]
    cases hbound : (after policy history).find? name with
    | some reducer => exact execute_of_find? hbound operands
    | none => exact execute_of_find?_eq_none hbound operands

end Reckoner.Calculator
