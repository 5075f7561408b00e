import Reckoner.Calculator

/-!
# Calculators by name

What a calculator is, seen through the bindings of its names, and what each change
does to them.

* `Calculator.ext` — a calculator is its policy and the bindings of its names;
* `Calculator.find?_withPolicy`, `Calculator.find?_register`,
  `Calculator.find?_unregister` — the bindings at the start and after a change;
* `Calculator.contains_eq`, `Calculator.mem_operationNames` — the other views of them;
* `Calculator.execute_of_find?`, `Calculator.execute_new` — executing by the binding;
* `Calculator.operationNames_increasing` — names are listed in order, each once.
-/

namespace Reckoner.Calculator

/-- A calculator is its policy and the bindings of its names. -/
@[ext] theorem ext {c d : Calculator} (hpolicy : c.policy = d.policy)
    (hfind : ∀ name, c.find? name = d.find? name) : c = d := by
  cases c with
  | mk operations policy =>
    cases d with
    | mk operations' policy' =>
      cases hpolicy
      have hoperations : operations = operations' := Std.ExtTreeMap.ext_getElem? hfind
      rw [hoperations]

/-- A name is registered exactly when an operation is found for it. -/
theorem contains_eq (c : Calculator) (name : String) :
    c.contains name = (c.find? name).isSome := by
  simp [contains, find?]

/-- The names listed are the names that are registered. -/
theorem mem_operationNames {c : Calculator} {name : String} :
    name ∈ c.operationNames ↔ c.contains name = true := by
  simp [operationNames, contains]

/-- At the start the built-in names are bound, and no other. -/
theorem find?_withPolicy (policy : Policy) (name : String) :
    (withPolicy policy).find? name = (Operator.ofName? name).map Operator.reducer := by
  by_cases h : ∃ op : Operator, op.operationName = name
  · obtain ⟨op, rfl⟩ := h
    rw [Operator.ofName?_operationName]
    cases op <;> rfl
  · have hnone : Operator.ofName? name = none := by
      rw [Option.eq_none_iff_forall_not_mem]
      exact fun op hop => h ⟨op, Operator.ofName?_eq_some.1 hop⟩
    have hne (op : Operator) : op.operationName ≠ name := fun heq => h ⟨op, heq⟩
    simp [hnone, find?, withPolicy, builtins, Operator.all, hne]

/-- After registering, the name has the new operation, and every other name what it
had before. -/
theorem find?_register {c d : Calculator} {name : String} {reducer : Reducer}
    (h : c.register name reducer = .ok d) (other : String) :
    d.find? other = if name = other then some reducer else c.find? other := by
  unfold register at h
  split at h
  · cases h
  · cases h
    simp [find?, Std.ExtTreeMap.getElem?_insert]

/-- Registering keeps the policy. -/
theorem policy_register {c d : Calculator} {name : String} {reducer : Reducer}
    (h : c.register name reducer = .ok d) : d.policy = c.policy := by
  unfold register at h
  split at h <;> cases h
  rfl

/-- After freeing a name, it has no operation, and every other name what it had. -/
@[simp] theorem find?_unregister (c : Calculator) (name other : String) :
    (c.unregister name).2.find? other = if name = other then none else c.find? other := by
  simp [unregister, find?, Std.ExtTreeMap.getElem?_erase]

/-- Freeing a name keeps the policy. -/
@[simp] theorem policy_unregister (c : Calculator) (name : String) :
    (c.unregister name).2.policy = c.policy := rfl

/-- A name with an operation is executed by it. -/
theorem execute_of_find? {c : Calculator} {name : String} {reducer : Reducer}
    (h : c.find? name = some reducer) (operands : List Number) :
    c.execute name operands = reducer operands := by
  simp [execute, lookup, h, bind, Except.bind]

/-- A name without an operation cannot be executed. -/
theorem execute_of_find?_eq_none {c : Calculator} {name : String} (h : c.find? name = none)
    (operands : List Number) : c.execute name operands = .error (.functionNotFound name) := by
  simp [execute, lookup, h, bind, Except.bind]

/-- In a new calculator the operation of an operator is the fold of its arithmetic. -/
theorem execute_new (op : Operator) (operands : List Number) :
    new.execute op.operationName operands = op.reducer operands := by
  apply execute_of_find?
  rw [new, find?_withPolicy, Operator.ofName?_operationName, Option.map_some]

/-- The names listed are in strictly increasing order, so each is listed once. -/
theorem operationNames_increasing (c : Calculator) :
    c.operationNames.Pairwise (fun a b => byteOrder a b = .lt) :=
  c.operations.ordered_keys

end Reckoner.Calculator
