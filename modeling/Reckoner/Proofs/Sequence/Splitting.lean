import Reckoner.Proofs.Sequence.Nesting

/-!
# A group of a fold can be split

A fold that has stopped can go on from its partial result, and a result is just what is
carried from one group into the next.  So one group of an operation that folds comes to the
same as two groups of it, wherever its operands are divided.  The first of the two needs an
operand, be it its own or the result of the group before it.

* `Calculator.groupsOutcome_append` — groups that follow other groups;
* `Calculator.Splits.append`, `Calculator.exists_splits_nil` — sequences that go on with
  groups;
* `Calculator.groupsOutcome_fold` — one group of a fold, or two of them;
* `Calculator.executeSequence_fold` — the same within a token sequence.
-/

namespace Reckoner

/-- Groups one after the other have their tokens one after the other. -/
theorem groupTokens_append (groups more : List (String × List Token)) :
    groupTokens (groups ++ more) = groupTokens groups ++ groupTokens more :=
  List.flatMap_append

namespace Calculator

variable {c : Calculator} {name label : String} {op : Number → Number → Outcome Number}
  {tokens before after : List Token} {groups more : List (String × List Token)}

/-- Groups that follow others start from the result of those, if there is one. -/
theorem groupsOutcome_append {carried : Option Number} (h : carried.isSome ∨ groups ≠ []) :
    c.groupsOutcome carried (groups ++ more) = (do
      let result ← c.groupsOutcome carried groups
      c.groupsOutcome (some result) more) := by
  induction groups generalizing carried with
  | nil =>
      obtain ⟨result, rfl⟩ := Option.isSome_iff_exists.1 (h.resolve_right (absurd rfl))
      rfl
  | cons g groups ih =>
      rw [List.cons_append, groupsOutcome_cons, groupsOutcome_cons, bind_assoc]
      refine bind_congr fun numbers => ?_
      rw [bind_assoc]
      exact bind_congr fun result => ih (.inl rfl)

/-- A sequence that goes on with groups is cut before each of these too. -/
theorem Splits.append (h : c.Splits tokens before groups)
    (hmore : c.Splits (groupTokens more) [] more) :
    c.Splits (tokens ++ groupTokens more) before (groups ++ more) := by
  refine ⟨?_, List.forall_mem_append.2 ⟨h.opens, hmore.opens⟩, h.ignored,
    List.forall_mem_append.2 ⟨h.operands, hmore.operands⟩⟩
  rw [groupTokens_append, ← List.append_assoc, ← h.joined]

/-- A sequence that begins with an operation, if with anything, has nothing before its
first group. -/
theorem exists_splits_nil (h : ∀ t ∈ after.head?, c.isOperation t = true) :
    ∃ groups, after = groupTokens groups ∧ c.Splits (groupTokens groups) [] groups := by
  have hsplits := c.splits_split after
  cases hbefore : (c.split after).1 with
  | nil =>
      rw [hbefore] at hsplits
      have hjoined := hsplits.joined
      rw [List.nil_append] at hjoined
      exact ⟨_, hjoined, hjoined ▸ hsplits⟩
  | cons t rest =>
      rw [hbefore] at hsplits
      have hhead : after.head? = some t := by
        rw [hsplits.joined]
        rfl
      have hignored := hsplits.ignored t List.mem_cons_self
      rw [h t hhead] at hignored
      cases hignored

/-- A group of numbers goes in front of groups. -/
theorem Splits.cons_numberGroup (h : c.Splits (groupTokens groups) [] groups)
    (hopens : c.contains name = true) (numbers : List Number) :
    c.Splits (groupTokens (numberGroup (name, numbers) :: groups)) []
      (numberGroup (name, numbers) :: groups) := by
  refine ⟨rfl, List.forall_mem_cons.2 ⟨hopens, h.opens⟩, nofun,
    List.forall_mem_cons.2 ⟨fun t ht => ?_, h.operands⟩⟩
  obtain ⟨n, -, rfl⟩ := List.mem_map.1 ht
  rfl

/-- **One group or two.**  What a group of a fold comes to does not change when the group
is opened anew between two of its operands, if there is an operand before that place. -/
theorem groupsOutcome_fold (hbound : c.find? name = some (fold label op))
    (carried : Option Number) {xs : List Number} (h : carried.toList ++ xs ≠ [])
    (ys : List Number) (groups : List (String × List Token)) :
    c.groupsOutcome carried (numberGroup (name, xs ++ ys) :: groups)
      = c.groupsOutcome carried (numberGroup (name, xs) :: numberGroup (name, ys) :: groups) := by
  have hexecute (operands : List Number) : c.execute name operands = fold label op operands :=
    execute_of_find? hbound operands
  calc c.groupsOutcome carried (numberGroup (name, xs ++ ys) :: groups)
      = (do
          let result ← fold label op (carried.toList ++ xs ++ ys)
          c.groupsOutcome (some result) groups) := by
        rw [groupsOutcome_numberGroup, hexecute, List.append_assoc]
    _ = (do
          let partialResult ← fold label op (carried.toList ++ xs)
          let result ← fold label op (partialResult :: ys)
          c.groupsOutcome (some result) groups) := by
        rw [fold_append label op ys h, bind_assoc]
    _ = c.groupsOutcome carried (numberGroup (name, xs) :: numberGroup (name, ys) :: groups) := by
        rw [groupsOutcome_numberGroup, hexecute]
        refine bind_congr fun partialResult => ?_
        rw [groupsOutcome_numberGroup, hexecute]
        rfl

/-- The same behind other groups, which may leave the operand that is needed. -/
theorem groupsOutcome_append_fold (hbound : c.find? name = some (fold label op))
    {xs : List Number} (h : xs ≠ [] ∨ groups ≠ []) (ys : List Number) :
    c.groupsOutcome none (groups ++ numberGroup (name, xs ++ ys) :: more)
      = c.groupsOutcome none
        (groups ++ numberGroup (name, xs) :: numberGroup (name, ys) :: more) := by
  cases groups with
  | nil =>
      have hne : xs ≠ [] := h.resolve_right (absurd rfl)
      exact groupsOutcome_fold hbound none hne ys more
  | cons g groups =>
      have hne : g :: groups ≠ [] := List.cons_ne_nil g groups
      rw [groupsOutcome_append (.inr hne), groupsOutcome_append (.inr hne)]
      exact bind_congr fun result =>
        groupsOutcome_fold hbound (some result) (List.cons_ne_nil result xs) ys more

/-- The value of a sequence that goes on with groups is that of all its groups. -/
theorem executeSequence_append (before : List Token)
    (hmore : c.Splits (groupTokens more) [] more) :
    c.executeSequence (before ++ groupTokens more)
      = (c.groupsOutcome none ((c.split before).2 ++ more)).mapError .wrongExpression := by
  rw [executeSequence, ((c.splits_split before).append hmore).foldTokens_eq]

/-- Where an operation stands, there is a group. -/
theorem Splits.ne_nil (h : c.Splits tokens before groups)
    (hoperation : ∃ t ∈ tokens, c.isOperation t = true) : groups ≠ [] := by
  rintro rfl
  obtain ⟨t, ht, htrue⟩ := hoperation
  rw [h.joined, groupTokens_nil, List.append_nil] at ht
  rw [h.ignored t ht] at htrue
  cases htrue

/-- **Groups of a fold can be split.**  Where an operation folds, as the built-in ones do
at first, its name can be written once more between two operands of its group.  There must
be an operand before that place, or an operation before the group whose result is one, and
behind the group stands nothing or the next operation. -/
theorem executeSequence_fold (c : Calculator) :
    (∀ (policy : Policy) (op : Operator),
      (withPolicy policy).find? op.operationName = some (fold op.operationName op.apply)) ∧
    ∀ (name label : String) (op : Number → Number → Outcome Number)
      (before after : List Token) (xs ys : List Number),
      c.find? name = some (fold label op) →
      (∀ t ∈ after.head?, c.isOperation t = true) →
      (xs ≠ [] ∨ ∃ t ∈ before, c.isOperation t = true) →
      c.executeSequence (before ++ [.name name] ++ xs.map .number ++ ys.map .number ++ after)
        = c.executeSequence (before ++ [.name name] ++ xs.map .number
          ++ [.name name] ++ ys.map .number ++ after) := by
  refine ⟨fun policy op => ?_, fun name label op before after xs ys hbound hafter hfirst => ?_⟩
  · rw [find?_withPolicy, Operator.ofName?_operationName]
    rfl
  obtain ⟨following, rfl, hfollowing⟩ := exists_splits_nil hafter
  have hopens : c.contains name = true := by
    rw [contains_eq, hbound]
    rfl
  have hone := hfollowing.cons_numberGroup hopens (xs ++ ys)
  have htwo := (hfollowing.cons_numberGroup hopens ys).cons_numberGroup hopens xs
  have hneeded : xs ≠ [] ∨ (c.split before).2 ≠ [] :=
    hfirst.imp_right (c.splits_split before).ne_nil
  calc c.executeSequence (before ++ [.name name] ++ xs.map .number ++ ys.map .number
        ++ groupTokens following)
      = c.executeSequence (before ++ groupTokens (numberGroup (name, xs ++ ys) :: following)) := by
        simp [numberGroup]
    _ = c.executeSequence (before
          ++ groupTokens (numberGroup (name, xs) :: numberGroup (name, ys) :: following)) := by
        rw [executeSequence_append before hone, executeSequence_append before htwo,
          groupsOutcome_append_fold hbound hneeded]
    _ = _ := by simp [numberGroup]

/-- The sum that is carried into the difference is the operand that is needed. -/
theorem executeSequence_fold_carried :
    let one : List Token := [.number (.integer 7), .name "ADD", .number (.integer 1),
      .name "SUB", .number (.integer 5), .number (.integer 3), .name "MUL", .number (.integer 2)]
    let two : List Token := [.number (.integer 7), .name "ADD", .number (.integer 1),
      .name "SUB", .name "SUB", .number (.integer 5), .number (.integer 3), .name "MUL",
      .number (.integer 2)]
    new.executeSequence one = new.executeSequence two ∧
      new.executeSequence one = .ok (.integer (-14)) :=
  ⟨(executeSequence_fold new).2 "SUB" "SUB" Number.sub
    [.number (.integer 7), .name "ADD", .number (.integer 1)]
    [.name "MUL", .number (.integer 2)] [] [.integer 5, .integer 3]
    ((executeSequence_fold new).1 .overwrite .sub) (by decide) (.inr ⟨.name "ADD", by decide, rfl⟩),
    rfl⟩

/-- A name behind the group is looked at before one group is executed, but only after the
first of two. -/
example : new.executeSequence [.name "ADD", .number (.integer Int64.maxValue),
      .number (.integer 1), .name "X"] = .error (.wrongExpression (.expectedNumber "X")) ∧
    new.executeSequence [.name "ADD", .number (.integer Int64.maxValue),
      .number (.integer 1), .name "ADD", .name "X"] = .error (.wrongExpression .overflow) :=
  ⟨rfl, rfl⟩

end Calculator

end Reckoner
