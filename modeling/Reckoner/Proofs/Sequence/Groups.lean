import Reckoner.Calculator.Lemmas
import Reckoner.Sequence.Groups
import Reckoner.Sequence.Rules

/-!
# Token sequences are evaluated group by group

The pass over the tokens has at most one group open.  This module says what the pass does
with one token, hence with the operands of a group, and hence with all groups; and it
shows that this is what the rules say.

* `Calculator.foldTokens_ignored`, `Calculator.foldTokens_operands` — the pass over tokens
  of which none is registered;
* `Calculator.Splits.foldTokens_eq` — the pass takes the groups in order;
* `Calculator.Yields.groupsOutcome_eq`, `Calculator.yields_groupsOutcome` — the rules have
  exactly one outcome for groups;
* `Calculator.executeSequence_iff` — the value of a token sequence is what the rules say.
-/

namespace Reckoner

namespace Token

/-- The operands of a group are all numbers exactly when each of them is. -/
theorem mapM_toNumber_eq_ok {tokens : List Token} {numbers : List Number} :
    tokens.mapM toNumber = .ok numbers ↔ tokens = numbers.map .number := by
  induction tokens generalizing numbers with
  | nil => cases numbers <;> simp [pure, Except.pure]
  | cons t rest ih =>
      rw [List.mapM_cons]
      cases t with
      | name text => cases numbers <;> simp [toNumber, bind, Except.bind]
      | number value =>
          cases hrest : rest.mapM toNumber with
          | error e => cases numbers <;> simp [toNumber, bind, Except.bind, ← ih, hrest]
          | ok values =>
              cases numbers <;>
                simp [toNumber, bind, Except.bind, pure, Except.pure, ← ih, hrest]

/-- The first name among the operands of a group is the error. -/
theorem mapM_toNumber_eq_error {tokens : List Token} {e : RuntimeError} :
    tokens.mapM toNumber = .error e ↔
      ∃ numbers text rest, tokens = List.map .number numbers ++ .name text :: rest ∧
        e = .expectedNumber text := by
  constructor
  · intro h
    induction tokens with
    | nil => cases h
    | cons t rest ih =>
        rw [List.mapM_cons] at h
        cases t with
        | name text =>
            cases h
            exact ⟨[], text, rest, rfl, rfl⟩
        | number value =>
            cases hrest : rest.mapM toNumber with
            | ok values =>
                rw [hrest] at h
                cases h
            | error e' =>
                rw [hrest] at h
                cases h
                obtain ⟨numbers, text, after, rfl, he⟩ := ih hrest
                exact ⟨value :: numbers, text, after, rfl, he⟩
  · rintro ⟨numbers, text, rest, rfl, rfl⟩
    induction numbers with
    | nil => rfl
    | cons value numbers ih => simp [toNumber, bind, Except.bind, ih]

end Token

namespace Calculator

variable {c : Calculator} {t : Token} {tokens before rest : List Token} {name : String}
  {groups : List (String × List Token)}

/-- A token that is no operation opens no group. -/
theorem isOperation_eq_false : c.isOperation t = false ↔ c.operation? t = none := by
  simp [isOperation]

/-- A token opens a group when it is a registered name. -/
theorem operation?_eq_some : c.operation? t = some name ↔
    t = .name name ∧ c.contains name = true := by
  cases t with
  | number value => simp [operation?, Token.name?]
  | name text =>
      simp only [operation?, Token.name?, Option.filter_eq_some_iff, Option.some.injEq,
        Token.name.injEq]

/-- Before the first group a token that is no operation is passed over. -/
theorem foldTokens_none_cons (h : c.isOperation t = false) :
    c.foldTokens none (t :: rest) = c.foldTokens none rest := by
  simp only [foldTokens, isOperation_eq_false.1 h]

/-- A token that is no operation is an operand of the open group. -/
theorem foldTokens_some_cons (h : c.isOperation t = false) (g : Group) :
    c.foldTokens (some g) (t :: rest) = (do
      c.foldTokens (some (g.push (← t.toNumber))) rest) := by
  simp only [foldTokens, isOperation_eq_false.1 h]

/-- A registered name ends the open group, if there is one, and opens the next. -/
theorem foldTokens_cons_name (h : c.contains name = true) (pending : Option Group) :
    c.foldTokens pending (.name name :: rest) = (do
      c.foldTokens (some (← c.openGroup name pending)) rest) := by
  cases pending <;> simp only [foldTokens, operation?_eq_some.2 ⟨rfl, h⟩]

/-- All tokens before the first group are passed over. -/
theorem foldTokens_ignored (h : ∀ t ∈ before, c.isOperation t = false) :
    c.foldTokens none (before ++ rest) = c.foldTokens none rest := by
  induction before with
  | nil => rfl
  | cons t before ih =>
      obtain ⟨ht, hbefore⟩ := List.forall_mem_cons.1 h
      rw [List.cons_append, foldTokens_none_cons ht, ih hbefore]

/-- All tokens up to the next group are operands of the open one. -/
theorem foldTokens_operands (h : ∀ t ∈ tokens, c.isOperation t = false) (operation : String)
    (operands : List Number) :
    c.foldTokens (some ⟨operation, operands⟩) (tokens ++ rest) = (do
      let numbers ← tokens.mapM Token.toNumber
      c.foldTokens (some ⟨operation, numbers.reverse ++ operands⟩) rest) := by
  induction tokens generalizing operands with
  | nil => rfl
  | cons t tokens ih =>
      obtain ⟨ht, htokens⟩ := List.forall_mem_cons.1 h
      rw [List.cons_append, foldTokens_some_cons ht, List.mapM_cons]
      cases t with
      | name text => rfl
      | number value =>
          have hrest := ih htokens (value :: operands)
          simp only [Token.toNumber, Group.push, bind, Except.bind] at hrest ⊢
          rw [hrest]
          cases tokens.mapM Token.toNumber with
          | error e => rfl
          | ok numbers => simp [pure, Except.pure]

/-- The outcome of groups is that of the first and then that of the others. -/
theorem groupsOutcome_cons (carried : Option Number) :
    c.groupsOutcome carried ((name, tokens) :: groups) = (do
      let numbers ← tokens.mapM Token.toNumber
      let result ← c.execute name (carried.toList ++ numbers)
      c.groupsOutcome (some result) groups) := by
  cases carried <;> rw [groupsOutcome]

/-- The operands of a group are executed after the result that was carried into it. -/
theorem execute_group (carried : Option Number) (numbers : List Number) :
    Group.execute ⟨name, numbers.reverse ++ carried.toList⟩ c
      = c.execute name (carried.toList ++ numbers) := by
  have hcarried : carried.toList.reverse = carried.toList := by cases carried <;> rfl
  rw [Group.execute, List.reverse_append, List.reverse_reverse, hcarried]

/-- **The groups in order.**  With one group open, the pass takes its operands, and then
the groups that follow, each with the result of the one before it. -/
theorem foldTokens_groups (hopens : ∀ g ∈ groups, c.contains g.1 = true)
    (hgroups : ∀ g ∈ groups, ∀ t ∈ g.2, c.isOperation t = false)
    (htokens : ∀ t ∈ tokens, c.isOperation t = false) (carried : Option Number) :
    c.foldTokens (some ⟨name, carried.toList⟩) (tokens ++ groupTokens groups)
      = c.groupsOutcome carried ((name, tokens) :: groups) := by
  -- The group that is open, and what was carried into it, change with each group closed.
  induction groups generalizing name tokens carried with
  | nil =>
      rw [foldTokens_operands htokens, groupsOutcome_cons]
      refine bind_congr fun numbers => ?_
      rw [groupTokens_nil, foldTokens, execute_group]
      cases c.execute name (carried.toList ++ numbers) <;> rfl
  | cons g groups ih =>
      obtain ⟨hopen, hopens⟩ := List.forall_mem_cons.1 hopens
      obtain ⟨hgroup, hgroups⟩ := List.forall_mem_cons.1 hgroups
      rw [foldTokens_operands htokens, groupsOutcome_cons]
      refine bind_congr fun numbers => ?_
      rw [groupTokens_cons, foldTokens_cons_name hopen, openGroup, execute_group]
      cases c.execute name (carried.toList ++ numbers) with
      | error e => rfl
      | ok result => exact ih hopens hgroups hgroup (some result)

/-- The pass over a token sequence takes its groups in order. -/
theorem Splits.foldTokens_eq (h : c.Splits tokens before groups) :
    c.foldTokens none tokens = c.groupsOutcome none groups := by
  rw [h.joined, foldTokens_ignored h.ignored]
  cases groups with
  | nil => rfl
  | cons g groups =>
      obtain ⟨hopen, hopens⟩ := List.forall_mem_cons.1 h.opens
      obtain ⟨hgroup, hgroups⟩ := List.forall_mem_cons.1 h.operands
      rw [groupTokens_cons, foldTokens_cons_name hopen]
      exact foldTokens_groups hopens hgroups hgroup none

/-- Every token sequence can be cut at its registered names. -/
theorem splits_split (c : Calculator) (tokens : List Token) :
    c.Splits tokens (c.split tokens).1 (c.split tokens).2 := by
  induction tokens with
  | nil => exact ⟨rfl, nofun, nofun, nofun⟩
  | cons t rest ih =>
      rw [split]
      cases ht : c.operation? t with
      | none =>
          exact ⟨congrArg (t :: ·) ih.joined, ih.opens,
            List.forall_mem_cons.2 ⟨isOperation_eq_false.2 ht, ih.ignored⟩, ih.operands⟩
      | some name =>
          obtain ⟨rfl, hopens⟩ := operation?_eq_some.1 ht
          refine ⟨?_, List.forall_mem_cons.2 ⟨hopens, ih.opens⟩, nofun,
            List.forall_mem_cons.2 ⟨ih.ignored, ih.operands⟩⟩
          simpa using ih.joined

/-- What the rules say of groups is the outcome of taking them in order. -/
theorem Yields.groupsOutcome_eq {carried : Option Number} {outcome : Outcome Number}
    (h : c.Yields carried groups outcome) : c.groupsOutcome carried groups = outcome := by
  induction h with
  | missing => rfl
  | done result => rfl
  | @misplaced carried operation name numbers rest groups =>
      rw [groupsOutcome_cons, Token.mapM_toNumber_eq_error.2 ⟨numbers, name, rest, rfl, rfl⟩]
      rfl
  | @failed carried operation numbers groups reducer cause hfind hcause =>
      rw [groupsOutcome_cons, Token.mapM_toNumber_eq_ok.2 rfl]
      simp only [bind, Except.bind, execute_of_find? hfind, hcause]
  | @next carried operation numbers groups reducer result outcome hfind hresult hrest ih =>
      rw [groupsOutcome_cons, Token.mapM_toNumber_eq_ok.2 rfl]
      simpa only [bind, Except.bind, execute_of_find? hfind, hresult] using ih

/-- The rules have an outcome for all groups of registered operations. -/
theorem yields_groupsOutcome (hopens : ∀ g ∈ groups, c.contains g.1 = true)
    (carried : Option Number) : c.Yields carried groups (c.groupsOutcome carried groups) := by
  induction groups generalizing carried with
  | nil =>
      cases carried with
      | none => exact .missing
      | some result => exact .done result
  | cons g groups ih =>
      obtain ⟨operation, tokens⟩ := g
      obtain ⟨hoperation, hothers⟩ := List.forall_mem_cons.1 hopens
      rw [contains_eq] at hoperation
      obtain ⟨reducer, hfind⟩ := Option.isSome_iff_exists.1 hoperation
      rw [groupsOutcome_cons]
      cases htokens : tokens.mapM Token.toNumber with
      | error e =>
          obtain ⟨numbers, name, rest, rfl, rfl⟩ := Token.mapM_toNumber_eq_error.1 htokens
          exact .misplaced
      | ok numbers =>
          obtain rfl := Token.mapM_toNumber_eq_ok.1 htokens
          simp only [bind, Except.bind, execute_of_find? hfind]
          cases hresult : reducer (carried.toList ++ numbers) with
          | error cause => exact .failed hfind hresult
          | ok result => exact .next hfind hresult (ih hothers (some result))

/-- **Token sequences follow the rules.**  The value of a token sequence is the outcome
that the rules give to the groups it is cut into, a failure being wrapped once more.  What
stands before the first group has no part in it. -/
theorem executeSequence_iff (c : Calculator) (tokens : List Token) (outcome : Outcome Number) :
    c.executeSequence tokens = outcome ↔
      ∃ before groups result, c.Splits tokens before groups ∧ c.Yields none groups result ∧
        outcome = result.mapError .wrongExpression := by
  constructor
  · rintro rfl
    have hsplits := c.splits_split tokens
    refine ⟨_, _, _, hsplits, yields_groupsOutcome hsplits.opens none, ?_⟩
    rw [executeSequence, hsplits.foldTokens_eq]
  · rintro ⟨before, groups, result, hsplits, hyields, rfl⟩
    rw [executeSequence, hsplits.foldTokens_eq, hyields.groupsOutcome_eq]

/-- The first group fails before the name inside the second is looked at. -/
example : new.executeSequence [.name "ADD", .number (.integer Int64.maxValue),
    .number (.integer 1), .name "SUB", .name "X"] = .error (.wrongExpression .overflow) := by
  rfl

end Calculator

end Reckoner
