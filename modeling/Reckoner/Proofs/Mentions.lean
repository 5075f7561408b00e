import Reckoner.Proofs.History
import Reckoner.Proofs.Evaluation
import Reckoner.Proofs.Reading.Walk
import Reckoner.Proofs.Sequence.Groups
import Reckoner.Proofs.Words.Tokens

/-!
# Evaluation depends on what is mentioned

Two calculators that agree on the names that a tree, a token sequence or a text mentions
give it the same outcome, whatever else is registered in them.  A tree mentions the names
it calls and the operations of its operators; a token sequence mentions all its names,
registered or not; a text mentions its names and the operations of its operator signs.

* `Calculator.meaning_congr` — trees;
* `Calculator.foldTokens_congr` — token sequences, whatever group is open;
* `Calculator.executeText_congr` — texts;
* `Calculator.evaluation_congr` — all three, and commands about names not mentioned;
* `Calculator.eval_negated_call` — a minus sign in front mentions nothing, but what it
  stands in front of may.
-/

namespace Reckoner.Calculator

variable {c d : Calculator}

/-- An operation is executed by its binding. -/
theorem execute_congr {name : String} (h : c.find? name = d.find? name) (operands : List Number) :
    c.execute name operands = d.execute name operands := by
  simp only [execute, lookup, h]

/-- Trees mean the same where the operations that they mention are bound alike. -/
theorem meaning_congr {e : Expr} (h : ∀ name ∈ e.operations, c.find? name = d.find? name) :
    c.meaning e = d.meaning e := by
  induction e with
  | literal value position => rw [meaning, meaning]
  | negate operand position ih =>
      rw [Expr.operations] at h
      rw [meaning, meaning, ih h]
  | binary left op right position ihleft ihright =>
      rw [Expr.operations, List.forall_mem_append, List.forall_mem_cons] at h
      obtain ⟨hleft, hop, hright⟩ := h
      rw [meaning, meaning, ihleft hleft, ihright hright]
      simp only [execute_congr hop]
  | call name arguments position ih =>
      rw [Expr.operations, List.forall_mem_cons] at h
      obtain ⟨hname, hothers⟩ := h
      have hmap : arguments.mapM c.meaning = arguments.mapM d.meaning :=
        mapM_outcome_congr fun a ha =>
          ih a ha fun other hother => hothers other (List.mem_flatMap.2 ⟨a, ha, hother⟩)
      rw [meaning, meaning, hmap]
      simp only [execute_congr hname]

/-- A token opens a group where the name that it is, if it is one, is bound. -/
theorem operation?_congr {t : Token}
    (h : ∀ name, t = .name name → c.find? name = d.find? name) :
    c.operation? t = d.operation? t := by
  cases t with
  | number value => rfl
  | name text => simp [operation?, Token.name?, Option.filter, contains_eq, h text rfl]

/-- The group that a name opens is a group of that name. -/
theorem operation_of_openGroup {name : String} {pending : Option Group} {g : Group}
    (h : c.openGroup name pending = .ok g) : g.operation = name := by
  cases pending with
  | none =>
      cases h
      rfl
  | some before =>
      obtain ⟨result, -, hgroup⟩ := bind_eq_ok_iff.1 h
      obtain rfl := Except.ok.inj hgroup
      rfl

/-- Opening a group executes the one before it by its binding. -/
theorem openGroup_congr {pending : Option Group}
    (h : ∀ g ∈ pending, c.find? g.operation = d.find? g.operation) (name : String) :
    c.openGroup name pending = d.openGroup name pending := by
  cases pending with
  | none => rfl
  | some before =>
      have hbefore : before.execute c = before.execute d := execute_congr (h before rfl) _
      simp only [openGroup, hbefore]

/-- The pass over token sequences goes alike where their names, and the operation of the
open group, are bound alike. -/
theorem foldTokens_congr {tokens : List Token} {pending : Option Group}
    (hpending : ∀ g ∈ pending, c.find? g.operation = d.find? g.operation)
    (htokens : ∀ name, .name name ∈ tokens → c.find? name = d.find? name) :
    c.foldTokens pending tokens = d.foldTokens pending tokens := by
  -- The open group changes along the pass, and its operation is always a name met before.
  induction tokens generalizing pending with
  | nil =>
      cases pending with
      | none => rfl
      | some g => exact execute_congr (hpending g rfl) _
  | cons t rest ih =>
      have hrest (name : String) (h : .name name ∈ rest) : c.find? name = d.find? name :=
        htokens name (List.mem_cons_of_mem t h)
      have hopen : c.operation? t = d.operation? t :=
        operation?_congr fun name ht => htokens name (ht ▸ List.mem_cons_self)
      cases hname : d.operation? t with
      | some name =>
          obtain ⟨rfl, hcontains⟩ := operation?_eq_some.1 hname
          obtain ⟨-, hcontains'⟩ := operation?_eq_some.1 (hopen.trans hname)
          rw [foldTokens_cons_name hcontains', foldTokens_cons_name hcontains,
            openGroup_congr hpending]
          cases hgroup : d.openGroup name pending with
          | error e => rfl
          | ok g =>
              refine ih (fun g' hg' => ?_) hrest
              obtain rfl := Option.some.inj hg'
              rw [operation_of_openGroup hgroup]
              exact htokens name List.mem_cons_self
      | none =>
          have hnot := isOperation_eq_false.2 hname
          have hnot' := isOperation_eq_false.2 (hopen.trans hname)
          cases pending with
          | none =>
              rw [foldTokens_none_cons hnot', foldTokens_none_cons hnot]
              exact ih nofun hrest
          | some g =>
              rw [foldTokens_some_cons hnot', foldTokens_some_cons hnot]
              refine bind_congr fun operand => ih (fun g' hg' => ?_) hrest
              obtain rfl := Option.some.inj hg'
              exact hpending g rfl

/-- Texts have the same outcome where the names in them, and the operations of their
operator signs, are bound alike. -/
theorem executeText_congr {source : String}
    (h : ∀ ts, tokenize source = .ok ts → ∀ t ∈ ts, ∀ name,
      t.lexeme.operation? = some name → c.find? name = d.find? name) :
    c.executeText source = d.executeText source := by
  cases hread : readExpression source with
  | error e =>
      rw [executeText_eq_parse_error_iff.2 hread, executeText_eq_parse_error_iff.2 hread]
  | ok e =>
      obtain ⟨ts, hscan, hparse⟩ := readExpression_eq_ok_iff.1 hread
      have hmeaning : c.meaning e = d.meaning e := by
        refine meaning_congr fun name hname => ?_
        obtain ⟨t, ht, hlexeme⟩ := exists_mem_of_parse hparse hname
        exact h ts hscan t ht name hlexeme
      rw [executeText_of_parse hscan hparse, executeText_of_parse hscan hparse, hmeaning]

/-- **Only what is mentioned matters.**  Two calculators agree on a tree when they bind
alike the names that it calls and the operations of its operators, on a token sequence when
they bind alike its names, and on a text when they bind alike its names and the operations
of its operator signs.  So no command about `SUB` has a part in a tree that neither
subtracts nor calls `SUB`, however many minus signs stand in front of its operands. -/
theorem evaluation_congr (c d : Calculator) :
    (∀ e : Expr, (∀ name ∈ e.calls, c.find? name = d.find? name) →
      (∀ op ∈ e.operators, c.find? op.operationName = d.find? op.operationName) →
      c.eval e = d.eval e) ∧
    (∀ (command : Command) (e : Expr), command.name = "SUB" → .sub ∉ e.operators →
      "SUB" ∉ e.calls → (command.run c).2.eval e = c.eval e) ∧
    (∀ tokens : List Token, (∀ name, .name name ∈ tokens → c.find? name = d.find? name) →
      c.executeSequence tokens = d.executeSequence tokens) ∧
    ∀ source : String, (∀ ts, tokenize source = .ok ts → ∀ t ∈ ts, ∀ name,
      t.lexeme.operation? = some name → c.find? name = d.find? name) →
      c.executeText source = d.executeText source := by
  refine ⟨?_, ?_, ?_, fun source => executeText_congr⟩
  · intro e hcalls hoperators
    rw [eval_eq_meaning, eval_eq_meaning]
    refine meaning_congr fun name hname => ?_
    rcases Expr.mem_operations.1 hname with hname | ⟨op, hop, rfl⟩
    · exact hcalls name hname
    · exact hoperators op hop
  · intro command e hcommand hoperators hcalls
    rw [eval_eq_meaning, eval_eq_meaning]
    refine meaning_congr fun name hname => ?_
    have hne : command.name ≠ name := by
      rw [hcommand]
      rintro rfl
      rcases Expr.mem_operations.1 hname with hname | ⟨op, hop, heq⟩
      · exact hcalls hname
      · obtain rfl := Operator.operationName_inj (b := .sub) heq
        exact hoperators hop
    rw [Command.find?_run, if_neg hne]
  · intro tokens htokens
    rw [executeSequence, executeSequence, foldTokens_congr (by simp) htokens]

/-- A new calculator in which `SUB` is bound to something else. -/
theorem evaluation_congr_rebound :
    let changed := ((Command.register "SUB" (Reducer.always (.integer 0))).run new).2
    changed.eval (.negate (.literal (.integer 2) 1) 0)
      = new.eval (.negate (.literal (.integer 2) 1) 0) ∧
    changed.executeSequence [.name "ADD", .number (.integer 1), .name "MUL"]
      = new.executeSequence [.name "ADD", .number (.integer 1), .name "MUL"] ∧
    changed.executeText "F(1+2)" = new.executeText "F(1+2)" := by
  intro changed
  have hother {name : String} (hname : "SUB" ≠ name) : changed.find? name = new.find? name := by
    rw [Command.find?_run]
    exact if_neg hname
  have hscan : tokenize "F(1+2)" = .ok [⟨.identifier "F", 0⟩, ⟨.leftParen, 1⟩, ⟨.integer 1, 2⟩,
      ⟨.plus, 3⟩, ⟨.integer 2, 4⟩, ⟨.rightParen, 5⟩] := by decide +kernel
  refine ⟨(evaluation_congr new new).2.1 (.register "SUB" _) _ rfl ?_ ?_,
    (evaluation_congr changed new).2.2.1 _ fun name hname => ?_,
    (evaluation_congr changed new).2.2.2 _ fun ts hts => ?_⟩
  · simp [Expr.operators]
  · simp [Expr.calls]
  · have hname : name = "ADD" ∨ name = "MUL" := by simpa using hname
    rcases hname with rfl | rfl <;> exact hother (by decide)
  · obtain rfl := Except.ok.inj (hscan.symm.trans hts)
    intro t ht name hlexeme
    have hname : name = "F" ∨ name = "ADD" := by
      simp only [List.mem_cons, List.not_mem_nil, or_false] at ht
      rcases ht with rfl | rfl | rfl | rfl | rfl | rfl <;>
        simp_all [Lexeme.operation?, Lexeme.operator?, Operator.operationName]
    rcases hname with rfl | rfl <;> exact hother (by decide)

/-- A minus sign in front of an operand is not subtraction, but a call of `SUB` behind it
is looked up: with `SUB` bound to something else, `-SUB(5,3)` has another value. -/
theorem eval_negated_call :
    let e : Expr :=
      .negate (.call "SUB" [.literal (.integer 5) 5, .literal (.integer 3) 7] 1) 0
    readExpression "-SUB(5,3)" = .ok e ∧ .sub ∉ e.operators ∧ new.eval e = .ok (.integer (-2)) ∧
      ((Command.register "SUB" (Reducer.always (.integer 0))).run new).2.eval e
        = .ok (.integer 0) := by
  have hscan : tokenize "-SUB(5,3)" = .ok [⟨.minus, 0⟩, ⟨.identifier "SUB", 1⟩, ⟨.leftParen, 4⟩,
      ⟨.integer 5, 5⟩, ⟨.comma, 6⟩, ⟨.integer 3, 7⟩, ⟨.rightParen, 8⟩] := by decide +kernel
  refine ⟨readExpression_eq_ok_iff.2 ⟨_, hscan, rfl⟩, by simp [Expr.operators], ?_, ?_⟩ <;>
    simp only [eval_eq_meaning, meaning, List.mapM_cons, List.mapM_nil] <;> rfl

end Reckoner.Calculator
