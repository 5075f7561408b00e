import Reckoner.Calculator.Lemmas
import Reckoner.Proofs.Evaluation
import Reckoner.Proofs.Words.Tokens

/-!
# More operations change no value

A calculator in which more names are registered evaluates a tree as before, and fails as
before, unless it used to fail at a look-up.  The names that were added need not be kept
out of the tree: a name is looked up after its operands are evaluated, and evaluation ends
at the first error, so an added name is met only where a look-up failed without it.

* `Calculator.Extends` — at least the same names, with the same operations;
* `Keeps`, `Keeps.bind`, `Keeps.mapM` — the same outcome, unless a look-up failed;
* `Calculator.Extends.meaning_keeps` — trees;
* `Calculator.evaluation_of_extends` — trees and texts.
-/

namespace Reckoner

/-- Whether the outcome is that no operation of some name is registered. -/
def IsNotFound {α : Type} (outcome : Outcome α) : Prop :=
  ∃ name, outcome = .error (.functionNotFound name)

/-- The second outcome is the first, unless the first is a failed look-up. -/
def Keeps {α : Type} (before after : Outcome α) : Prop :=
  IsNotFound before ∨ after = before

namespace Keeps

variable {α β : Type}

/-- What is done with a value is kept, or the look-up failed before. -/
theorem bind {before after : Outcome α} {f g : α → Outcome β} (h : Keeps before after)
    (hnext : ∀ a, Keeps (f a) (g a)) : Keeps (before >>= f) (after >>= g) := by
  rcases h with ⟨name, rfl⟩ | rfl
  · exact .inl ⟨name, rfl⟩
  · cases after with
    | error e => exact .inr rfl
    | ok a => exact hnext a

/-- Outcomes in a row are kept if each of them is. -/
theorem mapM {f g : α → Outcome β} {xs : List α} (h : ∀ x ∈ xs, Keeps (f x) (g x)) :
    Keeps (xs.mapM f) (xs.mapM g) := by
  induction xs with
  | nil => exact .inr rfl
  | cons x xs ih =>
      obtain ⟨hx, hxs⟩ := List.forall_mem_cons.1 h
      rw [List.mapM_cons, List.mapM_cons]
      exact hx.bind fun _ => (ih hxs).bind fun _ => .inr rfl

end Keeps

namespace Calculator

/-- Every name that is registered in the other calculator is registered in this one, with
the same operation. -/
def Extends (d c : Calculator) : Prop :=
  ∀ name reducer, c.find? name = some reducer → d.find? name = some reducer

variable {c d : Calculator}

/-- Executing an operation is kept. -/
theorem Extends.execute_keeps (h : d.Extends c) (name : String) (operands : List Number) :
    Keeps (c.execute name operands) (d.execute name operands) := by
  cases hfind : c.find? name with
  | none => exact .inl ⟨name, execute_of_find?_eq_none hfind operands⟩
  | some reducer =>
      refine .inr ?_
      rw [execute_of_find? hfind, execute_of_find? (h name reducer hfind)]

/-- **Trees are kept.**  A look-up that fails below a node is the outcome of the node. -/
theorem Extends.meaning_keeps (h : d.Extends c) (e : Expr) : Keeps (c.meaning e) (d.meaning e) := by
  induction e with
  | literal value position =>
      rw [meaning, meaning]
      exact .inr rfl
  | negate operand position ih =>
      rw [meaning, meaning]
      exact ih.bind fun _ => .inr rfl
  | binary left op right position ihleft ihright =>
      rw [meaning, meaning]
      exact ihleft.bind fun a => ihright.bind fun b => h.execute_keeps op.operationName [a, b]
  | call name arguments position ih =>
      rw [meaning, meaning]
      exact (Keeps.mapM ih).bind fun values => h.execute_keeps name values

/-- **More operations change no value.**  Whatever names are added to a calculator, a tree
or a text that did not fail at a look-up has the outcome that it had. -/
theorem evaluation_of_extends (h : d.Extends c) :
    (∀ e : Expr, (∀ name, c.eval e ≠ .error (.functionNotFound name)) → d.eval e = c.eval e) ∧
    ∀ source : String,
      (∀ name, c.executeText source ≠ .error (.runtime (.functionNotFound name))) →
      d.executeText source = c.executeText source := by
  refine ⟨fun e hfound => ?_, fun source hfound => ?_⟩
  · rw [eval_eq_meaning, eval_eq_meaning]
    rw [eval_eq_meaning] at hfound
    refine (h.meaning_keeps e).resolve_left ?_
    rintro ⟨name, hname⟩
    exact hfound name hname
  · cases hread : readExpression source with
    | error e =>
        rw [executeText_eq_parse_error_iff.2 hread, executeText_eq_parse_error_iff.2 hread]
    | ok e =>
        obtain ⟨ts, hscan, hparse⟩ := readExpression_eq_ok_iff.1 hread
        rw [executeText_of_parse hscan hparse] at hfound ⊢
        rw [executeText_of_parse hscan hparse]
        rcases h.meaning_keeps e with ⟨name, hname⟩ | hkept
        · rw [hname] at hfound
          exact absurd rfl (hfound name)
        · rw [hkept]

/-- A calculator without `SUB` is extended by the usual one: a sum that overflows does so
in both, and a text that subtracts nothing has the same value in both. -/
theorem evaluation_of_extends_without_sub :
    let c := (new.unregister "SUB").2
    let e : Expr := .binary (.literal (.integer Int64.maxValue) 0) .add (.literal (.integer 1) 2) 1
    new.Extends c ∧ new.eval e = c.eval e ∧ new.executeText "2*-3" = c.executeText "2*-3" := by
  intro c e
  have hextends : new.Extends c := by
    intro name reducer hfind
    rw [find?_unregister] at hfind
    split at hfind
    · cases hfind
    · exact hfind
  have heval : c.eval e = .error .overflow := by
    simp only [e, eval_eq_meaning, meaning]
    rfl
  have hscan : tokenize "2*-3"
      = .ok [⟨.integer 2, 0⟩, ⟨.star, 1⟩, ⟨.minus, 2⟩, ⟨.integer 3, 3⟩] := by
    decide +kernel
  have hparse : parse [⟨.integer 2, 0⟩, ⟨.star, 1⟩, ⟨.minus, 2⟩, ⟨.integer 3, 3⟩]
      = .ok (.binary (.literal (.integer 2) 0) .mul (.negate (.literal (.integer 3) 3) 2) 1) := rfl
  have htext : c.executeText "2*-3" = .ok (.integer (-6)) := by
    rw [executeText_of_parse hscan hparse]
    simp only [meaning]
    rfl
  refine ⟨hextends, (evaluation_of_extends hextends).1 e ?_,
    (evaluation_of_extends hextends).2 "2*-3" ?_⟩
  · intro name
    rw [heval]
    simp
  · intro name
    rw [htext]
    simp

end Calculator

end Reckoner
