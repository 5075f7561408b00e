import Reckoner.Calculator.History
import Reckoner.Reducer.Stock

/-!
# A calculator is determined by its history

Each command is about one name, and what it does to that name it does by the binding
of that name alone.  So the commands about a name, replayed by themselves, give its
binding, and the bindings of all names are the calculator.

* `Command.find?_run`, `Command.answer_run` — one command, seen from each name;
* `Command.find?_runAll` — a run, seen from each name;
* `Command.run_comm` — commands about different names commute;
* `Calculator.register_unregister` — what was freed can be put back;
* `Calculator.find?_after` — a history, seen from each name;
* `Calculator.after_history` — what a history determines.
-/

namespace Reckoner

namespace Calculator

variable {c : Calculator} {name : String}

/-- Under `reject` a name that is taken is refused. -/
theorem register_of_taken {bound : Reducer} (hpolicy : c.policy = .reject)
    (hbound : c.find? name = some bound) (reducer : Reducer) :
    c.register name reducer = .error (.functionAlreadyDefined name) := by
  have hcontains : c.contains name = true := by rw [contains_eq, hbound, Option.isSome_some]
  exact if_pos ⟨hpolicy, hcontains⟩

/-- Under `overwrite`, and where the name is free, registering succeeds. -/
theorem register_of_free (h : c.policy = .overwrite ∨ c.find? name = none) (reducer : Reducer) :
    ∃ d, c.register name reducer = .ok d := by
  have hfree : ¬ (c.policy = .reject ∧ c.contains name = true) := by
    rintro ⟨hpolicy, hcontains⟩
    rcases h with h | h
    · rw [hpolicy] at h
      cases h
    · rw [contains_eq, h] at hcontains
      cases hcontains
  exact ⟨_, if_neg hfree⟩

/-- Registering under a name the operation that it was freed of gives back the
calculator. -/
theorem register_unregister {reducer : Reducer} (h : (c.unregister name).1 = some reducer) :
    (c.unregister name).2.register name reducer = .ok c := by
  have hfree : (c.unregister name).2.find? name = none := by
    rw [find?_unregister, if_pos rfl]
  obtain ⟨d, hd⟩ := register_of_free (.inr hfree) reducer
  have hbound : c.find? name = some reducer := h
  rw [hd]
  congr 1
  apply Calculator.ext
  · rw [policy_register hd, policy_unregister]
  · intro other
    rw [find?_register hd, find?_unregister]
    by_cases hname : name = other
    · subst hname
      rw [if_pos rfl, hbound]
    · rw [if_neg hname, if_neg hname]

end Calculator

namespace Command

variable (c : Calculator) (command : Command)

/-- A registration is answered and carried out, or it is refused and changes nothing. -/
theorem run_register (name : String) (reducer : Reducer) :
    (c.policy = .reject ∧ (∃ bound, c.find? name = some bound) ∧
      (register name reducer).run c = (.refused (.functionAlreadyDefined name), c)) ∨
    (c.policy = .overwrite ∨ c.find? name = none) ∧
      ∃ d, c.register name reducer = .ok d ∧ (register name reducer).run c = (.registered, d) := by
  have hfree (h : c.policy = .overwrite ∨ c.find? name = none) :
      ∃ d, c.register name reducer = .ok d ∧
        (register name reducer).run c = (.registered, d) := by
    obtain ⟨d, hd⟩ := Calculator.register_of_free h reducer
    exact ⟨d, hd, by simp only [run, hd]⟩
  cases hpolicy : c.policy with
  | overwrite => exact .inr ⟨.inl rfl, hfree (.inl hpolicy)⟩
  | reject =>
      cases hbound : c.find? name with
      | none => exact .inr ⟨.inr rfl, hfree (.inr hbound)⟩
      | some bound =>
          refine .inl ⟨rfl, ⟨bound, rfl⟩, ?_⟩
          simp only [run, Calculator.register_of_taken hpolicy hbound]

/-- No command changes the policy. -/
theorem policy_run : (command.run c).2.policy = c.policy := by
  cases command with
  | unregister name => rfl
  | register name reducer =>
      obtain ⟨-, -, hrun⟩ | ⟨-, d, hd, hrun⟩ := run_register c name reducer
      · rw [hrun]
      · rw [hrun, Calculator.policy_register hd]

/-- **One command.**  A command changes the binding of its own name, by what that was,
and leaves every other name alone. -/
theorem find?_run (name : String) :
    (command.run c).2.find? name
      = if command.name = name then command.bind c.policy (c.find? name) else c.find? name := by
  cases command with
  | unregister other => exact Calculator.find?_unregister c other name
  | register other reducer =>
      obtain ⟨hpolicy, ⟨bound, hbound⟩, hrun⟩ | ⟨hfree, d, hd, hrun⟩ :=
        run_register c other reducer
      · rw [hrun]
        by_cases hname : other = name
        · subst hname
          simp [Command.name, bind, hpolicy, hbound]
        · simp [Command.name, hname]
      · rw [hrun, Calculator.find?_register hd]
        by_cases hname : other = name
        · subst hname
          rcases hfree with hfree | hfree <;> simp [Command.name, bind, hfree]
        · simp [Command.name, hname]

/-- What a command answers depends on the binding of its name alone. -/
theorem answer_run : (command.run c).1 = command.answer c.policy (c.find? command.name) := by
  cases command with
  | unregister name => rfl
  | register name reducer =>
      obtain ⟨hpolicy, ⟨bound, hbound⟩, hrun⟩ | ⟨hfree, d, hd, hrun⟩ :=
        run_register c name reducer
      · simp [hrun, answer, Command.name, hpolicy, hbound]
      · rcases hfree with hfree | hfree <;> simp [hrun, answer, Command.name, hfree]

/-- A command that is refused changes nothing. -/
theorem run_of_refused {e : RuntimeError} (h : (command.run c).1 = .refused e) :
    (command.run c).2 = c := by
  cases command with
  | unregister name => cases h
  | register name reducer =>
      obtain ⟨-, -, hrun⟩ | ⟨-, d, -, hrun⟩ := run_register c name reducer
      · rw [hrun]
      · rw [hrun] at h
        cases h

/-- **Commands about different names commute.**  Each answers as it would without the
other, and both orders lead to the same calculator. -/
theorem run_comm {first second : Command} (h : first.name ≠ second.name) :
    (second.run (first.run c).2).1 = (second.run c).1 ∧
    (first.run (second.run c).2).1 = (first.run c).1 ∧
    (second.run (first.run c).2).2 = (first.run (second.run c).2).2 := by
  refine ⟨?_, ?_, ?_⟩
  · rw [answer_run, answer_run, policy_run, find?_run, if_neg h]
  · rw [answer_run, answer_run, policy_run, find?_run, if_neg (Ne.symm h)]
  · apply Calculator.ext
    · simp only [policy_run]
    · intro name
      simp only [find?_run, policy_run]
      by_cases hfirst : first.name = name
      · have hsecond : second.name ≠ name := fun hsecond => h (hfirst.trans hsecond.symm)
        simp [hfirst, hsecond]
      · simp [hfirst]

variable (commands : List Command)

/-- No run changes the policy. -/
theorem policy_runAll : (runAll c commands).policy = c.policy := by
  induction commands generalizing c with
  | nil => rfl
  | cons command commands ih =>
      calc (runAll c (command :: commands)).policy
          = (runAll (command.run c).2 commands).policy := rfl
        _ = (command.run c).2.policy := ih _
        _ = c.policy := policy_run c command

/-- **A run.**  The binding of a name after a run is the one that the commands about the
name lead to. -/
theorem find?_runAll (name : String) :
    (runAll c commands).find? name = bindAll c.policy name (c.find? name) commands := by
  induction commands generalizing c with
  | nil => rfl
  | cons command commands ih =>
      have hrest : (runAll c (command :: commands)).find? name
          = bindAll c.policy name ((command.run c).2.find? name) commands := by
        rw [← policy_run c command]
        exact ih (command.run c).2
      rw [hrest, find?_run]
      by_cases hname : command.name = name <;> simp [bindAll, hname]

/-- Under `reject` a name that is bound stays so until a command frees it. -/
theorem bindAll_reject {name : String} {bound : Reducer} (h : .unregister name ∉ commands) :
    bindAll .reject name (some bound) commands = some bound := by
  induction commands with
  | nil => rfl
  | cons command commands ih =>
      obtain ⟨hne, hrest⟩ := not_or.1 (mt List.mem_cons.2 h)
      have hrest := ih hrest
      by_cases hname : command.name = name
      · -- A command about the name does not free it, so it registers, and is refused.
        cases command with
        | unregister other =>
            obtain rfl : other = name := hname
            exact absurd rfl hne
        | register other reducer => simpa [bindAll, hname, bind] using hrest
      · simpa [bindAll, hname] using hrest

end Command

namespace Calculator

open Command

/-- No history changes the policy. -/
theorem policy_after (policy : Policy) (history : List Command) :
    (after policy history).policy = policy :=
  policy_runAll (withPolicy policy) history

/-- The binding of a name after a history is the one that the commands about it lead to. -/
theorem find?_after (policy : Policy) (history : List Command) (name : String) :
    (after policy history).find? name = bindAll policy name (builtin? name) history := by
  rw [after, find?_runAll, find?_withPolicy]
  rfl

/-- Histories that do the same to each name lead to the same calculator. -/
theorem after_congr (policy : Policy) {history history' : List Command}
    (h : ∀ name : String, (history.filter fun command => command.name == name)
      = history'.filter fun command => command.name == name) :
    after policy history = after policy history' := by
  apply Calculator.ext
  · rw [policy_after, policy_after]
  · intro name
    simp only [find?_after, bindAll, h]

/-- **What a history determines.**  The usual calculator starts with an empty history under
`overwrite`.  After any history the policy is what it was at the start, and each name has
the binding that the commands about it lead to from its built-in one, so histories that do
the same to each name lead to the same calculator.  By that binding every further command
is answered, and one that is refused changes nothing.  Commands about different names
commute.  Under `reject` a binding stays until its name is freed, and an operation that was
freed can be put back under either policy. -/
theorem after_history (policy : Policy) (history : List Command) :
    (new = after .overwrite [] ∧ default = new) ∧
    (after policy history).policy = policy ∧
    (∀ name, (after policy history).find? name
      = bindAll policy name (builtin? name) history) ∧
    (∀ history' : List Command,
      (∀ name, (history'.filter fun command => command.name == name)
        = history.filter fun command => command.name == name) →
      after policy history' = after policy history) ∧
    (∀ command : Command, (command.run (after policy history)).1
      = command.answer policy (bindAll policy command.name (builtin? command.name) history)) ∧
    (∀ (command : Command) (e : RuntimeError),
      (command.run (after policy history)).1 = .refused e →
      (command.run (after policy history)).2 = after policy history) ∧
    (∀ first second : Command, first.name ≠ second.name →
      (second.run (first.run (after policy history)).2).1
          = (second.run (after policy history)).1 ∧
        (first.run (second.run (after policy history)).2).1
          = (first.run (after policy history)).1 ∧
        (second.run (first.run (after policy history)).2).2
          = (first.run (second.run (after policy history)).2).2) ∧
    (∀ (name : String) (bound : Reducer) (later : List Command), policy = .reject →
      (after policy history).find? name = some bound → .unregister name ∉ later →
      (after policy (history ++ later)).find? name = some bound) ∧
    ∀ (name : String) (reducer : Reducer),
      ((after policy history).unregister name).1 = some reducer →
      ((after policy history).unregister name).2.register name reducer
        = .ok (after policy history) := by
  refine ⟨⟨rfl, rfl⟩, policy_after policy history, find?_after policy history,
    fun history' => after_congr policy, ?_, fun command e => run_of_refused _ command,
    fun first second => run_comm _, ?_, fun name reducer => register_unregister⟩
  · intro command
    rw [answer_run, policy_after, find?_after]
  · rintro name bound later rfl hbound hlater
    have hsplit : after .reject (history ++ later) = runAll (after .reject history) later := by
      simp only [after, runAll, List.foldl_append]
    rw [hsplit, find?_runAll, policy_after, hbound, bindAll_reject later hlater]

/-- A built-in name is freed and taken again, and from then on only freeing it changes
what it is bound to. -/
theorem after_history_taken :
    let history : List Command := [.unregister "ADD", .register "ADD" Reducer.count]
    let later : List Command := [.register "ADD" Reducer.sumOfSquares, .unregister "SUB"]
    (after .reject history).find? "ADD" = some Reducer.count ∧
    (Command.run (after .reject history) (.register "ADD" Reducer.sumOfSquares)).1
      = .refused (.functionAlreadyDefined "ADD") ∧
    (Command.run (after .reject history) (.register "ADD" Reducer.sumOfSquares)).2
      = after .reject history ∧
    (Command.run (Command.run (after .reject history) (.unregister "ADD")).2
        (.register "F" Reducer.count)).2
      = (Command.run (Command.run (after .reject history) (.register "F" Reducer.count)).2
        (.unregister "ADD")).2 ∧
    (after .reject (history ++ later)).find? "ADD" = some Reducer.count ∧
    ((after .reject history).unregister "ADD").2.register "ADD" Reducer.count
      = .ok (after .reject history) := by
  intro history later
  obtain ⟨-, -, hfind, -, hanswer, hrefused, hcomm, hkept, hback⟩ := after_history .reject history
  have hbound : (after .reject history).find? "ADD" = some Reducer.count := hfind "ADD"
  have hrefuse : (Command.run (after .reject history) (.register "ADD" Reducer.sumOfSquares)).1
      = .refused (.functionAlreadyDefined "ADD") := hanswer (.register "ADD" Reducer.sumOfSquares)
  exact ⟨hbound, hrefuse, hrefused _ _ hrefuse,
    (hcomm (.unregister "ADD") (.register "F" Reducer.count) (by decide)).2.2,
    hkept "ADD" Reducer.count later rfl hbound (by simp [later]),
    hback "ADD" Reducer.count hbound⟩

end Calculator

end Reckoner
