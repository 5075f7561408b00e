import Reckoner.Calculator.Lemmas

/-!
# The history of a calculator

A calculator changes by commands: registering a name and freeing one.  This module
says what a list of commands does to a calculator, and what it does to one name
alone.

* `Command.run`, `Command.runAll` — the effect on a calculator;
* `Command.bind`, `Command.bindAll` — the effect on the binding of one name;
* `Command.answer` — what a command answers, by that binding;
* `builtin?` — the binding that a name starts with;
* `Calculator.after` — the calculator that a history leads to.
-/

namespace Reckoner

/-- A change of a calculator. -/
inductive Command where
  | register (name : String) (reducer : Reducer)
  | unregister (name : String)

/-- What a command answers. -/
inductive Answer where
  | registered
  | refused (error : RuntimeError)
  | removed (reducer : Option Reducer)

namespace Command

/-- The name that the command is about. -/
def name : Command → String
  | register name _ => name
  | unregister name => name

/-- What a command answers, and the calculator after it. -/
def run (c : Calculator) : Command → Answer × Calculator
  | register name reducer =>
    match c.register name reducer with
    | .ok changed => (.registered, changed)
    | .error e => (.refused e, c)
  | unregister name => ((c.unregister name).map Answer.removed id)

/-- The calculator after a list of commands. -/
def runAll (c : Calculator) (commands : List Command) : Calculator :=
  commands.foldl (fun c command => (command.run c).2) c

/-- The binding of its name after a command, by what it was before. -/
def bind (policy : Policy) (before : Option Reducer) : Command → Option Reducer
  | register _ reducer =>
    match policy, before with
    | .reject, some bound => some bound
    | _, _ => some reducer
  | unregister _ => none

/-- What a command answers, by the binding of its name before it. -/
def answer (policy : Policy) (before : Option Reducer) : Command → Answer
  | register name _ =>
    match policy, before with
    | .reject, some _ => .refused (.functionAlreadyDefined name)
    | _, _ => .registered
  | unregister _ => .removed before

/-- The binding of a name after those commands that are about it. -/
def bindAll (policy : Policy) (name : String) (before : Option Reducer)
    (commands : List Command) : Option Reducer :=
  (commands.filter fun command => command.name == name).foldl (bind policy) before

end Command

/-- The binding that a name starts with. -/
def builtin? (name : String) : Option Reducer :=
  (Operator.ofName? name).map Operator.reducer

/-- The calculator that starts with the built-in operations and then has a history. -/
def Calculator.after (policy : Policy) (history : List Command) : Calculator :=
  Command.runAll (withPolicy policy) history

end Reckoner
