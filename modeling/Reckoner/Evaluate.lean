import Reckoner.Expr.Eval
import Reckoner.Lexeme.Scan
import Reckoner.Parse

/-!
# From text to value

* `readExpression` — the expression of an infix text;
* `Calculator.executeText` — the value of an infix text in a calculator;
* `evaluate` — its value with the built-in operations alone.
-/

namespace Reckoner

/-- The expression that a text spells. -/
def readExpression (source : String) : Except ParseError Expr := do
  parse (← tokenize source)

/-- A text is an expression when its lexemes are. -/
theorem readExpression_eq_ok_iff {source : String} {e : Expr} :
    readExpression source = .ok e ↔ ∃ ts, tokenize source = .ok ts ∧ parse ts = .ok e :=
  bind_eq_ok_iff

/-- A text is no expression when it has no lexemes, or these are none. -/
theorem readExpression_eq_error_iff {source : String} {e : ParseError} :
    readExpression source = .error e ↔
      tokenize source = .error e ∨ ∃ ts, tokenize source = .ok ts ∧ parse ts = .error e :=
  bind_eq_error_iff

/-- The value of an infix text.  The whole text is read before anything in it is
evaluated. -/
def Calculator.executeText (c : Calculator) (source : String) : Except Error Number := do
  let e ← (readExpression source).mapError .parse
  (c.eval e).mapError .runtime

/-- A text has an error of reading exactly when it cannot be read. -/
theorem Calculator.executeText_eq_parse_error_iff {c : Calculator} {source : String}
    {e : ParseError} :
    c.executeText source = .error (.parse e) ↔ readExpression source = .error e := by
  unfold executeText
  cases hread : readExpression source with
  | error e' =>
      constructor
      · rintro ⟨⟩
        rfl
      · rintro ⟨⟩
        rfl
  | ok tree =>
      refine ⟨fun h => ?_, nofun⟩
      change (c.eval tree).mapError Error.runtime = _ at h
      cases hvalue : c.eval tree <;> rw [hvalue] at h <;> cases h

/-- The value of an infix text with the built-in operations alone. -/
def evaluate (source : String) : Except Error Number :=
  Calculator.new.executeText source

end Reckoner
