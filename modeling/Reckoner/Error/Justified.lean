import Reckoner.Brackets
import Reckoner.Lexeme.Pattern
import Reckoner.Parse.State

/-!
# What a parse error says

A parse error says something about the source that has it.  An error of the scan is about
the characters at its offset, and every other error is about the lexemes: about the lexeme
at its offset, the brackets that are open there, or the end.

* `CharAt`, `DigitRun` — what stands at a byte offset of a source;
* `ParseError.JustifiedByText`, `ParseError.JustifiedBy` — what an error says about
  characters, and about lexemes;
* `ParseError.Justified` — what an error says about a source.
-/

namespace Reckoner

/-- The character that starts at a byte offset of a source. -/
def CharAt (source : String) (position : Nat) (c : Char) : Prop :=
  ∃ before after, source.toList = before ++ c :: after ∧ utf8Length before = position

/-- All the digits that stand together, from a byte offset of a source on. -/
def DigitRun (source : String) (position : Nat) (digits : List Char) : Prop :=
  ∃ before after, source.toList = before ++ (digits ++ after) ∧ utf8Length before = position ∧
    IsDigits digits ∧ (∀ c ∈ before.getLast?, c.isDigit = false) ∧
    ∀ c ∈ after.head?, c.isDigit = false

/-- Whether a lexeme can open a level of nesting: a bracket, or a minus sign. -/
def Lexeme.opensLevel : Lexeme → Bool
  | leftParen | minus => true
  | _ => false

/-- Whether an operand has to follow the lexeme, or nothing but a bracket that closes. -/
def Lexeme.leavesOpen : Lexeme → Bool
  | plus | minus | star | slash | leftParen | comma => true
  | _ => false

/-- How many lexemes can open a level of nesting. -/
def countOpening (ts : List PlacedLexeme) : Nat :=
  ts.countP fun t => t.lexeme.opensLevel

/-- One lexeme more opens one level more, or none. -/
theorem countOpening_concat (ts : List PlacedLexeme) (t : PlacedLexeme) :
    countOpening (ts ++ [t]) = countOpening ts + if t.lexeme.opensLevel then 1 else 0 := by
  simp [countOpening, List.countP_append, List.countP_singleton]

namespace ParseError

/-- What an error of the scan says about the characters of a source. -/
def JustifiedByText (source : String) : ParseError → Prop
  | unexpectedToken token position =>
    ∃ c, CharAt source position c ∧ token = String.singleton c
  | literalTooLarge position =>
    ∃ digits, DigitRun source position digits ∧ Int64.maxValue.toInt < digitsValue digits
  | _ => False

/-- What every other error says about the lexemes of a source. -/
def JustifiedBy (ts : List PlacedLexeme) : ParseError → Prop
  | unexpectedToken token position | unexpectedTrailingTokens token position =>
    ∃ t ∈ ts, t.position = position ∧ t.lexeme.text = token
  | unexpectedEndOfInput => ∀ t ∈ ts.getLast?, t.lexeme.leavesOpen = true
  | expectedClosingParen position =>
    ∃ before after, ts = before ++ after ∧ ⟨.leftParen, position⟩ ∈ before ∧
      (openBrackets before).head? = some position ∧
      ∀ t ∈ after.head?, t.lexeme ≠ .rightParen ∧ t.lexeme.operator? = none
  | nestingTooDeep position =>
    ∃ before t after, ts = before ++ t :: after ∧ t.position = position ∧
      t.lexeme.opensLevel = true ∧ maxNesting ≤ countOpening before
  | literalTooLarge _ => False

/-- What an error says about a source.  If the source cannot be scanned, it is the error of
the scan. -/
def Justified (source : String) (e : ParseError) : Prop :=
  match tokenize source with
  | .ok ts => e.JustifiedBy ts
  | .error e' => e = e' ∧ e.JustifiedByText source

end ParseError

end Reckoner
