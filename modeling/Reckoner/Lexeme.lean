import Reckoner.Decimal.Layout
import Reckoner.Operator

/-!
# Lexemes

The words of an infix text.  The minus sign is a lexeme of its own, so numerals
are never negative.

* `Lexeme.operator?` — the binary operator that a lexeme can stand for;
* `Lexeme.text` — how a lexeme is shown in an error message;
* `PlacedLexeme` — a lexeme and the byte offset where it starts.
-/

namespace Reckoner

/-- A word of an infix text. -/
inductive Lexeme where
  | real (value : Float)
  | integer (value : Int64)
  | identifier (name : String)
  | plus
  | minus
  | star
  | slash
  | leftParen
  | rightParen
  | comma
  /-- White space, which no reading keeps. -/
  | blank
deriving Repr, DecidableEq

/-- A lexeme and the byte offset where it starts. -/
structure PlacedLexeme where
  lexeme : Lexeme
  position : Nat
deriving Repr, DecidableEq

namespace Lexeme

/-- The binary operator that the lexeme can stand for. -/
def operator? : Lexeme → Option Operator
  | plus => some .add
  | minus => some .sub
  | star => some .mul
  | slash => some .div
  | _ => none

/-- Reals in error messages have neither an exponent nor a needless fraction. -/
def layout : Layout :=
  { keepsFraction := false, positionalRange := none }

/-- How a lexeme is shown.  A numeral is shown by its value. -/
def text : Lexeme → String
  | real value => layout.text value
  | integer value => toString value.toInt
  | identifier name => name
  | plus => "+"
  | minus => "-"
  | star => "*"
  | slash => "/"
  | leftParen => "("
  | rightParen => ")"
  | comma => ","
  | blank => ""

end Lexeme

end Reckoner
