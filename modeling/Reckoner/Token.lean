import Reckoner.Number

/-!
# Tokens

The items of a token sequence: numbers and names.  A name is the name of an
operation or it is out of place, which only the calculator can tell.

* `Token.name?`, `Token.toNumber` — the two readings of a token;
* `Token.text` — how a token is written.
-/

namespace Reckoner

/-- A number, or a name. -/
inductive Token where
  | number (value : Number)
  | name (text : String)
deriving Repr, DecidableEq

namespace Token

/-- The name, if the token is one. -/
def name? : Token → Option String
  | number _ => none
  | name text => some text

/-- The number; a name is reported by its text. -/
def toNumber : Token → Outcome Number
  | number value => .ok value
  | name text => .error (.expectedNumber text)

/-- How a token is written. -/
def text : Token → String
  | number value => value.text
  | name text => text

end Token

end Reckoner
