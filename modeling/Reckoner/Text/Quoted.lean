import Reckoner.Text.Combining

/-!
# Quoted text

A text between quotes, with an escape for each character that would not show or
would not be told apart.  An apostrophe needs none.

* `Text.escape` — how one character is written;
* `Text.quoted` — a text between quotes;
* `Text.quotedList` — several, in square brackets.
-/

namespace Reckoner.Text

/-- The code point of a character in hexadecimal. -/
def codePoint (c : Char) : List Char :=
  ['\\', 'u', '{'] ++ Nat.toDigits 16 c.toNat ++ ['}']

/-- How a character is written between quotes. -/
def escape (c : Char) : List Char :=
  match c with
  | '\x00' => ['\\', '0']
  | '\t' => ['\\', 't']
  | '\r' => ['\\', 'r']
  | '\n' => ['\\', 'n']
  | '\\' => ['\\', '\\']
  | '"' => ['\\', '"']
  | c => if isCombining c || isUnprintable c then codePoint c else [c]

/-- A text between quotes. -/
def quoted (s : String) : String :=
  String.ofList (['"'] ++ s.toList.flatMap escape ++ ['"'])

/-- Quoted texts in square brackets. -/
def quotedList (texts : List String) : String :=
  "[" ++ ", ".intercalate (texts.map quoted) ++ "]"

end Reckoner.Text
