import Reckoner.Lexeme.Scan

/-!
# The words of the language

Which spellings each kind of word has, and what it means to cut a text into words
that are each as long as possible.  Nothing here says how to find such a cut.

* `Kind.Matches` — the spellings of a kind;
* `Longest` — a word that no other word at the same place is longer than;
* `Sliced` — a text cut into longest words, up to some rest;
* `Breaks` — what a cut cannot get past;
* `placed` — the lexemes of the words that are not white space;
* `WordAt` — a word where a lexeme is placed.
-/

namespace Reckoner

/-- One digit or more. -/
def IsDigits (s : List Char) : Prop :=
  s ≠ [] ∧ ∀ c ∈ s, c.isDigit

/-- An `e`, perhaps a sign, and digits. -/
def IsExponent (s : List Char) : Prop :=
  ∃ e sign digits, (e = 'e' ∨ e = 'E') ∧ (sign = [] ∨ sign = ['+'] ∨ sign = ['-']) ∧
    IsDigits digits ∧ s = e :: (sign ++ digits)

/-- A point and digits. -/
def IsFraction (s : List Char) : Prop :=
  ∃ digits, IsDigits digits ∧ s = '.' :: digits

/-- A real numeral: digits with a fraction, a fraction alone, either with an exponent
or without, or digits with an exponent. -/
def IsReal (s : List Char) : Prop :=
  (∃ whole fraction exponent, (IsDigits whole ∨ whole = []) ∧ IsFraction fraction ∧
    (IsExponent exponent ∨ exponent = []) ∧ s = whole ++ fraction ++ exponent) ∨
  ∃ whole exponent, IsDigits whole ∧ IsExponent exponent ∧ s = whole ++ exponent

/-- A letter or `_`, and then letters, digits and `_`, all of them ASCII. -/
def IsName (s : List Char) : Prop :=
  ∃ first others, isNameStart first = true ∧ (∀ c ∈ others, isNameRest c = true) ∧
    s = first :: others

/-- One blank or more. -/
def IsBlanks (s : List Char) : Prop :=
  s ≠ [] ∧ ∀ c ∈ s, isBlank c = true

namespace Kind

/-- The spellings of a kind of word. -/
def Matches : Kind → List Char → Prop
  | real, s => IsReal s
  | integer, s => IsDigits s
  | name, s => IsName s
  | mark lexeme, s => ∃ c, mark? c = some lexeme ∧ s = [c]
  | blank, s => IsBlanks s

end Kind

/-- A word at the front of a text that no other word there is longer than. -/
def Longest (cs : List Char) (w : Cut) : Prop :=
  w.spelling ++ w.rest = cs ∧ w.kind.Matches w.spelling ∧
    ∀ kind spelling, Kind.Matches kind spelling → spelling <+: cs →
      spelling.length ≤ w.spelling.length

/-- A word and the byte offset where it starts. -/
structure Slice where
  kind : Kind
  spelling : List Char
  position : Nat
deriving Repr, DecidableEq

/-- A text that starts at a byte offset, cut into longest words up to a rest.  No whole
number among the words is too large. -/
inductive Sliced : Nat → List Char → List Slice → List Char → Prop
  | stop (offset : Nat) (cs : List Char) : Sliced offset cs [] cs
  | cut {offset : Nat} {cs rest : List Char} {w : Cut} {slices : List Slice}
      (hlongest : Longest cs w)
      (hfits : w.kind = .integer → Number.Fits (digitsValue w.spelling))
      (hrest : Sliced (offset + utf8Length w.spelling) w.rest slices rest) :
      Sliced offset cs (⟨w.kind, w.spelling, offset⟩ :: slices) rest

/-- What ends a cut at an offset: a whole number that is too large, or a character where
no word stands. -/
inductive Breaks (offset : Nat) : List Char → ParseError → Prop
  | tooLarge {cs : List Char} {w : Cut} (hlongest : Longest cs w) (hkind : w.kind = .integer)
      (hlarge : ¬ Number.Fits (digitsValue w.spelling)) :
      Breaks offset cs (.literalTooLarge offset)
  | noWord {c : Char} {cs : List Char}
      (hnone : ∀ (kind : Kind) (s : List Char), kind.Matches s → ¬ s <+: c :: cs) :
      Breaks offset (c :: cs) (.unexpectedToken (String.singleton c) offset)

/-- The lexeme that a word stands for.  Of a whole number it is the exact value. -/
def Slice.lexeme (s : Slice) : Lexeme :=
  match s.kind with
  | .real => .real (readReal s.spelling)
  | .integer => .integer (Int64.ofNat (digitsValue s.spelling))
  | .name => .identifier (String.ofList s.spelling)
  | .mark lexeme => lexeme
  | .blank => .blank

/-- The lexemes of the words that are not white space. -/
def placed (slices : List Slice) : List PlacedLexeme :=
  (slices.filter fun s => s.kind != .blank).map fun s => ⟨s.lexeme, s.position⟩

/-- Where the lexeme is placed the source goes on with a word for it, and with no longer
word. -/
def WordAt (source : String) (t : PlacedLexeme) : Prop :=
  ∃ before after w, source.toList = before ++ after ∧ utf8Length before = t.position ∧
    Longest after w ∧ w.lexeme t.position = .ok t.lexeme

end Reckoner
