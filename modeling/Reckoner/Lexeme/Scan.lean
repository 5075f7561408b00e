import Reckoner.Error
import Reckoner.Lexeme.Cut

/-!
# From text to lexemes

A text is cut into words from the left, each as long as it can be.  White space
is dropped, and every other word becomes a lexeme with its byte offset.

* `Cut.lexeme` — the lexeme of a word;
* `scan` — the lexemes of a text that starts at a byte offset;
* `scan_of_cut?_eq_some`, `scan_of_cut?_eq_none` — one word, or none;
* `tokenize` — the lexemes of a whole source.
-/

namespace Reckoner

/-- The size of a text in UTF-8 bytes. -/
def utf8Length (cs : List Char) : Nat :=
  cs.foldr (fun c size => c.utf8Size + size) 0

@[simp] theorem utf8Length_nil : utf8Length [] = 0 := rfl

@[simp] theorem utf8Length_cons (c : Char) (cs : List Char) :
    utf8Length (c :: cs) = c.utf8Size + utf8Length cs := rfl

@[simp] theorem utf8Length_append (xs ys : List Char) :
    utf8Length (xs ++ ys) = utf8Length xs + utf8Length ys := by
  induction xs with
  | nil => simp
  | cons x xs ih => simp [ih, Nat.add_assoc]

/-- The bytes of a string made of characters are those of the characters. -/
theorem utf8Length_eq_ofList (cs : List Char) :
    utf8Length cs = (String.ofList cs).utf8ByteSize := by
  induction cs with
  | nil => rfl
  | cons c cs ih =>
      have hsplit : String.ofList (c :: cs) = String.singleton c ++ String.ofList cs := by
        rw [String.singleton_eq_ofList, ← String.ofList_append, List.singleton_append]
      rw [utf8Length_cons, ih, hsplit, String.utf8ByteSize_append, String.utf8ByteSize_singleton]

/-- The bytes of a string are those of its characters. -/
theorem utf8Length_toList (s : String) : utf8Length s.toList = s.utf8ByteSize := by
  rw [utf8Length_eq_ofList, String.ofList_toList]

/-- The value of a run of digits, unless it is past the largest 64-bit integer. -/
def readInteger? (digits : List Char) : Option Int64 :=
  if Number.Fits (digitsValue digits) then some (Int64.ofNat (digitsValue digits)) else none

/-- The lexeme of a word that starts at a byte offset.  Only a whole number can be
too large. -/
def Cut.lexeme (w : Cut) (offset : Nat) : Except ParseError Lexeme :=
  match w.kind with
  | .real => .ok (.real (readReal w.spelling))
  | .integer =>
    match readInteger? w.spelling with
    | some value => .ok (.integer value)
    | none => .error (.literalTooLarge offset)
  | .name => .ok (.identifier (String.ofList w.spelling))
  | .mark lexeme => .ok lexeme
  | .blank => .ok .blank

/-- Puts a lexeme before those that follow it, unless it is white space. -/
def place (lexeme : Lexeme) (offset : Nat) (following : List PlacedLexeme) :
    List PlacedLexeme :=
  match lexeme with
  | .blank => following
  | lexeme => ⟨lexeme, offset⟩ :: following

/-- The lexemes of a text that starts at a byte offset.  Where no word stands, the
character there is the error. -/
def scan (offset : Nat) : List Char → Except ParseError (List PlacedLexeme)
  | [] => .ok []
  | c :: cs =>
    match _h : cut? (c :: cs) with
    | none => .error (.unexpectedToken (String.singleton c) offset)
    | some w => do
      let lexeme ← w.lexeme offset
      let following ← scan (offset + utf8Length w.spelling) w.rest
      return place lexeme offset following
termination_by cs => cs.length
decreasing_by exact cut?_rest_length _h

@[simp] theorem scan_nil (offset : Nat) : scan offset [] = .ok [] := by
  rw [scan]

/-- Where no word stands, the character is the error. -/
theorem scan_of_cut?_eq_none {c : Char} {cs : List Char} (h : cut? (c :: cs) = none)
    (offset : Nat) :
    scan offset (c :: cs) = .error (.unexpectedToken (String.singleton c) offset) := by
  rw [scan]
  split
  · rfl
  next w hw => rw [h] at hw; cases hw

/-- Where a word stands, it is cut off and the rest is scanned. -/
theorem scan_of_cut?_eq_some {cs : List Char} {w : Cut} (h : cut? cs = some w) (offset : Nat) :
    scan offset cs = (do
      let lexeme ← w.lexeme offset
      let following ← scan (offset + utf8Length w.spelling) w.rest
      return place lexeme offset following) := by
  cases cs with
  | nil => cases h
  | cons c cs =>
    rw [scan]
    split
    next hnone => rw [h] at hnone; cases hnone
    next w' hw' =>
      rw [h] at hw'
      cases hw'
      rfl

/-- The lexemes of a source, each with its byte offset. -/
def tokenize (source : String) : Except ParseError (List PlacedLexeme) :=
  scan 0 source.toList

end Reckoner
