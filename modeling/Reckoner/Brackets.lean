import Reckoner.Lexeme

/-!
# Brackets left open

Reading brackets alone: an opening one waits, and a closing one takes the latest that
waits.

* `openBrackets` — the brackets that still wait at the end of a list of lexemes;
* `mem_of_mem_openBrackets` — each of them is one of the lexemes.
-/

namespace Reckoner

/-- The brackets that wait after one more lexeme, the latest first. -/
def afterBracket (waiting : List Nat) (t : PlacedLexeme) : List Nat :=
  match t.lexeme with
  | .leftParen => t.position :: waiting
  | .rightParen => waiting.drop 1
  | _ => waiting

/-- The positions of the opening brackets that no closing one has taken, the latest
first. -/
def openBrackets (lexemes : List PlacedLexeme) : List Nat :=
  lexemes.foldl afterBracket []

/-- Lexemes on the right are read after those on the left. -/
theorem openBrackets_concat (lexemes : List PlacedLexeme) (t : PlacedLexeme) :
    openBrackets (lexemes ++ [t]) = afterBracket (openBrackets lexemes) t := by
  simp [openBrackets]

/-- Lexemes that are no brackets leave those that wait as they are. -/
theorem afterBracket_of_ne {t : PlacedLexeme} (hleft : t.lexeme ≠ .leftParen)
    (hright : t.lexeme ≠ .rightParen) (waiting : List Nat) : afterBracket waiting t = waiting := by
  unfold afterBracket
  split
  next h => exact absurd h hleft
  next h => exact absurd h hright
  next => rfl

/-- A bracket that waits was there before, or is the one that was just read. -/
theorem mem_of_mem_afterBracket {waiting : List Nat} {t : PlacedLexeme} {position : Nat}
    (h : position ∈ afterBracket waiting t) : position ∈ waiting ∨ t = ⟨.leftParen, position⟩ := by
  obtain ⟨lexeme, start⟩ := t
  unfold afterBracket at h
  split at h
  next hlexeme =>
    obtain rfl : lexeme = .leftParen := hlexeme
    rcases List.mem_cons.1 h with rfl | h
    · exact .inr rfl
    · exact .inl h
  next => exact .inl (List.mem_of_mem_drop h)
  next => exact .inl h

/-- A bracket that waits after some lexemes was there before, or is one of them. -/
theorem mem_of_mem_foldl_afterBracket {lexemes : List PlacedLexeme} {waiting : List Nat}
    {position : Nat} (h : position ∈ lexemes.foldl afterBracket waiting) :
    position ∈ waiting ∨ ⟨.leftParen, position⟩ ∈ lexemes := by
  induction lexemes generalizing waiting with
  | nil => exact .inl h
  | cons t lexemes ih =>
      rcases ih h with h | h
      · rcases mem_of_mem_afterBracket h with h | rfl
        · exact .inl h
        · exact .inr List.mem_cons_self
      · exact .inr (List.mem_cons_of_mem _ h)

/-- A bracket left open is one of the lexemes. -/
theorem mem_of_mem_openBrackets {lexemes : List PlacedLexeme} {position : Nat}
    (h : position ∈ openBrackets lexemes) : ⟨.leftParen, position⟩ ∈ lexemes :=
  (mem_of_mem_foldl_afterBracket h).resolve_left List.not_mem_nil

end Reckoner
