import Reckoner.Lexeme
import Reckoner.Lexeme.Numeral

/-!
# Cutting off the first word

The longest word at the front of a text, of whatever kind.  No two kinds begin
with the same character, numerals apart, so the first character decides.

* `Cut` — a word, its spelling, and the text after it;
* `cut?` — the word at the front, if one stands there;
* `cut?_append` — spelling and rest make up the text;
* `cut?_rest_length` — the rest is shorter.
-/

namespace Reckoner

/-- A word that has no spelling but one. -/
def mark? : Char → Option Lexeme
  | '+' => some .plus
  | '-' => some .minus
  | '*' => some .star
  | '/' => some .slash
  | '(' => some .leftParen
  | ')' => some .rightParen
  | ',' => some .comma
  | _ => none

/-- Space, tab, carriage return, line feed and form feed.  No other character counts
as white space. -/
def isBlank (c : Char) : Bool :=
  c == ' ' || c == '\t' || c == '\r' || c == '\n' || c == '\x0c'

/-- Whether a name can begin with the character: an ASCII letter or `_`. -/
def isNameStart (c : Char) : Bool :=
  c.isAlpha || c == '_'

/-- Whether a name can go on with the character: digits too. -/
def isNameRest (c : Char) : Bool :=
  c.isAlphanum || c == '_'

/-- What a word is. -/
inductive Kind where
  | real
  | integer
  | name
  | mark (lexeme : Lexeme)
  | blank
deriving Repr, DecidableEq

/-- A word cut off the front of a text. -/
structure Cut where
  kind : Kind
  spelling : List Char
  rest : List Char
deriving Repr, DecidableEq

/-- A numeral at the front, if there is one. -/
def numeral? (cs : List Char) : Option Cut :=
  match Numeral.split cs with
  | (numeral, rest) =>
    if numeral.spelling = [] then none
    else some ⟨if numeral.isReal then .real else .integer, numeral.spelling, rest⟩

/-- The longest word at the front of a text, if one stands there. -/
def cut? : List Char → Option Cut
  | [] => none
  | c :: cs =>
    if isBlank c then
      some ⟨.blank, c :: cs.takeWhile isBlank, cs.dropWhile isBlank⟩
    else if isNameStart c then
      some ⟨.name, c :: cs.takeWhile isNameRest, cs.dropWhile isNameRest⟩
    else match mark? c with
      | some lexeme => some ⟨.mark lexeme, [c], cs⟩
      | none => numeral? (c :: cs)

/-- A blank begins no other word. -/
theorem not_begins_of_isBlank {c : Char} (h : isBlank c = true) :
    isNameStart c = false ∧ mark? c = none ∧ c.isDigit = false ∧ c ≠ '.' := by
  simp only [isBlank, Bool.or_eq_true, beq_iff_eq] at h
  rcases h with (((rfl | rfl) | rfl) | rfl) | rfl <;> decide

/-- A mark begins no other word. -/
theorem not_begins_of_mark? {c : Char} {lexeme : Lexeme} (h : mark? c = some lexeme) :
    isBlank c = false ∧ isNameStart c = false ∧ c.isDigit = false ∧ c ≠ '.' := by
  unfold mark? at h
  split at h
  case h_8 => cases h
  all_goals decide

/-- A character that begins a name begins no numeral. -/
theorem not_begins_of_isNameStart {c : Char} (h : isNameStart c = true) :
    c.isDigit = false ∧ c ≠ '.' := by
  simp only [isNameStart, Bool.or_eq_true, beq_iff_eq] at h
  rcases h with h | rfl
  · have hcode : (65 ≤ c.toNat ∧ c.toNat ≤ 90) ∨ (97 ≤ c.toNat ∧ c.toNat ≤ 122) := by
      rcases Bool.or_eq_true_iff.1 (show (c.isUpper || c.isLower) = true from h) with h | h
      · exact .inl (of_decide_eq_true h)
      · obtain ⟨hfrom, hto⟩ := Bool.and_eq_true_iff.1 h
        exact .inr ⟨of_decide_eq_true hfrom, of_decide_eq_true hto⟩
    refine ⟨Bool.eq_false_iff.2 fun hdigit => ?_, ?_⟩
    · have hrange : 48 ≤ c.toNat ∧ c.toNat ≤ 57 := Char.isDigit_iff_toNat.1 hdigit
      omega
    · rintro rfl
      revert hcode
      decide
  · decide

/-- At a blank all blanks are cut off. -/
theorem cut?_of_isBlank {c : Char} (h : isBlank c = true) (cs : List Char) :
    cut? (c :: cs) = some ⟨.blank, c :: cs.takeWhile isBlank, cs.dropWhile isBlank⟩ := by
  simp [cut?, h]

/-- At a letter a name is cut off. -/
theorem cut?_of_isNameStart {c : Char} (h : isNameStart c = true) (cs : List Char) :
    cut? (c :: cs) = some ⟨.name, c :: cs.takeWhile isNameRest, cs.dropWhile isNameRest⟩ := by
  have hblank : isBlank c = false :=
    Bool.eq_false_iff.2 fun hblank => by simp [(not_begins_of_isBlank hblank).1] at h
  simp [cut?, h, hblank]

/-- At a mark the mark alone is cut off. -/
theorem cut?_of_mark? {c : Char} {lexeme : Lexeme} (h : mark? c = some lexeme) (cs : List Char) :
    cut? (c :: cs) = some ⟨.mark lexeme, [c], cs⟩ := by
  obtain ⟨hblank, hname, -, -⟩ := not_begins_of_mark? h
  simp [cut?, hblank, hname, h]

/-- At every other character only a numeral can be cut off. -/
theorem cut?_of_numeral {c : Char} (hblank : isBlank c = false) (hname : isNameStart c = false)
    (hmark : mark? c = none) (cs : List Char) : cut? (c :: cs) = numeral? (c :: cs) := by
  simp [cut?, hblank, hname, hmark]

/-- A numeral is not empty, and it and the rest make up the text. -/
theorem numeral?_append {cs : List Char} {w : Cut} (h : numeral? cs = some w) :
    w.spelling ≠ [] ∧ w.spelling ++ w.rest = cs := by
  unfold numeral? at h
  split at h
  next numeral rest hsplit =>
    split at h
    · cases h
    next hne =>
      cases h
      exact ⟨hne, by simpa [hsplit] using Numeral.split_append cs⟩

/-- A word is not empty, and it and the rest make up the text. -/
theorem cut?_append {cs : List Char} {w : Cut} (h : cut? cs = some w) :
    w.spelling ≠ [] ∧ w.spelling ++ w.rest = cs := by
  fun_cases cut? cs with
  | case1 => simp [cut?] at h
  | case2 c cs hblank =>
    simp only [cut?, hblank, if_true, Option.some.injEq] at h
    subst h
    simp [List.takeWhile_append_dropWhile]
  | case3 c cs hblank hname =>
    simp only [cut?, hblank, hname, if_true, Bool.false_eq_true, if_false, Option.some.injEq] at h
    subst h
    simp [List.takeWhile_append_dropWhile]
  | case4 c cs hblank hname lexeme hmark =>
    simp only [cut?, hblank, hname, hmark, Bool.false_eq_true, if_false, Option.some.injEq] at h
    subst h
    simp
  | case5 c cs hblank hname hmark =>
    simp only [cut?, hblank, hname, hmark, Bool.false_eq_true, if_false] at h
    exact numeral?_append h

/-- What is left after a word is shorter than the text. -/
theorem cut?_rest_length {cs : List Char} {w : Cut} (h : cut? cs = some w) :
    w.rest.length < cs.length := by
  obtain ⟨hne, happend⟩ := cut?_append h
  have hpos := List.length_pos_iff.2 hne
  rw [← happend, List.length_append]
  omega

end Reckoner
