import Reckoner.Evaluate
import Reckoner.Proofs.Reading.Open
import Reckoner.Proofs.Words.Faults

/-!
# Errors point at what caused them

Whatever text cannot be read, its error says something true about the text: about the
characters where the scan fails, and otherwise about the lexemes.  The byte offset of an
error is where the character or the lexeme starts that it is about.

* `ParseError.JustifiedBy.exists_lexeme` — an error about lexemes points at one;
* `justified_of_readExpression` — every error of a text is justified;
* `Calculator.executeText_justified` — and its offset is a boundary inside the text.
-/

namespace Reckoner

namespace ParseError

/-- An error about lexemes points at one of them. -/
theorem JustifiedBy.exists_lexeme {ts : List PlacedLexeme} {e : ParseError} {position : Nat}
    (h : e.JustifiedBy ts) (hposition : position ∈ e.position?) :
    ∃ t ∈ ts, t.position = position := by
  cases e with
  | unexpectedToken token start | unexpectedTrailingTokens token start =>
      cases hposition
      obtain ⟨t, ht, hstart, -⟩ := h
      exact ⟨t, ht, hstart⟩
  | unexpectedEndOfInput => cases hposition
  | expectedClosingParen bracket =>
      cases hposition
      obtain ⟨before, after, rfl, hmem, -, -⟩ := h
      exact ⟨_, List.mem_append_left _ hmem, rfl⟩
  | nestingTooDeep start =>
      cases hposition
      obtain ⟨before, t, after, rfl, hstart, -, -⟩ := h
      exact ⟨t, by simp, hstart⟩
  | literalTooLarge start => exact h.elim

/-- An error about characters points at one of them. -/
theorem JustifiedByText.exists_charAt {source : String} {e : ParseError} {position : Nat}
    (h : e.JustifiedByText source) (hposition : position ∈ e.position?) :
    ∃ c, CharAt source position c := by
  cases e with
  | unexpectedToken token start =>
      cases hposition
      obtain ⟨c, hc, -⟩ := h
      exact ⟨c, hc⟩
  | literalTooLarge start =>
      cases hposition
      obtain ⟨digits, hrun, -⟩ := h
      exact hrun.exists_charAt
  | _ => exact h.elim

/-- The offset of an error is where a character starts. -/
theorem Justified.exists_charAt {source : String} {e : ParseError} {position : Nat}
    (h : e.Justified source) (hposition : position ∈ e.position?) :
    ∃ c, CharAt source position c := by
  unfold Justified at h
  split at h
  next ts hscan =>
    obtain ⟨t, ht, rfl⟩ := h.exists_lexeme hposition
    exact exists_charAt_of_tokenize hscan ht
  next => exact h.2.exists_charAt hposition

end ParseError

/-- **Errors of a text.**  Whatever text cannot be read, the error is justified by it. -/
theorem justified_of_readExpression {source : String} {e : ParseError}
    (h : readExpression source = .error e) : e.Justified source := by
  unfold ParseError.Justified
  rcases readExpression_eq_error_iff.1 h with hscan | ⟨ts, hscan, hparse⟩
  · rw [hscan]
    exact ⟨rfl, justifiedByText_of_tokenize hscan⟩
  · rw [hscan]
    exact justifiedBy_of_parse hparse

namespace Calculator

/-- **Errors point at what caused them.**  The error of a text that cannot be read is
justified by the text, and its byte offset, if it has one, is a character boundary before
the end. -/
theorem executeText_justified (c : Calculator) {source : String} {e : ParseError}
    (h : c.executeText source = .error (.parse e)) :
    e.Justified source ∧
      ∀ position ∈ e.position?,
        position < source.utf8ByteSize ∧ String.Pos.Raw.IsValid source ⟨position⟩ := by
  have hjustified := justified_of_readExpression (executeText_eq_parse_error_iff.1 h)
  refine ⟨hjustified, fun position hposition => ?_⟩
  obtain ⟨c, hc⟩ := hjustified.exists_charAt hposition
  exact hc.isValid

/-- In `f((1 2` it is the inner bracket that is not closed. -/
theorem executeText_justified_inner :
    new.executeText "f((1 2" = .error (.parse (.expectedClosingParen 2)) ∧
      (ParseError.expectedClosingParen 2).Justified "f((1 2" ∧
      2 < "f((1 2".utf8ByteSize ∧ String.Pos.Raw.IsValid "f((1 2" ⟨2⟩ := by
  have hscan : tokenize "f((1 2" = .ok [⟨.identifier "f", 0⟩, ⟨.leftParen, 1⟩, ⟨.leftParen, 2⟩,
      ⟨.integer 1, 3⟩, ⟨.integer 2, 5⟩] := by decide +kernel
  have herror : new.executeText "f((1 2" = .error (.parse (.expectedClosingParen 2)) :=
    executeText_eq_parse_error_iff.2 (readExpression_eq_error_iff.2 (.inr ⟨_, hscan, rfl⟩))
  obtain ⟨hjustified, hvalid⟩ := executeText_justified new herror
  exact ⟨herror, hjustified, hvalid 2 rfl⟩

end Calculator

end Reckoner
