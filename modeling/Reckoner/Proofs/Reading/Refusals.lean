import Reckoner.Proofs.Reading.Transitions

/-!
# Readings that fail

A reading fails at the first lexeme that is refused, or at the end of the lexemes.  This
module lists once what a lexeme is refused for, as the other module lists the ways in which
it leads on, and says what a failed reading is in terms of transitions.

* `State.Refuses` — the ways in which a lexeme is refused;
* `State.refuses_of_step` — there is no other;
* `State.finish_eq_error` — the ways in which the end is refused;
* `State.run_eq_error_iff`, `parse_eq_error_iff` — what a failed reading is.
-/

namespace Reckoner

/-- Whether an operand can begin with the lexeme. -/
def Lexeme.beginsOperand : Lexeme → Bool
  | integer _ | real _ | identifier _ | minus | leftParen => true
  | _ => false

/-- Where the bracket that a frame waits for was opened. -/
def Frame.bracket (frame : Frame) : Nat :=
  match frame.opening with
  | .group bracket => bracket
  | .call _ _ bracket _ => bracket

namespace State

/-- The ways in which a lexeme is refused. -/
inductive Refuses : State → PlacedLexeme → ParseError → Prop
  /-- No operand begins so. -/
  | operand {s : State} {t : PlacedLexeme} (hs : s.AwaitsOperand)
      (ht : t.lexeme.beginsOperand = false) :
      Refuses s t (.unexpectedToken t.lexeme.text t.position)
  /-- A minus sign or a bracket where there is no room for one. -/
  | tooDeep {s : State} {t : PlacedLexeme} (hs : s.AwaitsOperand)
      (ht : t.lexeme = .minus ∨ t.lexeme = .leftParen) (hfull : maxNesting ≤ s.level.nesting) :
      Refuses s t (.nestingTooDeep t.position)
  /-- The bracket of a call where there is no room for one. -/
  | callTooDeep {level : Level} {frames : List Frame} {name : String} {position bracket : Nat}
      (hfull : maxNesting ≤ level.nesting) :
      Refuses ⟨level, frames, .bracket name position⟩ ⟨.leftParen, bracket⟩
        (.nestingTooDeep bracket)
  /-- A name without a bracket after it. -/
  | bareName {level : Level} {frames : List Frame} {name : String} {position : Nat}
      {t : PlacedLexeme} (ht : t.lexeme ≠ .leftParen) :
      Refuses ⟨level, frames, .bracket name position⟩ t (.unexpectedToken name position)
  /-- A group that goes on with something else than an operator. -/
  | group {level outer : Level} {frames : List Frame} {operand : Expr} {bracket : Nat}
      {t : PlacedLexeme} (hop : level.rule.continuation? t.lexeme = none)
      (ht : t.lexeme ≠ .rightParen) :
      Refuses ⟨level, ⟨.group bracket, outer⟩ :: frames, .operator operand⟩ t
        (.expectedClosingParen bracket)
  /-- An argument that goes on with something else than an operator or a comma. -/
  | argument {level outer : Level} {frames : List Frame} {operand : Expr} {name : String}
      {position bracket : Nat} {arguments : List Expr} {t : PlacedLexeme} :
      Refuses ⟨level, ⟨.call name position bracket arguments, outer⟩ :: frames,
        .operator operand⟩ t (.unexpectedToken t.lexeme.text t.position)

/-- Going deeper fails where there is no room. -/
theorem descend_eq_error {level : Level} {position : Nat} {e : ParseError}
    (h : descend level position = .error e) :
    maxNesting ≤ level.nesting ∧ e = .nestingTooDeep position := by
  unfold descend at h
  split at h
  next => cases h
  next hfull => exact ⟨Nat.le_of_not_lt hfull, (Except.error.inj h).symm⟩

/-- A bracket that cannot be entered is too deep. -/
theorem enter_eq_error {s : State} {opening : Opening} {position : Nat} {expected : Expected}
    {e : ParseError} (h : s.enter opening position expected = .error e) :
    maxNesting ≤ s.level.nesting ∧ e = .nestingTooDeep position := by
  rcases bind_eq_error_iff.1 h with hdepth | ⟨depth, -, h⟩
  · exact descend_eq_error hdepth
  · cases h

/-- What is refused where an operand begins. -/
theorem refuses_of_readOperand {s : State} (hs : s.AwaitsOperand) {t : PlacedLexeme}
    {e : ParseError} (h : s.readOperand t = .error e) : Refuses s t e := by
  obtain ⟨lexeme, position⟩ := t
  cases lexeme with
  | minus =>
      rcases bind_eq_error_iff.1 h with hdepth | ⟨depth, -, h⟩
      · obtain ⟨hfull, rfl⟩ := descend_eq_error hdepth
        exact .tooDeep (t := ⟨.minus, position⟩) hs (.inl rfl) hfull
      · cases h
  | leftParen =>
      obtain ⟨hfull, rfl⟩ := enter_eq_error h
      exact .tooDeep (t := ⟨.leftParen, position⟩) hs (.inr rfl) hfull
  | integer _ | real _ | identifier _ => cases h
  | _ =>
      cases h
      exact .operand hs rfl

/-- What is refused after an operand. -/
theorem refuses_of_close {level : Level} {frames : List Frame} {operand : Expr}
    {t : PlacedLexeme} {e : ParseError} (hop : level.rule.continuation? t.lexeme = none)
    (h : close ⟨level, frames, .operator operand⟩ (level.total operand) t = .error e) :
    Refuses ⟨level, frames, .operator operand⟩ t e := by
  match frames with
  | [] => cases h
  | ⟨.group bracket, outer⟩ :: frames =>
      simp only [close] at h
      split at h
      next => cases h
      next ht =>
        obtain rfl := Except.error.inj h
        exact .group hop ht
  | ⟨.call name position bracket arguments, outer⟩ :: frames =>
      simp only [close] at h
      split at h
      next => cases h
      next => cases h
      next =>
        obtain rfl := Except.error.inj h
        exact .argument

/-- **Refusals.**  There is no other way in which a lexeme is refused. -/
theorem refuses_of_step {s : State} {t : PlacedLexeme} {e : ParseError}
    (h : s.step t = .error e) : Refuses s t e := by
  obtain ⟨level, frames, expected⟩ := s
  cases expected with
  | operand => exact refuses_of_readOperand (.inl rfl) h
  | argument =>
      change readArgument _ t = _ at h
      unfold readArgument at h
      split at h
      next => cases h
      next => exact refuses_of_readOperand (.inr rfl) h
  | bracket name position =>
      obtain ⟨lexeme, bracket⟩ := t
      change readBracket _ name position _ = _ at h
      unfold readBracket at h
      split at h
      next hlexeme =>
        subst hlexeme
        obtain ⟨hfull, rfl⟩ := enter_eq_error h
        exact .callTooDeep hfull
      next hlexeme =>
        cases h
        exact .bareName hlexeme
  | operator operand =>
      change readOperator _ operand t = _ at h
      unfold readOperator at h
      split at h
      next => cases h
      next hop => exact refuses_of_close hop h

/-- The end is refused where an operand is to come, after a bare name, and inside a
bracket. -/
theorem finish_eq_error {s : State} {e : ParseError} (h : s.finish = .error e) :
    (s.AwaitsOperand ∧ e = .unexpectedEndOfInput) ∨
    (∃ level frames name position, s = ⟨level, frames, .bracket name position⟩ ∧
      e = .unexpectedToken name position) ∨
    ∃ level frame frames operand, s = ⟨level, frame :: frames, .operator operand⟩ ∧
      e = .expectedClosingParen frame.bracket := by
  obtain ⟨level, frames, expected⟩ := s
  cases expected with
  | operand => exact .inl ⟨.inl rfl, (Except.error.inj h).symm⟩
  | argument => exact .inl ⟨.inr rfl, (Except.error.inj h).symm⟩
  | bracket name position =>
      exact .inr (.inl ⟨level, frames, name, position, rfl, (Except.error.inj h).symm⟩)
  | operator operand =>
      match frames with
      | [] => cases h
      | ⟨.group bracket, outer⟩ :: frames | ⟨.call _ _ bracket _, outer⟩ :: frames =>
          exact .inr (.inr ⟨level, _, frames, operand, rfl, (Except.error.inj h).symm⟩)

/-- **Failed readings.**  A reading fails exactly when transitions along the front of the
lexemes lead to a state in which the next lexeme, or the end, is refused. -/
theorem run_eq_error_iff {s : State} {ts : List PlacedLexeme} {e : ParseError} :
    s.run ts = .error e ↔
      (∃ front t rest s', ts = front ++ t :: rest ∧ Reaches s front s' ∧ s'.step t = .error e) ∨
      ∃ s', Reaches s ts s' ∧ s'.finish = .error e := by
  constructor
  · intro h
    induction ts generalizing s with
    | nil =>
        rcases bind_eq_error_iff.1 h with hfinish | ⟨value, -, h⟩
        · exact .inr ⟨s, .refl s, hfinish⟩
        · cases h
    | cons t ts ih =>
        rcases bind_eq_error_iff.1 h with hstep | ⟨v, hstep, hnext⟩
        · exact .inl ⟨[], t, ts, s, rfl, .refl s, hstep⟩
        · rcases leads_or_finish_of_step hstep with
            ⟨s', rfl, hleads⟩ | ⟨level, operand, -, -, rfl⟩
          · rcases ih hnext with ⟨front, t', rest, s'', rfl, hreaches, herror⟩ |
              ⟨s'', hreaches, herror⟩
            · exact .inl ⟨t :: front, t', rest, s'', rfl, .step hleads hreaches, herror⟩
            · exact .inr ⟨s'', .step hleads hreaches, herror⟩
          · cases hnext
  · rintro (⟨front, t, rest, s', rfl, hreaches, herror⟩ | ⟨s', hreaches, herror⟩)
    · rw [hreaches.run_append, run, herror]
      rfl
    · rw [← List.append_nil ts, hreaches.run_append, run, herror]
      rfl

end State

/-- A whole text is refused where its reading fails, or at what is left after it. -/
theorem parse_eq_error_iff {ts : List PlacedLexeme} {e : ParseError} :
    parse ts = .error e ↔
      parseRule .expression 0 ts = .error e ∨
      ∃ value t rest, parseRule .expression 0 ts = .ok (value, t :: rest) ∧
        e = .unexpectedTrailingTokens t.lexeme.text t.position := by
  unfold parse
  rw [bind_eq_error_iff]
  refine or_congr_right ⟨?_, ?_⟩
  · rintro ⟨⟨value, rest⟩, hread, herror⟩
    cases rest with
    | nil => cases herror
    | cons t rest => exact ⟨value, t, rest, hread, (Except.error.inj herror).symm⟩
  · rintro ⟨value, t, rest, hread, rfl⟩
    exact ⟨_, hread, rfl⟩

end Reckoner
