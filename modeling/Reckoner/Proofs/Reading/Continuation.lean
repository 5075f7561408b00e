import Reckoner.Proofs.Reading.Open

/-!
# What may follow lexemes that are not read

Lexemes are read from left to right, so what is refused at one of them is refused whatever
comes later.  Only where the reading fails at the end of the lexemes can more of them help.
If an operand is to come there, a literal and the brackets that are still open are enough,
since neither needs a level of nesting.

* `ParseError.Stays` — the errors that more lexemes do not repair;
* `parse_append_of_stays` — such an error is there whatever follows;
* `State.exists_reaches_closing` — closing brackets complete an expression, one for each
  frame;
* `parse_literal_closing` — lexemes that end too soon can be completed;
* `parse_continued` — both.
-/

namespace Reckoner

/-- The error is one that more lexemes do not repair.  Only a name at the end can be
unexpected because its bracket is yet to come. -/
def ParseError.Stays (ts : List PlacedLexeme) : ParseError → Prop
  | unexpectedTrailingTokens _ _ | nestingTooDeep _ => True
  | unexpectedToken _ _ => ∀ t ∈ ts.getLast?, ∀ name, t.lexeme ≠ .identifier name
  | _ => False

namespace State

variable {s : State} {ts : List PlacedLexeme}

/-- A reading that fails does so whatever follows, unless it fails at the end. -/
theorem run_append_of_error {e : ParseError} (h : s.run ts = .error e) (us : List PlacedLexeme) :
    s.run (ts ++ us) = .error e ∨ ∃ s', Reaches s ts s' ∧ s'.finish = .error e := by
  rcases run_eq_error_iff.1 h with ⟨front, t, rest, s', rfl, hreaches, herror⟩ | hend
  · refine .inl (run_eq_error_iff.2 (.inl ⟨front, t, rest ++ us, s', ?_, hreaches, herror⟩))
    rw [List.append_assoc, List.cons_append]
  · exact .inr hend

/-- A reading that leaves a lexeme leaves it whatever follows. -/
theorem run_append_of_ok {value : Expr} {t : PlacedLexeme} {rest : List PlacedLexeme}
    (h : s.run ts = .ok (value, t :: rest)) (us : List PlacedLexeme) :
    s.run (ts ++ us) = .ok (value, t :: (rest ++ us)) := by
  obtain ⟨front, level, operand, rfl, hreaches, rfl, hends⟩ := run_eq_ok_iff.1 h
  refine run_eq_ok_iff.2 ⟨front, level, operand, ?_, hreaches, rfl, hends⟩
  rw [List.append_assoc, List.cons_append]

/-- What the end is refused for, more lexemes may repair. -/
theorem After.not_stays {e : ParseError} (hs : After ts s) (h : s.finish = .error e) :
    ¬ e.Stays ts := by
  rcases finish_eq_error h with ⟨-, rfl⟩ | ⟨level, frames, name, position, rfl, rfl⟩ |
    ⟨level, frame, frames, operand, rfl, rfl⟩
  · exact id
  · intro hstays
    exact hstays _ (hs.name name position rfl) name rfl
  · exact id

/-- After an operand, a closing bracket completes what its frame waits for. -/
theorem exists_leads_closing (level : Level) (frame : Frame) (frames : List Frame)
    (operand : Expr) (closing : Nat) :
    ∃ completed, Leads ⟨level, frame :: frames, .operator operand⟩ ⟨.rightParen, closing⟩
      (complete frame.outer frames completed) := by
  obtain ⟨opening, outer⟩ := frame
  cases opening with
  | group bracket => exact ⟨_, .closeGroup bracket closing⟩
  | call name position bracket arguments => exact ⟨_, .closeCall name position bracket closing⟩

/-- After an operand, one closing bracket for each frame ends an outermost expression. -/
theorem exists_reaches_closing {frames : List Frame} {closings : List Nat}
    (h : closings.length = frames.length) (level : Level) (operand : Expr) :
    ∃ level' operand', Reaches ⟨level, frames, .operator operand⟩
      (closings.map (PlacedLexeme.mk .rightParen)) ⟨level', [], .operator operand'⟩ := by
  induction frames generalizing closings level operand with
  | nil =>
      obtain rfl := List.length_eq_zero_iff.1 h
      exact ⟨level, operand, .refl _⟩
  | cons frame frames ih =>
      obtain ⟨closing, others, rfl⟩ := List.exists_cons_of_length_eq_add_one h
      obtain ⟨completed, hleads⟩ := exists_leads_closing level frame frames operand closing
      obtain ⟨level', operand', hreaches⟩ := ih (Nat.succ.inj h) _ _
      exact ⟨level', operand', .step hleads hreaches⟩

end State

/-- An error that more lexemes do not repair is there whatever follows. -/
theorem parse_append_of_stays {ts : List PlacedLexeme} {e : ParseError}
    (h : parse ts = .error e) (hstays : e.Stays ts) (us : List PlacedLexeme) :
    parse (ts ++ us) = .error e := by
  rcases parse_eq_error_iff.1 h with hread | ⟨value, t, rest, hread, rfl⟩
  · rcases State.run_append_of_error hread us with hread | ⟨s, hreaches, hfinish⟩
    · exact parse_eq_error_iff.2 (.inl hread)
    · exact absurd hstays ((State.After.start.run hreaches).not_stays hfinish)
  · exact parse_eq_error_iff.2 (.inr ⟨value, t, rest ++ us, State.run_append_of_ok hread us, rfl⟩)

/-- Where the lexemes end too soon, an operand is to come. -/
theorem exists_awaitsOperand_of_parse {ts : List PlacedLexeme}
    (h : parse ts = .error .unexpectedEndOfInput) :
    ∃ s, (State.start .expression 0).Reaches ts s ∧ s.AwaitsOperand := by
  rcases parse_eq_error_iff.1 h with hread | ⟨value, t, rest, -, heq⟩
  · rcases State.run_eq_error_iff.1 hread with ⟨front, t, rest, s, rfl, -, herror⟩ |
      ⟨s, hreaches, herror⟩
    · -- No lexeme is refused because the input ends.
      cases State.refuses_of_step herror
    · rcases State.finish_eq_error herror with ⟨hs, -⟩ | ⟨level, frames, name, position, -, heq⟩ |
        ⟨level, frame, frames, operand, -, heq⟩
      · exact ⟨s, hreaches, hs⟩
      · cases heq
      · cases heq
  · cases heq

/-- Lexemes that end too soon are completed by a literal and a closing bracket for each
bracket that is open. -/
theorem parse_literal_closing {ts : List PlacedLexeme}
    (h : parse ts = .error .unexpectedEndOfInput) (value : Number) (position : Nat)
    {closings : List Nat} (hlength : closings.length = (openBrackets ts).length) :
    ∃ e, parse (ts ++ ⟨value.lexeme, position⟩ :: closings.map (PlacedLexeme.mk .rightParen))
      = .ok e := by
  obtain ⟨s, hreaches, hs⟩ := exists_awaitsOperand_of_parse h
  have hafter : State.After ts s := State.After.start.run hreaches
  have hframes : closings.length = s.frames.length := by
    rw [hlength, ← hafter.brackets, List.length_map]
  obtain ⟨level, operand, hclosing⟩ := State.exists_reaches_closing hframes
    { s.level with minuses := [] } (s.level.negated (.literal value position))
  have hall := hreaches.append (.step (.literal value position hs) hclosing)
  have hread : parseRule .expression 0
      (ts ++ ⟨value.lexeme, position⟩ :: closings.map (PlacedLexeme.mk .rightParen))
        = .ok (level.total operand, []) :=
    State.run_eq_ok_iff.2 ⟨_, level, operand, (List.append_nil _).symm, hall, rfl, by simp⟩
  refine ⟨level.total operand, ?_⟩
  rw [parse, hread]
  rfl

/-- **Malformed lexemes stay malformed, and incomplete ones can be completed.**  An error
about what comes after the expression, about the nesting, or about a token that is not a
name at the end, is there whatever follows.  Where the lexemes end too soon, any literal
and one closing bracket for each bracket that is open make them an expression. -/
theorem parse_continued (ts : List PlacedLexeme) :
    (∀ e, parse ts = .error e → e.Stays ts → ∀ us, parse (ts ++ us) = .error e) ∧
    (parse ts = .error .unexpectedEndOfInput →
      ∀ (value : Number) (position : Nat) (closings : List Nat),
        closings.length = (openBrackets ts).length →
        ∃ e, parse (ts ++ ⟨value.lexeme, position⟩ :: closings.map (PlacedLexeme.mk .rightParen))
          = .ok e) :=
  ⟨fun _ h hstays us => parse_append_of_stays h hstays us,
    fun h value position _ hlength => parse_literal_closing h value position hlength⟩

/-- The lexemes of `f((2*` with more lexemes after them: two asterisks stay an error, and a
literal and two brackets complete them. -/
theorem parse_continued_product :
    let ts : List PlacedLexeme := [⟨.identifier "f", 0⟩, ⟨.leftParen, 1⟩, ⟨.leftParen, 2⟩,
      ⟨.integer 2, 3⟩, ⟨.star, 4⟩]
    parse ts = .error .unexpectedEndOfInput ∧
      (∃ e, parse (ts ++ [⟨.integer 7, 5⟩, ⟨.rightParen, 6⟩, ⟨.rightParen, 7⟩]) = .ok e) ∧
      parse (ts ++ [⟨.star, 5⟩]) = .error (.unexpectedToken "*" 5) ∧
      parse (ts ++ [⟨.star, 5⟩] ++ [⟨.integer 7, 6⟩, ⟨.rightParen, 7⟩])
        = .error (.unexpectedToken "*" 5) := by
  intro ts
  have hends : parse ts = .error .unexpectedEndOfInput := rfl
  have hstar : parse (ts ++ [⟨.star, 5⟩]) = .error (.unexpectedToken "*" 5) := rfl
  have hstays : (ParseError.unexpectedToken "*" 5).Stays (ts ++ [⟨.star, 5⟩]) := by
    intro t ht name
    obtain rfl : ⟨.star, 5⟩ = t := by simpa using ht
    exact nofun
  exact ⟨hends, (parse_continued ts).2 hends (.integer 7) 5 [6, 7] rfl, hstar,
    (parse_continued (ts ++ [⟨.star, 5⟩])).1 _ hstar hstays _⟩

end Reckoner
