import Reckoner.Error.Justified
import Reckoner.Proofs.Reading.Refusals

/-!
# What is open while reading

The state of a reading knows which brackets are open, how deep it is and what the last
lexeme asks for.  This module ties that to the lexemes that have been read, one transition
at a time, and so a failed reading says something about the lexemes.

* `State.After` — what a state says about the lexemes before it;
* `State.After.step`, `State.After.run` — one transition, and a run of them;
* `justifiedBy_of_parse` — every error is justified by the lexemes.
-/

namespace Reckoner

/-- A lexeme that stands for an operator is no bracket, and an operand has to follow it. -/
theorem Lexeme.of_operator?_eq_some {lexeme : Lexeme} {op : Operator}
    (h : lexeme.operator? = some op) :
    lexeme ≠ .leftParen ∧ lexeme ≠ .rightParen ∧ lexeme.leavesOpen = true := by
  cases lexeme <;> simp_all [operator?, leavesOpen]

/-- A chain goes on with operators only. -/
theorem Rule.operator?_of_continuation? {rule : Rule} {lexeme : Lexeme} {op : Operator}
    (h : rule.continuation? lexeme = some op) : lexeme.operator? = some op :=
  (Option.filter_eq_some_iff.1 h).1

/-- A whole expression goes on with every operator. -/
theorem Rule.continuation?_expression (lexeme : Lexeme) :
    Rule.expression.continuation? lexeme = lexeme.operator? := by
  cases lexeme <;> rfl

namespace State

/-- The expressions under construction, the innermost first. -/
def levels (s : State) : List Level :=
  s.level :: s.frames.map Frame.outer

/-- What a state says about the lexemes that have been read. -/
structure After (ts : List PlacedLexeme) (s : State) : Prop where
  /-- Each frame waits for a bracket that is open. -/
  brackets : s.frames.map Frame.bracket = openBrackets ts
  /-- What is under construction are whole expressions. -/
  rule : ∀ level ∈ s.levels, level.rule = .expression
  /-- No expression is deeper than there are lexemes that open levels. -/
  nesting : ∀ level ∈ s.levels, level.nesting ≤ countOpening ts
  /-- Where an operand is to come, the last lexeme asks for one. -/
  awaits : s.AwaitsOperand → ∀ t ∈ ts.getLast?, t.lexeme.leavesOpen = true
  /-- Where a bracket is to come, its name has just been read. -/
  name : ∀ name position, s.expected = .bracket name position →
    ts.getLast? = some ⟨.identifier name, position⟩

/-- Before the first lexeme nothing is open. -/
theorem After.start : After [] (.start .expression 0) where
  brackets := rfl
  rule := by simp [levels, State.start, Level.start]
  nesting := by simp [levels, State.start, Level.start, Level.nesting]
  awaits := by simp
  name := by simp [State.start]

/-- A transition opens and closes the brackets that the lexeme does. -/
theorem Leads.brackets_eq {s s' : State} {t : PlacedLexeme} (h : Leads s t s') :
    s'.frames.map Frame.bracket = afterBracket (s.frames.map Frame.bracket) t := by
  cases h with
  | literal value position hs => cases value <;> rfl
  | operate hop =>
      obtain ⟨hleft, hright, -⟩ := Lexeme.of_operator?_eq_some (Rule.operator?_of_continuation? hop)
      exact (afterBracket_of_ne hleft hright _).symm
  | _ => rfl

/-- Where an operand is complete, the levels are those around it without its minus signs. -/
theorem exists_level_of_complete {outer level : Level} {frames : List Frame} {operand : Expr}
    (h : level ∈ (complete outer frames operand).levels) :
    ∃ before ∈ outer :: frames.map Frame.outer,
      level.rule = before.rule ∧ level.nesting ≤ before.nesting := by
  rcases List.mem_cons.1 h with rfl | h
  · exact ⟨outer, List.mem_cons_self, rfl, Nat.le_add_right _ _⟩
  · exact ⟨level, List.mem_cons_of_mem _ h, rfl, Nat.le_refl _⟩

/-- What is under construction after a transition was so before, or begins as a whole
expression.  It is deeper by one level at most, and only if the lexeme opens one. -/
theorem Leads.exists_level {s s' : State} {t : PlacedLexeme} (h : Leads s t s') {level : Level}
    (hlevel : level ∈ s'.levels) :
    ∃ before ∈ s.levels, (level.rule = before.rule ∨ level.rule = .expression) ∧
      level.nesting ≤ before.nesting + if t.lexeme.opensLevel then 1 else 0 := by
  -- Only minus signs and brackets open a level, and what waits outside stays as it is.
  cases h with
  | literal value position hs =>
      obtain ⟨before, hbefore, hrule, hle⟩ := exists_level_of_complete hlevel
      exact ⟨before, hbefore, .inl hrule, Nat.le_add_right_of_le hle⟩
  | closeEmpty | closeGroup | closeCall =>
      obtain ⟨before, hbefore, hrule, hle⟩ := exists_level_of_complete hlevel
      exact ⟨before, List.mem_cons_of_mem _ hbefore, .inl hrule, hle⟩
  | name name position hs => exact ⟨level, hlevel, .inl rfl, Nat.le_refl _⟩
  | minus position hs hroom =>
      rcases List.mem_cons.1 hlevel with rfl | hlevel
      · exact ⟨s.level, List.mem_cons_self, .inl rfl, Nat.le_refl _⟩
      · exact ⟨level, List.mem_cons_of_mem _ hlevel, .inl rfl, Nat.le_add_right _ _⟩
  | openGroup | openCall =>
      rcases List.mem_cons.1 hlevel with rfl | hlevel
      · exact ⟨_, List.mem_cons_self, .inr rfl, Nat.le_refl _⟩
      · exact ⟨level, hlevel, .inl rfl, Nat.le_add_right _ _⟩
  | @operate inner frames operand t op hop =>
      rcases List.mem_cons.1 hlevel with rfl | hlevel
      · refine ⟨inner, List.mem_cons_self, .inl ?_, Nat.le_add_right_of_le ?_⟩
        · cases op <;> rfl
        · cases op <;> exact Nat.le_refl _
      · exact ⟨level, List.mem_cons_of_mem _ hlevel, .inl rfl, Nat.le_add_right _ _⟩
  | @comma inner outer frames operand arguments name position bracket comma =>
      -- The next argument begins as deep as the one before it began.
      rcases List.mem_cons.1 hlevel with rfl | hlevel
      · exact ⟨inner, List.mem_cons_self, .inr rfl, Nat.le_add_right _ _⟩
      · exact ⟨level, List.mem_cons_of_mem _ hlevel, .inl rfl, Nat.le_refl _⟩

/-- An operand is to come only after a lexeme that asks for one. -/
theorem Leads.leavesOpen {s s' : State} {t : PlacedLexeme} (h : Leads s t s')
    (hs : s'.AwaitsOperand) : t.lexeme.leavesOpen = true := by
  cases h with
  | minus | openGroup | openCall | comma => rfl
  | operate hop => exact (Lexeme.of_operator?_eq_some (Rule.operator?_of_continuation? hop)).2.2
  | literal | name | closeEmpty | closeGroup | closeCall =>
      rcases hs with hs | hs <;> cases hs

/-- A bracket is to come only after a name. -/
theorem Leads.eq_identifier {s s' : State} {t : PlacedLexeme} (h : Leads s t s') {name : String}
    {position : Nat} (hs : s'.expected = .bracket name position) :
    t = ⟨.identifier name, position⟩ := by
  cases h with
  | name => cases hs; rfl
  | _ => cases hs

/-- **One transition.**  What a state says about the lexemes before it stays right. -/
theorem After.step {ts : List PlacedLexeme} {s s' : State} {t : PlacedLexeme} (hs : After ts s)
    (h : Leads s t s') : After (ts ++ [t]) s' where
  brackets := by rw [h.brackets_eq, hs.brackets, openBrackets_concat]
  rule level hlevel := by
    obtain ⟨before, hbefore, hrule | hrule, -⟩ := h.exists_level hlevel
    · exact hrule.trans (hs.rule before hbefore)
    · exact hrule
  nesting level hlevel := by
    obtain ⟨before, hbefore, -, hle⟩ := h.exists_level hlevel
    rw [countOpening_concat]
    exact Nat.le_trans hle (Nat.add_le_add_right (hs.nesting before hbefore) _)
  awaits hawaits := by simpa using h.leavesOpen hawaits
  name name position hname := by simp [h.eq_identifier hname]

/-- **A run.**  The same holds along transitions of any number. -/
theorem After.run {before ts : List PlacedLexeme} {s s' : State} (hs : After before s)
    (h : Reaches s ts s') : After (before ++ ts) s' := by
  induction h generalizing before with
  | refl s => rwa [List.append_nil]
  | @step s middle s' t ts hleads _ ih =>
      rw [List.append_cons]
      exact ih (hs.step hleads)

/-- What is refused, and why, is seen from the lexemes up to it. -/
theorem After.justifiedBy_of_refuses {before : List PlacedLexeme} {s : State} {t : PlacedLexeme}
    {e : ParseError} (hs : After before s) (h : Refuses s t e) (rest : List PlacedLexeme) :
    e.JustifiedBy (before ++ t :: rest) := by
  cases h with
  | operand | argument => exact ⟨t, by simp, rfl, rfl⟩
  | tooDeep hawaits ht hfull =>
      refine ⟨before, t, rest, rfl, rfl, ?_, Nat.le_trans hfull (hs.nesting _ List.mem_cons_self)⟩
      rcases ht with ht | ht <;> rw [ht] <;> rfl
  | @callTooDeep level frames name position bracket hfull =>
      exact ⟨before, ⟨.leftParen, bracket⟩, rest, rfl, rfl, rfl,
        Nat.le_trans hfull (hs.nesting level List.mem_cons_self)⟩
  | @bareName level frames name position t ht =>
      exact ⟨⟨.identifier name, position⟩,
        List.mem_append_left _ (List.mem_of_getLast? (hs.name name position rfl)), rfl, rfl⟩
  | @group level outer frames operand bracket t hop ht =>
      have hopen : (openBrackets before).head? = some bracket := by rw [← hs.brackets]; rfl
      refine ⟨before, t :: rest, rfl, mem_of_mem_openBrackets (List.mem_of_head? hopen), hopen, ?_⟩
      rw [hs.rule level List.mem_cons_self, Rule.continuation?_expression] at hop
      simpa using ⟨ht, hop⟩

/-- Why the end is refused is seen from all the lexemes. -/
theorem After.justifiedBy_of_finish {ts : List PlacedLexeme} {s : State} {e : ParseError}
    (hs : After ts s) (h : s.finish = .error e) : e.JustifiedBy ts := by
  rcases finish_eq_error h with ⟨hawaits, rfl⟩ | ⟨level, frames, name, position, rfl, rfl⟩ |
    ⟨level, frame, frames, operand, rfl, rfl⟩
  · exact hs.awaits hawaits
  · exact ⟨⟨.identifier name, position⟩, List.mem_of_getLast? (hs.name name position rfl), rfl, rfl⟩
  · have hopen : (openBrackets ts).head? = some frame.bracket := by rw [← hs.brackets]; rfl
    exact ⟨ts, [], by simp, mem_of_mem_openBrackets (List.mem_of_head? hopen), hopen, by simp⟩

end State

/-- **Errors by lexemes.**  Whatever lexemes cannot be read, the error is justified by
them. -/
theorem justifiedBy_of_parse {ts : List PlacedLexeme} {e : ParseError}
    (h : parse ts = .error e) : e.JustifiedBy ts := by
  rcases parse_eq_error_iff.1 h with hread | ⟨value, t, rest, hread, rfl⟩
  · rcases State.run_eq_error_iff.1 hread with ⟨before, t, rest, s, rfl, hreaches, herror⟩ |
      ⟨s, hreaches, herror⟩
    · have hafter := State.After.start.run hreaches
      exact hafter.justifiedBy_of_refuses (State.refuses_of_step herror) rest
    · exact (State.After.start.run hreaches).justifiedBy_of_finish herror
  · obtain ⟨front, level, operand, rfl, -, -, -⟩ := State.run_eq_ok_iff.1 hread
    exact ⟨t, by simp, rfl, rfl⟩

end Reckoner
