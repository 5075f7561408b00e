import Reckoner.Expr.Walk
import Reckoner.Parse

/-!
# Readings, transition by transition

Reading one lexeme is a function with an error for most of its inputs.  What the
proofs need is the few ways in which it goes on.  This module lists them once, as a
relation between states, and says what a whole reading is in terms of it: a reading
succeeds exactly when transitions lead to the end of an outermost expression.

* `State.Leads` — the ways in which a lexeme leads from one state to another;
* `State.Leads.step_eq`, `State.leads_or_finish_of_step` — reading one lexeme does
  this and nothing else;
* `State.Reaches` — transitions along a list of lexemes;
* `State.run_eq_ok_iff` — what a successful reading is.
-/

namespace Reckoner.State

/-- An operand can begin here: as an operand, or as the first argument of a call. -/
def AwaitsOperand (s : State) : Prop :=
  s.expected = .operand ∨ s.expected = .argument

/-- The ways in which a lexeme leads from one state to another. -/
inductive Leads : State → PlacedLexeme → State → Prop
  | literal {s : State} (value : Number) (position : Nat) (hs : s.AwaitsOperand) :
      Leads s ⟨value.lexeme, position⟩ (complete s.level s.frames (.literal value position))
  | minus {s : State} (position : Nat) (hs : s.AwaitsOperand)
      (hroom : s.level.nesting < maxNesting) :
      Leads s ⟨.minus, position⟩
        ⟨{ s.level with minuses := position :: s.level.minuses }, s.frames, .operand⟩
  | openGroup {s : State} (bracket : Nat) (hs : s.AwaitsOperand)
      (hroom : s.level.nesting < maxNesting) :
      Leads s ⟨.leftParen, bracket⟩
        ⟨.start .expression (s.level.nesting + 1), ⟨.group bracket, s.level⟩ :: s.frames, .operand⟩
  | name {s : State} (name : String) (position : Nat) (hs : s.AwaitsOperand) :
      Leads s ⟨.identifier name, position⟩ ⟨s.level, s.frames, .bracket name position⟩
  | openCall {level : Level} {frames : List Frame} (name : String) (position bracket : Nat)
      (hroom : level.nesting < maxNesting) :
      Leads ⟨level, frames, .bracket name position⟩ ⟨.leftParen, bracket⟩
        ⟨.start .expression (level.nesting + 1), ⟨.call name position bracket [], level⟩ :: frames,
          .argument⟩
  | closeEmpty {level outer : Level} {frames : List Frame} {arguments : List Expr} (name : String)
      (position bracket closing : Nat) :
      Leads ⟨level, ⟨.call name position bracket arguments, outer⟩ :: frames, .argument⟩
        ⟨.rightParen, closing⟩ (complete outer frames (.call name [] position))
  | operate {level : Level} {frames : List Frame} {operand : Expr} {t : PlacedLexeme}
      {op : Operator} (hop : level.rule.continuation? t.lexeme = some op) :
      Leads ⟨level, frames, .operator operand⟩ t
        ⟨level.operate operand op t.position, frames, .operand⟩
  | closeGroup {level outer : Level} {frames : List Frame} {operand : Expr}
      (bracket closing : Nat) :
      Leads ⟨level, ⟨.group bracket, outer⟩ :: frames, .operator operand⟩ ⟨.rightParen, closing⟩
        (complete outer frames (level.total operand))
  | closeCall {level outer : Level} {frames : List Frame} {operand : Expr}
      {arguments : List Expr} (name : String) (position bracket closing : Nat) :
      Leads ⟨level, ⟨.call name position bracket arguments, outer⟩ :: frames, .operator operand⟩
        ⟨.rightParen, closing⟩
        (complete outer frames
          (.call name (level.total operand :: arguments).reverse position))
  | comma {level outer : Level} {frames : List Frame} {operand : Expr} {arguments : List Expr}
      (name : String) (position bracket comma : Nat) :
      Leads ⟨level, ⟨.call name position bracket arguments, outer⟩ :: frames, .operator operand⟩
        ⟨.comma, comma⟩
        ⟨.start .expression level.depth,
          ⟨.call name position bracket (level.total operand :: arguments), outer⟩ :: frames,
          .operand⟩

/-- Where there is room, going deeper succeeds. -/
theorem descend_of_lt {level : Level} (h : level.nesting < maxNesting) (position : Nat) :
    descend level position = .ok (level.nesting + 1) :=
  if_pos h

/-- Where an operand can begin, a closing bracket apart, the two kinds of beginning
are read alike. -/
theorem step_of_awaitsOperand {s : State} (hs : s.AwaitsOperand) {t : PlacedLexeme}
    (ht : t.lexeme ≠ .rightParen) : s.step t = s.readOperand t := by
  rcases hs with hs | hs
  · simp only [step, hs]
  · simp only [step, hs, readArgument_of_ne s ht]

/-- Each transition is what reading the lexeme does. -/
theorem Leads.step_eq {s s' : State} {t : PlacedLexeme} (h : Leads s t s') :
    s.step t = .ok (.advance s') := by
  cases h with
  | literal value position hs =>
      cases value <;> exact step_of_awaitsOperand hs (by simp [Number.lexeme])
  | minus position hs hroom =>
      rw [step_of_awaitsOperand hs (by simp)]
      simp [readOperand, descend_of_lt hroom, bind, Except.bind, pure, Except.pure]
  | openGroup bracket hs hroom =>
      rw [step_of_awaitsOperand hs (by simp)]
      simp [readOperand, enter, descend_of_lt hroom, bind, Except.bind, pure, Except.pure]
  | name name position hs => exact step_of_awaitsOperand hs (by simp)
  | openCall name position bracket hroom =>
      simp [step, readBracket, enter, descend_of_lt hroom, bind, Except.bind, pure, Except.pure]
  | closeEmpty name position bracket closing => rfl
  | operate hop => simp [step, readOperator, hop]
  | closeGroup bracket closing => simp [step, readOperator, close, Rule.continuation?, Lexeme.operator?]
  | closeCall name position bracket closing =>
      simp [step, readOperator, close, Rule.continuation?, Lexeme.operator?]
  | comma name position bracket comma =>
      simp [step, readOperator, close, Rule.continuation?, Lexeme.operator?]

/-- Only where there is room does going deeper succeed. -/
theorem descend_eq_ok {level : Level} {position depth : Nat}
    (h : descend level position = .ok depth) :
    level.nesting < maxNesting ∧ depth = level.nesting + 1 := by
  unfold descend at h
  split at h
  next hroom => exact ⟨hroom, (Except.ok.inj h).symm⟩
  next => cases h

/-- A bracket that is entered has room inside, and begins an expression there. -/
theorem enter_eq_ok {s : State} {opening : Opening} {position : Nat} {expected : Expected}
    {v : Verdict} (h : s.enter opening position expected = .ok v) :
    s.level.nesting < maxNesting ∧
      v = .advance ⟨.start .expression (s.level.nesting + 1), ⟨opening, s.level⟩ :: s.frames,
        expected⟩ := by
  obtain ⟨depth, hdepth, hv⟩ := bind_eq_ok_iff.1 h
  obtain ⟨hroom, rfl⟩ := descend_eq_ok hdepth
  exact ⟨hroom, (Except.ok.inj hv).symm⟩

/-- An operand that begins well is one of the transitions. -/
theorem leads_of_readOperand {s : State} (hs : s.AwaitsOperand) {t : PlacedLexeme} {v : Verdict}
    (h : s.readOperand t = .ok v) : ∃ s', v = .advance s' ∧ Leads s t s' := by
  obtain ⟨lexeme, position⟩ := t
  cases lexeme with
  | integer n =>
      cases h
      exact ⟨_, rfl, .literal (.integer n) position hs⟩
  | real r =>
      cases h
      exact ⟨_, rfl, .literal (.real r) position hs⟩
  | minus =>
      obtain ⟨depth, hdepth, hv⟩ := bind_eq_ok_iff.1 h
      exact ⟨_, (Except.ok.inj hv).symm, .minus position hs (descend_eq_ok hdepth).1⟩
  | leftParen =>
      obtain ⟨hroom, rfl⟩ := enter_eq_ok h
      exact ⟨_, rfl, .openGroup position hs hroom⟩
  | identifier name =>
      cases h
      exact ⟨_, rfl, .name name position hs⟩
  | _ => cases h

/-- What ends the innermost expression is a bracket or a comma around it, or else the
expression is the outermost one. -/
theorem leads_or_finish_of_close {level : Level} {frames : List Frame} {operand : Expr}
    {t : PlacedLexeme} {v : Verdict}
    (h : close ⟨level, frames, .operator operand⟩ (level.total operand) t = .ok v) :
    (∃ s', v = .advance s' ∧ Leads ⟨level, frames, .operator operand⟩ t s') ∨
      frames = [] ∧ v = .finish (level.total operand) := by
  obtain ⟨lexeme, position⟩ := t
  match frames with
  | [] => exact .inr ⟨rfl, (Except.ok.inj h).symm⟩
  | ⟨.group bracket, outer⟩ :: frames =>
      unfold close at h
      cases lexeme <;> cases h
      exact .inl ⟨_, rfl, .closeGroup bracket position⟩
  | ⟨.call name start bracket arguments, outer⟩ :: frames =>
      unfold close at h
      cases lexeme <;> cases h
      · exact .inl ⟨_, rfl, .closeCall name start bracket position⟩
      · exact .inl ⟨_, rfl, .comma name start bracket position⟩

/-- A lexeme that is not refused leads on, or it ends an outermost expression that it
cannot continue. -/
theorem leads_or_finish_of_step {s : State} {t : PlacedLexeme} {v : Verdict}
    (h : s.step t = .ok v) :
    (∃ s', v = .advance s' ∧ Leads s t s') ∨
      ∃ level operand, s = ⟨level, [], .operator operand⟩ ∧
        level.rule.continuation? t.lexeme = none ∧ v = .finish (level.total operand) := by
  obtain ⟨level, frames, expected⟩ := s
  cases expected with
  | operand => exact .inl (leads_of_readOperand (.inl rfl) h)
  | argument =>
      change readArgument _ t = _ at h
      unfold readArgument at h
      split at h
      next name position bracket arguments outer others hlexeme hframes =>
        obtain ⟨lexeme, closing⟩ := t
        cases h
        subst hlexeme hframes
        exact .inl ⟨_, rfl, .closeEmpty name position bracket closing⟩
      next => exact .inl (leads_of_readOperand (.inr rfl) h)
  | bracket name position =>
      obtain ⟨lexeme, bracket⟩ := t
      change readBracket _ name position _ = _ at h
      unfold readBracket at h
      split at h
      next hlexeme =>
        subst hlexeme
        obtain ⟨hroom, rfl⟩ := enter_eq_ok h
        exact .inl ⟨_, rfl, .openCall name position bracket hroom⟩
      next => cases h
  | operator operand =>
      change readOperator _ operand t = _ at h
      unfold readOperator at h
      split at h
      next op hop =>
        cases h
        exact .inl ⟨_, rfl, .operate hop⟩
      next hnone =>
        rcases leads_or_finish_of_close h with hleads | ⟨rfl, rfl⟩
        · exact .inl hleads
        · exact .inr ⟨level, operand, rfl, hnone, rfl⟩

/-- The end of the input is the end of an outermost expression, or an error. -/
theorem finish_eq_ok_iff {s : State} {e : Expr} :
    s.finish = .ok e ↔
      ∃ level operand, s = ⟨level, [], .operator operand⟩ ∧ e = level.total operand := by
  constructor
  · intro h
    obtain ⟨level, frames, expected⟩ := s
    cases expected with
    | operator operand =>
        match frames with
        | [] => exact ⟨level, operand, rfl, (Except.ok.inj h).symm⟩
        | ⟨.group _, _⟩ :: _ => cases h
        | ⟨.call _ _ _ _, _⟩ :: _ => cases h
    | _ => cases h
  · rintro ⟨level, operand, rfl, rfl⟩
    rfl

/-- Transitions along a list of lexemes. -/
inductive Reaches : State → List PlacedLexeme → State → Prop
  | refl (s : State) : Reaches s [] s
  | step {s s' s'' : State} {t : PlacedLexeme} {ts : List PlacedLexeme} (hleads : Leads s t s')
      (hreaches : Reaches s' ts s'') : Reaches s (t :: ts) s''

/-- One transition. -/
theorem Leads.reaches {s s' : State} {t : PlacedLexeme} (h : Leads s t s') : Reaches s [t] s' :=
  .step h (.refl s')

/-- Transitions along one list and then along another. -/
theorem Reaches.append {s s' s'' : State} {ts us : List PlacedLexeme} (h : Reaches s ts s')
    (h' : Reaches s' us s'') : Reaches s (ts ++ us) s'' := by
  induction h with
  | refl s => exact h'
  | step hleads _ ih => exact .step hleads (ih h')

/-- A reading goes along the transitions. -/
theorem Reaches.run_append {s s' : State} {ts : List PlacedLexeme} (h : Reaches s ts s')
    (rest : List PlacedLexeme) : s.run (ts ++ rest) = s'.run rest := by
  induction h with
  | refl s => rfl
  | step hleads _ ih =>
      rw [List.cons_append, run, hleads.step_eq]
      exact ih

/-- Where an outermost expression cannot go on, the reading ends. -/
theorem run_of_ends {level : Level} (operand : Expr) {rest : List PlacedLexeme}
    (hends : ∀ t ∈ rest.head?, level.rule.continuation? t.lexeme = none) :
    run ⟨level, [], .operator operand⟩ rest = .ok (level.total operand, rest) := by
  cases rest with
  | nil => rfl
  | cons t rest =>
      have hnone := hends t (by simp)
      simp [run, step, readOperator, hnone, close, bind, Except.bind, pure, Except.pure]

/-- **Readings by transitions.**  A reading succeeds exactly when transitions along the
front of the lexemes lead to an outermost expression that cannot go on there. -/
theorem run_eq_ok_iff {s : State} {ts rest : List PlacedLexeme} {e : Expr} :
    s.run ts = .ok (e, rest) ↔
      ∃ front level operand, ts = front ++ rest ∧ Reaches s front ⟨level, [], .operator operand⟩ ∧
        e = level.total operand ∧ ∀ t ∈ rest.head?, level.rule.continuation? t.lexeme = none := by
  constructor
  · intro h
    induction ts generalizing s with
    | nil =>
        obtain ⟨value, hfinish, hend⟩ := bind_eq_ok_iff.1 h
        obtain ⟨rfl, rfl⟩ := Prod.mk.inj (Except.ok.inj hend)
        obtain ⟨level, operand, rfl, rfl⟩ := finish_eq_ok_iff.1 hfinish
        exact ⟨[], level, operand, rfl, .refl _, rfl, by simp⟩
    | cons t ts ih =>
        obtain ⟨v, hstep, hnext⟩ := bind_eq_ok_iff.1 h
        rcases leads_or_finish_of_step hstep with
          ⟨s', rfl, hleads⟩ | ⟨level, operand, rfl, hnone, rfl⟩
        · obtain ⟨front, level, operand, rfl, hreaches, htotal, hends⟩ := ih hnext
          exact ⟨t :: front, level, operand, rfl, .step hleads hreaches, htotal, hends⟩
        · obtain ⟨rfl, rfl⟩ := Prod.mk.inj (Except.ok.inj hnext)
          exact ⟨[], level, operand, rfl, .refl _, rfl, by simpa using hnone⟩
  · rintro ⟨front, level, operand, rfl, hreaches, rfl, hends⟩
    rw [hreaches.run_append, run_of_ends operand hends]

end Reckoner.State
