import Reckoner.Proofs.Reading.Transitions

/-!
# What the depth limit decides

How deep a reading begins matters only where it runs into the limit.  A reading that
begins deeper goes through the same states, each of them so many levels deeper, until it
either ends as the other one does or has no room left.  Nothing but the error that
something nests too deep is gained or lost by beginning elsewhere.

* `State.deepen` — the same state with more constructs open around it;
* `State.step_deepen`, `State.run_deepen` — one lexeme, and a whole reading, from there;
* `parseRule_of_le` — a reading that begins less deep.
-/

namespace Reckoner

/-- Whether the outcome of a reading is that something nests too deep. -/
def IsTooDeep {α : Type} (outcome : Except ParseError α) : Prop :=
  ∃ position, outcome = .error (.nestingTooDeep position)

/-- The same expression with more constructs open around it. -/
def Level.deepen (l : Level) (more : Nat) : Level :=
  { l with depth := l.depth + more }

/-- The same frame with more constructs open around it. -/
def Frame.deepen (frame : Frame) (more : Nat) : Frame :=
  { frame with outer := frame.outer.deepen more }

/-- The same state with more constructs open around it. -/
def State.deepen (s : State) (more : Nat) : State :=
  { s with level := s.level.deepen more, frames := s.frames.map fun f => f.deepen more }

/-- The same verdict with more constructs open around it. -/
def Verdict.deepen (v : Verdict) (more : Nat) : Verdict :=
  match v with
  | .advance s => .advance (s.deepen more)
  | .finish value => .finish value

namespace Level

@[simp] theorem rule_deepen (l : Level) (more : Nat) : (l.deepen more).rule = l.rule := rfl

@[simp] theorem nesting_deepen (l : Level) (more : Nat) :
    (l.deepen more).nesting = l.nesting + more :=
  Nat.add_right_comm _ _ _

@[simp] theorem operate_deepen (l : Level) (more : Nat) (operand : Expr) (op : Operator)
    (position : Nat) :
    (l.deepen more).operate operand op position = (l.operate operand op position).deepen more := by
  cases op <;> rfl

end Level

namespace State

variable (s : State) (more : Nat)

/-- Going deeper from deeper down fails, or it succeeds from above too. -/
theorem descend_deepen (level : Level) (position : Nat) :
    IsTooDeep (descend (level.deepen more) position) ∨
      ∃ depth, descend level position = .ok depth ∧
        descend (level.deepen more) position = .ok (depth + more) := by
  unfold descend
  rw [Level.nesting_deepen]
  by_cases hroom : level.nesting + more < maxNesting
  · have hroom' : level.nesting < maxNesting := by omega
    refine .inr ⟨level.nesting + 1, if_pos hroom', ?_⟩
    rw [if_pos hroom, Nat.add_right_comm]
  · exact .inl ⟨position, if_neg hroom⟩

/-- What goes on alike one level deeper goes on alike after going there. -/
theorem descend_bind_deepen (level : Level) (position : Nat) {f g : Nat → Except ParseError Verdict}
    (h : ∀ depth, g (depth + more) = (f depth).map (·.deepen more)) :
    IsTooDeep (descend (level.deepen more) position >>= g) ∨
      descend (level.deepen more) position >>= g
        = (descend level position >>= f).map (·.deepen more) := by
  rcases descend_deepen more level position with ⟨p, htoo⟩ | ⟨depth, hdepth, hdeeper⟩
  · exact .inl ⟨p, by rw [htoo]; rfl⟩
  · refine .inr ?_
    rw [hdepth, hdeeper]
    exact h depth

/-- A bracket is entered alike. -/
theorem enter_deepen (opening : Opening) (position : Nat) (expected : Expected) :
    IsTooDeep ((s.deepen more).enter opening position expected) ∨
      (s.deepen more).enter opening position expected
        = (s.enter opening position expected).map (·.deepen more) :=
  descend_bind_deepen more s.level position fun _ => rfl

/-- The beginning of an operand is read alike. -/
theorem readOperand_deepen (t : PlacedLexeme) :
    IsTooDeep ((s.deepen more).readOperand t) ∨
      (s.deepen more).readOperand t = (s.readOperand t).map (·.deepen more) := by
  obtain ⟨lexeme, position⟩ := t
  cases lexeme with
  | minus => exact descend_bind_deepen more s.level position fun _ => rfl
  | leftParen => exact enter_deepen s more _ _ _
  | _ => exact .inr rfl

/-- The end of a call without arguments is read alike. -/
theorem readArgument_deepen {t : PlacedLexeme} (ht : t.lexeme = .rightParen) :
    (s.deepen more).readArgument t = (s.readArgument t).map (·.deepen more) := by
  obtain ⟨level, frames, expected⟩ := s
  obtain ⟨lexeme, position⟩ := t
  subst ht
  match frames with
  | [] | ⟨.group _, _⟩ :: _ | ⟨.call _ _ _ _, _⟩ :: _ => rfl

/-- What follows the name of a call is read alike. -/
theorem readBracket_deepen (name : String) (position : Nat) (t : PlacedLexeme) :
    IsTooDeep ((s.deepen more).readBracket name position t) ∨
      (s.deepen more).readBracket name position t
        = (s.readBracket name position t).map (·.deepen more) := by
  obtain ⟨lexeme, bracket⟩ := t
  cases lexeme with
  | leftParen => exact enter_deepen s more _ _ _
  | _ => exact .inr rfl

/-- The end of an expression is read alike. -/
theorem close_deepen (value : Expr) (t : PlacedLexeme) :
    (s.deepen more).close value t = (s.close value t).map (·.deepen more) := by
  obtain ⟨level, frames, expected⟩ := s
  obtain ⟨lexeme, position⟩ := t
  match frames with
  | [] => rfl
  | ⟨.group _, _⟩ :: _ | ⟨.call _ _ _ _, _⟩ :: _ => cases lexeme <;> rfl

/-- What follows an operand is read alike. -/
theorem readOperator_deepen (operand : Expr) (t : PlacedLexeme) :
    (s.deepen more).readOperator operand t = (s.readOperator operand t).map (·.deepen more) := by
  simp only [readOperator, deepen, Level.rule_deepen]
  cases s.level.rule.continuation? t.lexeme with
  | none => exact close_deepen s more _ t
  | some op => simp [Except.map, Verdict.deepen, deepen]

/-- **One lexeme.**  Read from deeper down, it leads to the same, deeper down, unless there
is no room for it. -/
theorem step_deepen (t : PlacedLexeme) :
    IsTooDeep ((s.deepen more).step t) ∨
      (s.deepen more).step t = (s.step t).map (·.deepen more) := by
  obtain ⟨level, frames, expected⟩ := s
  cases expected with
  | operand => exact readOperand_deepen _ more t
  | argument =>
      -- Only a closing bracket is read otherwise than where any operand begins.
      by_cases ht : t.lexeme = .rightParen
      · exact .inr (readArgument_deepen _ more ht)
      · rw [step_of_awaitsOperand (.inr rfl) ht, step_of_awaitsOperand (.inr rfl) ht]
        exact readOperand_deepen _ more t
  | bracket name position => exact readBracket_deepen _ more name position t
  | operator operand => exact .inr (readOperator_deepen _ more operand t)

/-- The end of the input is read alike. -/
theorem finish_deepen : (s.deepen more).finish = s.finish := by
  obtain ⟨level, frames, expected⟩ := s
  match expected, frames with
  | .operand, _ | .argument, _ | .bracket _ _, _ => rfl
  | .operator _, [] | .operator _, ⟨.group _, _⟩ :: _ | .operator _, ⟨.call _ _ _ _, _⟩ :: _ => rfl

/-- **A reading.**  From deeper down it comes to the same, unless there is no room for it. -/
theorem run_deepen (ts : List PlacedLexeme) :
    IsTooDeep ((s.deepen more).run ts) ∨ (s.deepen more).run ts = s.run ts := by
  induction ts generalizing s with
  | nil => exact .inr (by rw [run, run, finish_deepen])
  | cons t ts ih =>
      rw [run, run]
      rcases step_deepen s more t with ⟨position, htoo⟩ | hstep
      · exact .inl ⟨position, by rw [htoo]; rfl⟩
      · rw [hstep]
        rcases s.step t with e | s' | value
        · exact .inr rfl
        · exact ih s'
        · exact .inr rfl

end State

/-- **The depth limit.**  What a rule reads where some constructs are open already, and the
error it fails with, are the same where fewer are open, unless something nests too deep.
And what nests too deep where fewer are open does so where more are. -/
theorem parseRule_of_le (rule : Rule) {depth depth' : Nat} (hle : depth ≤ depth')
    (ts : List PlacedLexeme) :
    (¬ IsTooDeep (parseRule rule depth' ts) →
      parseRule rule depth ts = parseRule rule depth' ts) ∧
    (IsTooDeep (parseRule rule depth ts) → IsTooDeep (parseRule rule depth' ts)) := by
  obtain ⟨more, rfl⟩ := Nat.exists_eq_add_of_le hle
  -- Beginning deeper is beginning in the same state, deeper down.
  have hrun : parseRule rule (depth + more) ts = ((State.start rule depth).deepen more).run ts := rfl
  rcases State.run_deepen (State.start rule depth) more ts with htoo | hsame
  · rw [hrun]
    exact ⟨fun hnot => absurd htoo hnot, fun _ => htoo⟩
  · rw [hrun, hsame]
    exact ⟨fun _ => rfl, id⟩

/-- A group under a minus sign, which needs two levels: not closed where there are two, and
too deep where there are fewer, at the bracket or at the sign already. -/
theorem parseRule_of_le_two_levels :
    let ts : List PlacedLexeme := [⟨.minus, 0⟩, ⟨.leftParen, 1⟩, ⟨.integer 7, 2⟩]
    parseRule .multiplicative 254 ts = .error (.expectedClosingParen 1) ∧
      parseRule .multiplicative 0 ts = .error (.expectedClosingParen 1) ∧
      parseRule .multiplicative 255 ts = .error (.nestingTooDeep 1) ∧
      IsTooDeep (parseRule .multiplicative 256 ts) := by
  intro ts
  have hfits : parseRule .multiplicative 254 ts = .error (.expectedClosingParen 1) := rfl
  have htoo : parseRule .multiplicative 255 ts = .error (.nestingTooDeep 1) := rfl
  have hnot : ¬ IsTooDeep (parseRule .multiplicative 254 ts) := by
    rw [hfits]
    rintro ⟨position, h⟩
    cases h
  obtain ⟨hsame, -⟩ := parseRule_of_le .multiplicative (Nat.zero_le 254) ts
  obtain ⟨-, hdeeper⟩ := parseRule_of_le .multiplicative (Nat.le_succ 255) ts
  exact ⟨hfits, (hsame hnot).trans hfits, htoo, hdeeper ⟨1, htoo⟩⟩

end Reckoner
