import Reckoner.Proofs.Evaluation
import Reckoner.Proofs.Words.Tokens

/-!
# Positions are carried along

A reading looks at lexemes and never at where they stand.  So the same lexemes at other
positions lead through the same states, with the positions in them changed alike, to the
same tree, rest or error.  A tree has the same value wherever its nodes stand.  What two
sources with the same lexemes differ in is therefore the place that an error names, and
nothing else.

* `State.mapPositions` — the same state with other positions in it;
* `State.step_mapPositions`, `State.run_mapPositions` — one lexeme, and a whole reading;
* `parseRule_mapPositions`, `parse_mapPositions` — the rules, and whole expressions;
* `exists_mapPosition` — the same lexemes in two places;
* `reading_mapPositions` — all these, and the values of texts.
-/

namespace Reckoner

/-- The outcome of a reading with other positions, `g` changing those in its value. -/
def moved {α β : Type} (f : Nat → Nat) (g : α → β) (outcome : Except ParseError α) :
    Except ParseError β :=
  (outcome.map g).mapError (ParseError.mapPosition f)

/-- Only an error of reading has a position. -/
def Error.mapPosition (f : Nat → Nat) : Error → Error
  | parse error => parse (error.mapPosition f)
  | runtime error => runtime error

/-- The same pending operator with other positions. -/
def Pending.mapPositions (f : Nat → Nat) (p : Pending) : Pending :=
  { left := p.left.mapPositions f, op := p.op, position := f p.position }

/-- The same expression under construction with other positions. -/
def Level.mapPositions (f : Nat → Nat) (l : Level) : Level :=
  { l with
    sum := l.sum.map (Pending.mapPositions f)
    product := l.product.map (Pending.mapPositions f)
    minuses := l.minuses.map f }

/-- The same open bracket with other positions. -/
def Opening.mapPositions (f : Nat → Nat) : Opening → Opening
  | group position => group (f position)
  | call name position bracket arguments =>
    call name (f position) (f bracket) (arguments.map (Expr.mapPositions f))

/-- The same frame with other positions. -/
def Frame.mapPositions (f : Nat → Nat) (frame : Frame) : Frame :=
  { opening := frame.opening.mapPositions f, outer := frame.outer.mapPositions f }

/-- The same expectation with other positions. -/
def Expected.mapPositions (f : Nat → Nat) : Expected → Expected
  | operand => operand
  | argument => argument
  | bracket name position => bracket name (f position)
  | operator e => operator (e.mapPositions f)

/-- The same state with other positions. -/
def State.mapPositions (f : Nat → Nat) (s : State) : State :=
  { level := s.level.mapPositions f
    frames := s.frames.map (Frame.mapPositions f)
    expected := s.expected.mapPositions f }

/-- The same verdict with other positions. -/
def Verdict.mapPositions (f : Nat → Nat) : Verdict → Verdict
  | advance state => advance (state.mapPositions f)
  | finish value => finish (value.mapPositions f)

variable (f : Nat → Nat)

/-- An operand is joined to the operator that waits for it alike. -/
theorem Pending.join_mapPositions (pending : Option Pending) (right : Expr) :
    join (pending.map (mapPositions f)) (right.mapPositions f)
      = (join pending right).mapPositions f := by
  cases pending with
  | none => rfl
  | some p => simp [join, mapPositions, Expr.mapPositions]

namespace Level

variable (l : Level) (operand : Expr)

@[simp] theorem nesting_mapPositions : (l.mapPositions f).nesting = l.nesting := by
  simp [nesting, mapPositions]

theorem productOf_mapPositions :
    (l.mapPositions f).productOf (operand.mapPositions f)
      = (l.productOf operand).mapPositions f :=
  Pending.join_mapPositions f l.product operand

theorem total_mapPositions :
    (l.mapPositions f).total (operand.mapPositions f) = (l.total operand).mapPositions f := by
  rw [total, productOf_mapPositions]
  exact Pending.join_mapPositions f l.sum _

theorem negated_mapPositions :
    (l.mapPositions f).negated (operand.mapPositions f)
      = (l.negated operand).mapPositions f := by
  unfold negated mapPositions
  simp only
  induction l.minuses generalizing operand with
  | nil => rfl
  | cons minus others ih =>
      have hnegate : (operand.mapPositions f).negate (f minus)
          = (operand.negate minus).mapPositions f := by
        rw [Expr.mapPositions]
      rw [List.map_cons, List.foldl_cons, List.foldl_cons, hnegate, ih]

/-- An expression goes on with an operator alike. -/
theorem operate_mapPositions (op : Operator) (position : Nat) :
    (l.mapPositions f).operate (operand.mapPositions f) op (f position)
      = (l.operate operand op position).mapPositions f := by
  cases hkind : op.isMultiplicative with
  | true =>
      simp only [operate, hkind, if_true, productOf_mapPositions]
      rfl
  | false =>
      simp only [operate, hkind, Bool.false_eq_true, if_false, total_mapPositions]
      rfl

end Level

namespace State

variable (s : State) (t : PlacedLexeme)

/-- What a lexeme leads to is the same state with other positions. -/
theorem moved_advance {f : Nat → Nat} {s s' : State} (h : s' = s.mapPositions f) :
    .ok (.advance s') = moved f (Verdict.mapPositions f) (.ok (.advance s)) := by
  rw [h]
  rfl

theorem complete_mapPositions (level : Level) (frames : List Frame) (operand : Expr) :
    complete (level.mapPositions f) (frames.map (Frame.mapPositions f)) (operand.mapPositions f)
      = (complete level frames operand).mapPositions f := by
  unfold complete
  rw [Level.negated_mapPositions]
  rfl

/-- Going one level deeper depends on how much is open, not on where. -/
theorem descend_mapPositions (level : Level) (position : Nat) :
    descend (level.mapPositions f) (f position) = moved f id (descend level position) := by
  unfold descend
  rw [Level.nesting_mapPositions]
  split <;> rfl

/-- What goes on alike one level deeper goes on alike after going there. -/
theorem descend_bind_mapPositions (level : Level) (position : Nat)
    {g g' : Nat → Except ParseError Verdict}
    (h : ∀ depth, g' depth = moved f (Verdict.mapPositions f) (g depth)) :
    descend (level.mapPositions f) (f position) >>= g'
      = moved f (Verdict.mapPositions f) (descend level position >>= g) := by
  rw [descend_mapPositions]
  cases descend level position with
  | error e => rfl
  | ok depth => exact h depth

/-- A bracket is entered alike. -/
theorem enter_mapPositions (opening : Opening) (position : Nat) (expected : Expected) :
    (s.mapPositions f).enter (opening.mapPositions f) (f position) (expected.mapPositions f)
      = moved f (Verdict.mapPositions f) (s.enter opening position expected) :=
  descend_bind_mapPositions f s.level position fun _ => rfl

/-- The beginning of an operand is read alike. -/
theorem readOperand_mapPositions :
    (s.mapPositions f).readOperand (t.mapPosition f)
      = moved f (Verdict.mapPositions f) (s.readOperand t) := by
  obtain ⟨lexeme, position⟩ := t
  have hliteral (value : Number) :
      complete (s.mapPositions f).level (s.mapPositions f).frames (.literal value (f position))
        = (complete s.level s.frames (.literal value position)).mapPositions f := by
    rw [← complete_mapPositions, Expr.mapPositions]
    rfl
  cases lexeme with
  | integer n => exact moved_advance (hliteral (.integer n))
  | real r => exact moved_advance (hliteral (.real r))
  | minus => exact descend_bind_mapPositions f s.level position fun _ => rfl
  | leftParen => exact enter_mapPositions f s (.group position) position .operand
  | _ => rfl

/-- The beginning of the arguments of a call is read alike. -/
theorem readArgument_mapPositions :
    (s.mapPositions f).readArgument (t.mapPosition f)
      = moved f (Verdict.mapPositions f) (s.readArgument t) := by
  by_cases ht : t.lexeme = .rightParen
  · obtain ⟨level, frames, expected⟩ := s
    obtain ⟨lexeme, position⟩ := t
    obtain rfl : lexeme = .rightParen := ht
    match frames with
    | [] | ⟨.group _, _⟩ :: _ => rfl
    | ⟨.call name place _ _, outer⟩ :: frames =>
        have hcall : Expr.call name [] (f place) = (Expr.call name [] place).mapPositions f := by
          rw [Expr.mapPositions, List.map_nil]
        have hcomplete := complete_mapPositions f outer frames (.call name [] place)
        rw [← hcall] at hcomplete
        exact moved_advance hcomplete
  · have ht' : (t.mapPosition f).lexeme ≠ .rightParen := ht
    rw [readArgument_of_ne _ ht, readArgument_of_ne _ ht', readOperand_mapPositions]

/-- What follows the name of a call is read alike. -/
theorem readBracket_mapPositions (name : String) (position : Nat) :
    (s.mapPositions f).readBracket name (f position) (t.mapPosition f)
      = moved f (Verdict.mapPositions f) (s.readBracket name position t) := by
  obtain ⟨lexeme, bracket⟩ := t
  cases lexeme with
  | leftParen => exact enter_mapPositions f s (.call name position bracket []) bracket .argument
  | _ => rfl

/-- The end of an expression is read alike. -/
theorem close_mapPositions (value : Expr) :
    (s.mapPositions f).close (value.mapPositions f) (t.mapPosition f)
      = moved f (Verdict.mapPositions f) (s.close value t) := by
  obtain ⟨level, frames, expected⟩ := s
  obtain ⟨lexeme, position⟩ := t
  match frames with
  | [] => rfl
  | ⟨.group bracket, outer⟩ :: frames =>
      cases lexeme with
      | rightParen => exact moved_advance (complete_mapPositions f outer frames value)
      | _ => rfl
  | ⟨.call name place bracket arguments, outer⟩ :: frames =>
      have hcall : Expr.call name
            (value.mapPositions f :: arguments.map (Expr.mapPositions f)).reverse (f place)
          = (Expr.call name (value :: arguments).reverse place).mapPositions f := by
        rw [Expr.mapPositions, List.map_reverse, List.map_cons]
      have hcomplete := complete_mapPositions f outer frames
        (.call name (value :: arguments).reverse place)
      rw [← hcall] at hcomplete
      cases lexeme with
      | rightParen => exact moved_advance hcomplete
      | _ => rfl

/-- What follows an operand is read alike. -/
theorem readOperator_mapPositions (operand : Expr) :
    (s.mapPositions f).readOperator (operand.mapPositions f) (t.mapPosition f)
      = moved f (Verdict.mapPositions f) (s.readOperator operand t) := by
  have hrule : (s.mapPositions f).level.rule = s.level.rule := rfl
  have hlexeme : (t.mapPosition f).lexeme = t.lexeme := rfl
  unfold readOperator
  rw [hrule, hlexeme]
  cases s.level.rule.continuation? t.lexeme with
  | none =>
      have htotal : (s.mapPositions f).level.total (operand.mapPositions f)
          = (s.level.total operand).mapPositions f := Level.total_mapPositions f s.level operand
      simp only [htotal, close_mapPositions]
  | some op =>
      have hoperate : (s.mapPositions f).level.operate (operand.mapPositions f) op (f t.position)
          = (s.level.operate operand op t.position).mapPositions f :=
        Level.operate_mapPositions f s.level operand op t.position
      simp only [PlacedLexeme.mapPosition, hoperate]
      rfl

/-- **One lexeme.**  At another position it leads to the same, with other positions. -/
theorem step_mapPositions :
    (s.mapPositions f).step (t.mapPosition f) = moved f (Verdict.mapPositions f) (s.step t) := by
  obtain ⟨level, frames, expected⟩ := s
  cases expected with
  | operand => exact readOperand_mapPositions f _ t
  | argument => exact readArgument_mapPositions f _ t
  | bracket name position => exact readBracket_mapPositions f _ t name position
  | operator operand => exact readOperator_mapPositions f _ t operand

/-- The end of the input is read alike. -/
theorem finish_mapPositions :
    (s.mapPositions f).finish = moved f (Expr.mapPositions f) s.finish := by
  obtain ⟨level, frames, expected⟩ := s
  match expected, frames with
  | .operand, _ | .argument, _ | .bracket _ _, _ => rfl
  | .operator operand, [] => exact congrArg Except.ok (Level.total_mapPositions f level operand)
  | .operator _, ⟨.group _, _⟩ :: _ | .operator _, ⟨.call _ _ _ _, _⟩ :: _ => rfl

/-- **A reading.**  The same lexemes at other positions are read to the same end. -/
theorem run_mapPositions (ts : List PlacedLexeme) :
    (s.mapPositions f).run (ts.map (PlacedLexeme.mapPosition f))
      = moved f (Prod.map (Expr.mapPositions f) (List.map (PlacedLexeme.mapPosition f)))
          (s.run ts) := by
  induction ts generalizing s with
  | nil =>
      rw [List.map_nil, run, run, finish_mapPositions]
      cases s.finish <;> rfl
  | cons t ts ih =>
      rw [List.map_cons, run, run, step_mapPositions]
      rcases s.step t with e | s' | value
      · rfl
      · exact ih s'
      · rfl

end State

/-- A rule reads the same tree, with the same rest or error, at other positions. -/
theorem parseRule_mapPositions (rule : Rule) (depth : Nat) (ts : List PlacedLexeme) :
    parseRule rule depth (ts.map (PlacedLexeme.mapPosition f))
      = moved f (Prod.map (Expr.mapPositions f) (List.map (PlacedLexeme.mapPosition f)))
          (parseRule rule depth ts) :=
  State.run_mapPositions f (State.start rule depth) ts

/-- Lexemes are the same expression, or have the same error, at other positions. -/
theorem parse_mapPositions (ts : List PlacedLexeme) :
    parse (ts.map (PlacedLexeme.mapPosition f)) = moved f (Expr.mapPositions f) (parse ts) := by
  unfold parse
  rw [parseRule_mapPositions]
  rcases parseRule .expression 0 ts with e | ⟨value, _ | ⟨t, rest⟩⟩ <;> rfl

/-- The same lexemes, the first of them each at a place of its own, differ by a change of
positions. -/
theorem exists_mapPosition {ts ts' : List PlacedLexeme}
    (h : ts.map PlacedLexeme.lexeme = ts'.map PlacedLexeme.lexeme)
    (hplaces : ts.Pairwise fun t t' => t.position < t'.position) :
    ∃ f, ts' = ts.map (PlacedLexeme.mapPosition f) := by
  induction ts generalizing ts' with
  | nil => exact ⟨id, List.map_eq_nil_iff.1 h.symm⟩
  | cons t ts ih =>
      obtain ⟨t', us, rfl, hlexeme, hrest⟩ := List.map_eq_cons_iff.1 h.symm
      obtain ⟨hfirst, hothers⟩ := List.pairwise_cons.1 hplaces
      obtain ⟨f, rfl⟩ := ih hrest.symm hothers
      -- The position of the first lexeme is that of no other one.
      refine ⟨fun position => if position = t.position then t'.position else f position, ?_⟩
      have hsame : ∀ u ∈ ts, u.mapPosition f = u.mapPosition fun position =>
          if position = t.position then t'.position else f position := by
        intro u hu
        simp [PlacedLexeme.mapPosition, Nat.ne_of_gt (hfirst u hu)]
      rw [List.map_cons, List.map_congr_left hsame]
      simp [PlacedLexeme.mapPosition, ← hlexeme]

/-- A text has the same value or error of evaluation, and the same error of reading but for
its place, as one whose lexemes are the same at other positions. -/
theorem executeText_mapPositions {source source' : String} {ts : List PlacedLexeme}
    (hscan : tokenize source = .ok ts)
    (hscan' : tokenize source' = .ok (ts.map (PlacedLexeme.mapPosition f))) (c : Calculator) :
    c.executeText source' = (c.executeText source).mapError (Error.mapPosition f) := by
  have hparse := parse_mapPositions f ts
  cases hread : parse ts with
  | error e =>
      rw [hread] at hparse
      rw [c.executeText_eq_parse_error_iff.2
          (readExpression_eq_error_iff.2 (.inr ⟨_, hscan', hparse⟩)),
        c.executeText_eq_parse_error_iff.2 (readExpression_eq_error_iff.2 (.inr ⟨_, hscan, hread⟩))]
      rfl
  | ok e =>
      rw [hread] at hparse
      rw [executeText_of_parse hscan' hparse, executeText_of_parse hscan hread,
        Calculator.meaning_mapPositions]
      cases c.meaning e <;> rfl

/-- **Positions are carried along.**  Every rule, from every depth, and the reading of whole
expressions give at other positions what they give, with the positions changed alike in the
tree, the rest and the error.  Evaluation does not depend on positions.  So two sources with
the same lexemes have the same value or error of evaluation, and errors of reading that
differ only in naming the place of the same lexeme in either source. -/
theorem reading_mapPositions :
    (∀ (f : Nat → Nat) (rule : Rule) (depth : Nat) (ts : List PlacedLexeme),
      parseRule rule depth (ts.map (PlacedLexeme.mapPosition f))
        = moved f (Prod.map (Expr.mapPositions f) (List.map (PlacedLexeme.mapPosition f)))
            (parseRule rule depth ts)) ∧
    (∀ (f : Nat → Nat) (ts : List PlacedLexeme),
      parse (ts.map (PlacedLexeme.mapPosition f)) = moved f (Expr.mapPositions f) (parse ts)) ∧
    (∀ (f : Nat → Nat) (c : Calculator) (e : Expr), c.eval (e.mapPositions f) = c.eval e) ∧
    ∀ (source source' : String) (ts ts' : List PlacedLexeme),
      tokenize source = .ok ts → tokenize source' = .ok ts' →
      ts.map PlacedLexeme.lexeme = ts'.map PlacedLexeme.lexeme →
      ∃ f, ts' = ts.map (PlacedLexeme.mapPosition f) ∧
        ∀ c : Calculator,
          c.executeText source' = (c.executeText source).mapError (Error.mapPosition f) := by
  refine ⟨parseRule_mapPositions, parse_mapPositions, fun f c e => ?_, ?_⟩
  · rw [Calculator.eval_eq_meaning, Calculator.eval_eq_meaning, Calculator.meaning_mapPositions]
  · intro source source' ts ts' hscan hscan' hlexemes
    obtain ⟨f, rfl⟩ := exists_mapPosition hlexemes (tokenize_increasing hscan)
    exact ⟨f, rfl, executeText_mapPositions f hscan hscan'⟩

/-- Two layouts of `2*)`, in which the closing bracket is refused where it stands. -/
theorem reading_mapPositions_spread :
    ∃ f : Nat → Nat, f 2 = 5 ∧ ∀ c : Calculator,
      c.executeText "2*)" = .error (.parse (.unexpectedToken ")" 2)) ∧
      c.executeText " 2 * )" = .error (.parse (.unexpectedToken ")" 5)) := by
  have hscan : tokenize "2*)" = .ok [⟨.integer 2, 0⟩, ⟨.star, 1⟩, ⟨.rightParen, 2⟩] := by
    decide +kernel
  have hscan' : tokenize " 2 * )" = .ok [⟨.integer 2, 1⟩, ⟨.star, 3⟩, ⟨.rightParen, 5⟩] := by
    decide +kernel
  have hparse : parse [⟨.integer 2, 0⟩, ⟨.star, 1⟩, ⟨.rightParen, 2⟩]
      = .error (.unexpectedToken ")" 2) := rfl
  obtain ⟨f, hplaces, hvalue⟩ := reading_mapPositions.2.2.2 _ _ _ _ hscan hscan' rfl
  have hbracket : f 2 = 5 := by
    have hlast := congrArg List.getLast? hplaces
    simpa [PlacedLexeme.mapPosition, eq_comm] using hlast
  refine ⟨f, hbracket, fun c => ?_⟩
  have hfirst : c.executeText "2*)" = .error (.parse (.unexpectedToken ")" 2)) :=
    c.executeText_eq_parse_error_iff.2 (readExpression_eq_error_iff.2 (.inr ⟨_, hscan, hparse⟩))
  refine ⟨hfirst, ?_⟩
  rw [hvalue, hfirst]
  simp [Except.mapError, Error.mapPosition, ParseError.mapPosition, hbracket]

end Reckoner
