import Reckoner.Error
import Reckoner.Expr
import Reckoner.Lexeme

/-!
# The state of reading an expression

Lexemes are read one at a time, from left to right, and never twice.  What has
been read is kept in a `State`: the expression under construction, the
expressions around it that wait for a bracket to close, and what may come next.

One `Level` is one expression under construction.  It has at most one pending
`+` or `-`, in it at most one pending `*` or `/`, and then the minus signs of
the operand to come.  Completing an operand applies the minus signs; the next
operator shows which pending operators can be applied to their right operand.

* `State.step` — reading one lexeme;
* `State.finish` — reading the end of the input.
-/

namespace Reckoner

/-- How many brackets, calls and minus signs can be open at once. -/
def maxNesting : Nat := 256

/-- The kinds of chain an expression can be read as. -/
inductive Rule where
  /-- A whole expression, which is an additive chain. -/
  | expression
  /-- Terms joined by `+` and `-`. -/
  | additive
  /-- Factors joined by `*` and `/`. -/
  | multiplicative
deriving Repr, DecidableEq

/-- Whether a chain of this kind goes on with the operator. -/
def Rule.admits : Rule → Operator → Bool
  | expression, _ => true
  | additive, _ => true
  | multiplicative, op => op.isMultiplicative

/-- The operator that a chain of this kind goes on with at a lexeme. -/
def Rule.continuation? (rule : Rule) (lexeme : Lexeme) : Option Operator :=
  lexeme.operator?.filter rule.admits

/-- A left operand and an operator that wait for the right operand. -/
structure Pending where
  left : Expr
  op : Operator
  position : Nat
deriving Repr

namespace Pending

/-- Gives a right operand to the operator that waits for it, if there is one. -/
def join : Option Pending → Expr → Expr
  | none, right => right
  | some p, right => .binary p.left p.op right p.position

end Pending

/-- An expression under construction. -/
structure Level where
  rule : Rule
  /-- How many constructs were open where the expression began. -/
  depth : Nat
  /-- The pending `+` or `-`. -/
  sum : Option Pending
  /-- The pending `*` or `/`, whose product is the right operand of the sum. -/
  product : Option Pending
  /-- Where the minus signs of the operand to come stand, the innermost first. -/
  minuses : List Nat
deriving Repr

namespace Level

/-- An expression of which nothing is read yet. -/
def start (rule : Rule) (depth : Nat) : Level :=
  { rule, depth, sum := none, product := none, minuses := [] }

/-- How many constructs are open here. -/
def nesting (l : Level) : Nat :=
  l.depth + l.minuses.length

/-- The product that ends with the operand. -/
def productOf (l : Level) (operand : Expr) : Expr :=
  Pending.join l.product operand

/-- The expression that ends with the operand. -/
def total (l : Level) (operand : Expr) : Expr :=
  Pending.join l.sum (l.productOf operand)

/-- The operand under its minus signs. -/
def negated (l : Level) (operand : Expr) : Expr :=
  l.minuses.foldl Expr.negate operand

/-- Goes on with an operator after an operand. -/
def operate (l : Level) (operand : Expr) (op : Operator) (position : Nat) : Level :=
  if op.isMultiplicative then
    { l with product := some ⟨l.productOf operand, op, position⟩ }
  else
    { l with sum := some ⟨l.total operand, op, position⟩, product := none }

end Level

/-- What an open bracket belongs to. -/
inductive Opening where
  /-- A group, and where its bracket stands. -/
  | group (position : Nat)
  /-- A call: its name and where that stands, where the bracket stands, and the
  arguments read so far, the latest first. -/
  | call (name : String) (position bracket : Nat) (arguments : List Expr)
deriving Repr

/-- An expression that waits for the bracket inside it to close. -/
structure Frame where
  opening : Opening
  outer : Level
deriving Repr

/-- What comes next. -/
inductive Expected where
  /-- An operand. -/
  | operand
  /-- The first argument of a call, or the bracket that closes it. -/
  | argument
  /-- The bracket of the call of a name. -/
  | bracket (name : String) (position : Nat)
  /-- An operator after this operand, or the end of the expression. -/
  | operator (operand : Expr)
deriving Repr

/-- What has been read: the innermost expression, those around it, innermost first,
and what comes next. -/
structure State where
  level : Level
  frames : List Frame
  expected : Expected
deriving Repr

/-- What a lexeme leads to. -/
inductive Verdict where
  /-- It is part of the expression. -/
  | advance (state : State)
  /-- The expression ended before it. -/
  | finish (value : Expr)
deriving Repr

namespace State

/-- The state before the first lexeme. -/
def start (rule : Rule) (depth : Nat) : State :=
  { level := .start rule depth, frames := [], expected := .operand }

/-- The state after an operand without its minus signs is complete. -/
def complete (level : Level) (frames : List Frame) (operand : Expr) : State :=
  { level := { level with minuses := [] }
    frames
    expected := .operator (level.negated operand) }

/-- Goes one level deeper, unless that is too deep. -/
def descend (level : Level) (position : Nat) : Except ParseError Nat :=
  if level.nesting < maxNesting then .ok (level.nesting + 1)
  else .error (.nestingTooDeep position)

/-- Begins an expression inside a bracket that stands at a position. -/
def enter (s : State) (opening : Opening) (position : Nat) (expected : Expected) :
    Except ParseError Verdict := do
  let depth ← descend s.level position
  return .advance
    { level := .start .expression depth, frames := ⟨opening, s.level⟩ :: s.frames, expected }

/-- A lexeme that cannot stand where it does. -/
def refuse (t : PlacedLexeme) : Except ParseError Verdict :=
  .error (.unexpectedToken t.lexeme.text t.position)

/-- Reads a lexeme where an operand begins. -/
def readOperand (s : State) (t : PlacedLexeme) : Except ParseError Verdict :=
  match t.lexeme with
  | .integer n => .ok (.advance (complete s.level s.frames (.literal (.integer n) t.position)))
  | .real r => .ok (.advance (complete s.level s.frames (.literal (.real r) t.position)))
  | .minus => do
    let _ ← descend s.level t.position
    let level := { s.level with minuses := t.position :: s.level.minuses }
    return .advance { s with level, expected := .operand }
  | .leftParen => s.enter (.group t.position) t.position .operand
  | .identifier name => .ok (.advance { s with expected := .bracket name t.position })
  | _ => refuse t

/-- Reads a lexeme where the arguments of a call begin. -/
def readArgument (s : State) (t : PlacedLexeme) : Except ParseError Verdict :=
  match t.lexeme, s.frames with
  | .rightParen, ⟨.call name position _ _, outer⟩ :: frames =>
    .ok (.advance (complete outer frames (.call name [] position)))
  | _, _ => s.readOperand t

/-- Only a closing bracket is read otherwise than where any operand begins. -/
theorem readArgument_of_ne (s : State) {t : PlacedLexeme} (h : t.lexeme ≠ .rightParen) :
    s.readArgument t = s.readOperand t := by
  unfold readArgument
  split
  next heq _ => exact absurd heq h
  next => rfl

/-- Reads a lexeme after the name of a call. -/
def readBracket (s : State) (name : String) (position : Nat) (t : PlacedLexeme) :
    Except ParseError Verdict :=
  match t.lexeme with
  | .leftParen => s.enter (.call name position t.position []) t.position .argument
  | _ => .error (.unexpectedToken name position)

/-- Reads a lexeme where the innermost expression has ended. -/
def close (s : State) (value : Expr) (t : PlacedLexeme) : Except ParseError Verdict :=
  match s.frames with
  | [] => .ok (.finish value)
  | ⟨.group bracket, outer⟩ :: frames =>
    match t.lexeme with
    | .rightParen => .ok (.advance (complete outer frames value))
    | _ => .error (.expectedClosingParen bracket)
  | ⟨.call name position bracket arguments, outer⟩ :: frames =>
    match t.lexeme with
    | .rightParen =>
      .ok (.advance (complete outer frames (.call name (value :: arguments).reverse position)))
    | .comma =>
      .ok (.advance
        { level := .start .expression s.level.depth
          frames := ⟨.call name position bracket (value :: arguments), outer⟩ :: frames
          expected := .operand })
    | _ => refuse t

/-- Reads a lexeme after an operand. -/
def readOperator (s : State) (operand : Expr) (t : PlacedLexeme) : Except ParseError Verdict :=
  match s.level.rule.continuation? t.lexeme with
  | some op =>
    .ok (.advance { s with level := s.level.operate operand op t.position, expected := .operand })
  | none => s.close (s.level.total operand) t

/-- Reads one lexeme. -/
def step (s : State) (t : PlacedLexeme) : Except ParseError Verdict :=
  match s.expected with
  | .operand => s.readOperand t
  | .argument => s.readArgument t
  | .bracket name position => s.readBracket name position t
  | .operator operand => s.readOperator operand t

/-- Reads the end of the input. -/
def finish (s : State) : Except ParseError Expr :=
  match s.expected with
  | .operand | .argument => .error .unexpectedEndOfInput
  | .bracket name position => .error (.unexpectedToken name position)
  | .operator operand =>
    match s.frames with
    | [] => .ok (s.level.total operand)
    | ⟨.group bracket, _⟩ :: _ => .error (.expectedClosingParen bracket)
    | ⟨.call _ _ bracket _, _⟩ :: _ => .error (.expectedClosingParen bracket)

end State

end Reckoner
