/-!
# Errors

What can go wrong, as causes.  Reading a text fails with a `ParseError`,
evaluating fails with a `RuntimeError`, and `Error` is either of them.  The
wording stands here and nowhere else.

* `RuntimeError.message`, `ParseError.message`, `Error.message` — the wording;
* `Error.sources` — the chain of messages from an error down to its root cause.
-/

namespace Reckoner

/-- Why an evaluation has no value. -/
inductive RuntimeError where
  /-- No operation of this name is registered. -/
  | functionNotFound (name : String)
  /-- The name is taken, and the calculator does not overwrite. -/
  | functionAlreadyDefined (name : String)
  /-- The operation was applied to no operand at all. -/
  | emptyArguments (name : String)
  /-- A name stands where an operand is needed. -/
  | expectedNumber (token : String)
  /-- The exact whole result does not fit in 64 bits. -/
  | overflow
  /-- A token sequence names no operation. -/
  | missingOperation
  /-- A token sequence failed for the reason given. -/
  | wrongExpression (cause : RuntimeError)
deriving Repr, DecidableEq

/-- A value, or the reason why there is none. -/
abbrev Outcome (α : Type) : Type := Except RuntimeError α

/-- Two stages, one after the other, succeed when both do. -/
theorem bind_eq_ok_iff {ε α β : Type} {x : Except ε α} {f : α → Except ε β} {b : β} :
    x >>= f = .ok b ↔ ∃ a, x = .ok a ∧ f a = .ok b := by
  cases x with
  | error e => exact ⟨nofun, nofun⟩
  | ok a =>
      constructor
      · intro h
        exact ⟨a, rfl, h⟩
      · rintro ⟨a', ha, h⟩
        obtain rfl := Except.ok.inj ha
        exact h

/-- Two stages, one after the other, fail when the first does, or else the second. -/
theorem bind_eq_error_iff {ε α β : Type} {x : Except ε α} {f : α → Except ε β} {e : ε} :
    x >>= f = .error e ↔ x = .error e ∨ ∃ a, x = .ok a ∧ f a = .error e := by
  cases x with
  | error e' =>
      constructor
      · intro h
        exact .inl (congrArg Except.error (Except.error.inj h))
      · rintro (h | ⟨a, ha, -⟩)
        · exact congrArg Except.error (Except.error.inj h)
        · cases ha
  | ok a =>
      constructor
      · intro h
        exact .inr ⟨a, rfl, h⟩
      · rintro (h | ⟨a', ha, h⟩)
        · cases h
        · obtain rfl := Except.ok.inj ha
          exact h

namespace RuntimeError

/-- The wording of a runtime error. -/
def message : RuntimeError → String
  | functionNotFound name => "Function not found: '" ++ name ++ "'."
  | functionAlreadyDefined name => "Function '" ++ name ++ "' is already defined."
  | emptyArguments name => "Function '" ++ name ++ "' needs at least one argument."
  | expectedNumber token => "Expected number, found '" ++ token ++ "'."
  | overflow => "Integer overflow while trying to compute result."
  | missingOperation => "Expression contains no operation."
  | wrongExpression _ => "Your expression is wrong."

/-- The error itself and then every cause below it, outermost first. -/
def chain : RuntimeError → List RuntimeError
  | wrongExpression cause => wrongExpression cause :: cause.chain
  | e => [e]

/-- Whether the error is the one that wraps a failed token sequence. -/
def isWrongExpression : RuntimeError → Bool
  | wrongExpression _ => true
  | _ => false

end RuntimeError

/-- Why a text is not an expression.  Positions are byte offsets. -/
inductive ParseError where
  /-- This token cannot stand here. -/
  | unexpectedToken (token : String) (position : Nat)
  /-- The text ends where an operand is needed. -/
  | unexpectedEndOfInput
  /-- The bracket opened here is not closed. -/
  | expectedClosingParen (position : Nat)
  /-- A complete expression is followed by this token. -/
  | unexpectedTrailingTokens (token : String) (position : Nat)
  /-- The whole number starting here does not fit in 64 bits. -/
  | literalTooLarge (position : Nat)
  /-- The construct opened here is one level too deep. -/
  | nestingTooDeep (position : Nat)
deriving Repr, DecidableEq

namespace ParseError

/-- The common opening of the messages that have a place. -/
def located (position : Nat) (text : String) : String :=
  "Error at offset " ++ toString position ++ ": " ++ text

/-- The wording of a parse error. -/
def message : ParseError → String
  | unexpectedToken token position => located position ("Unexpected token: " ++ token ++ ".")
  | unexpectedEndOfInput => "Error: Unexpected end of input."
  | expectedClosingParen position =>
    located position "Expected closing parenthesis ')' but none found."
  | unexpectedTrailingTokens token position =>
    located position ("Extra tokens after expression: " ++ token)
  | literalTooLarge position => located position "Literal is too large."
  | nestingTooDeep position => located position "Expression is nested too deeply."

/-- The byte offset that the error points at, if it points at one. -/
def position? : ParseError → Option Nat
  | unexpectedToken _ position => some position
  | unexpectedEndOfInput => none
  | expectedClosingParen position => some position
  | unexpectedTrailingTokens _ position => some position
  | literalTooLarge position => some position
  | nestingTooDeep position => some position

end ParseError

/-- Why a text has no value: it cannot be read, or cannot be evaluated. -/
inductive Error where
  | parse (error : ParseError)
  | runtime (error : RuntimeError)
deriving Repr, DecidableEq

namespace Error

/-- The wording is that of the error inside. -/
def message : Error → String
  | parse error => error.message
  | runtime error => error.message

/-- The messages of the error inside and of every cause below it. -/
def sources : Error → List String
  | parse error => [error.message]
  | runtime error => error.chain.map RuntimeError.message

/-- Whether the error wraps a failed token sequence. -/
def isWrongExpression : Error → Bool
  | parse _ => false
  | runtime error => error.isWrongExpression

end Error

end Reckoner
