import Reckoner.Number.Widening
import Reckoner.Reducer.Stock
import Reckoner.Calculator.Lemmas
import Reckoner.Calculator.Summary
import Reckoner.Calculator.History
import Reckoner.Sequence.Groups
import Reckoner.Sequence.Rules
import Reckoner.Lexeme.Pattern
import Reckoner.Brackets
import Reckoner.Grammar
import Reckoner.Expr.Meaning
import Reckoner.Expr.Walk
import Reckoner.Expr.Operations
import Reckoner.Expr.Depth
import Reckoner.Expr.Whole
import Reckoner.Expr.Printer
import Reckoner.Evaluate
import Reckoner.Proofs.Printing
import Reckoner.Proofs.Composition
import Reckoner.Proofs.Sequence.Groups
import Reckoner.Proofs.Sequence.Nesting
import Reckoner.Proofs.Exactness
import Reckoner.Proofs.History
import Reckoner.Proofs.Reading.Walk
import Reckoner.Proofs.Mentions
import Reckoner.Proofs.Recursion
import Reckoner.Error.Justified
import Reckoner.Proofs.Errors
import Reckoner.Proofs.Reading.Continuation
import Reckoner.Proofs.Reading.Depth
import Reckoner.Proofs.Places
import Reckoner.Proofs.Chains
import Reckoner.Proofs.Sequence.Splitting
import Reckoner.Proofs.Extension
import Reckoner.Proofs.Words.Spelled
import Reckoner.Proofs.Positions
import Reckoner.Proofs.Registry
import Reckoner.Proofs.Readback.Integers
import Reckoner.Proofs.Readback.Reals
