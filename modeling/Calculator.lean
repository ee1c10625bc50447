import Calculator.Evaluation.Cursor
import Calculator.Main
import Calculator.Proofs.Evaluation.Progress
import Calculator.Grammar.Meaning
import Calculator.Token.Fields
import Calculator.Proofs.Evaluation.Tree
import Calculator.Proofs.Evaluation.Acceptance
import Calculator.Proofs.Text.Classes
import Calculator.Proofs.Token.Tokenization
import Calculator.Proofs.Trig.Angle
import Calculator.Proofs.Calculation.Failures
import Calculator.Proofs.Evaluation.Span
import Calculator.Proofs.Evaluation.Lookahead
import Calculator.Proofs.Evaluation.Depth
import Calculator.Proofs.Evaluation.Moves
import Calculator.Proofs.Evaluation.Replay
import Calculator.Proofs.Calculation.Queries
import Calculator.Proofs.Resolver.Console
import Calculator.Resolver.Session
import Calculator.Proofs.Resolver.Session
import Calculator.Proofs.Calculation.Repetition
import Calculator.Proofs.Evaluation.Record
import Calculator.Proofs.Evaluation.Derivation
import Calculator.Proofs.Grammar.Nesting
import Calculator.Grammar.Substitution
import Calculator.Grammar.Value
import Calculator.Proofs.Grammar.Substitution
import Calculator.Proofs.Evaluation.Table
import Calculator.Proofs.Evaluation.Substitution
import Calculator.Proofs.Calculation.Composition
import Calculator.Proofs.Token.Layout
import Calculator.Proofs.Calculation.Layout
import Calculator.Proofs.Evaluation.Nesting
import Calculator.Proofs.Token.Stray
import Calculator.Proofs.Evaluation.Placement
import Calculator.Proofs.Calculation.Placement
import Calculator.Proofs.Resolver.Valuation
import Calculator.Proofs.Command.Invocation
import Calculator.Proofs.Command.Evaluation
import Calculator.Proofs.Calculation.Faults
import Calculator.Proofs.Command.Endings
import Calculator.Proofs.Evaluation.Unanswered
import Calculator.Proofs.Token.Juxtaposition
import Calculator.Proofs.Command.Unreadable
import Calculator.Proofs.Decimal.Nearest
import Calculator.Proofs.Decimal.Rounding
import Calculator.Proofs.Decimal.Reading
import Calculator.Proofs.Evaluation.Number
import Calculator.Proofs.Calculation.Agreement
import Calculator.Bindings.Session
import Calculator.Proofs.Bindings.Session
import Calculator.Proofs.Assignment.Checks
import Calculator.Proofs.Settings.Contents
import Calculator.Proofs.Excerpt
import Calculator.Error.Notice
import Calculator.Proofs.Error.Notice
import Calculator.Proofs.Command.Prompting
import Calculator.Proofs.Toml.Definition
import Calculator.Proofs.Calculation.Naming
import Calculator.Proofs.Surroundings.Level
import Calculator.Proofs.Version
import Calculator.Proofs.Evaluation.Extent
