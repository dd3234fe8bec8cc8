import Retype.CommandLine.Options
import Retype.CommandLine.Run
import Retype.Comments
import Retype.Conversion
import Retype.Convert.Declaration
import Retype.Convert.Name
import Retype.Convert.Type
import Retype.Convert.Utility
import Retype.Diagnostic
import Retype.Failure
import Retype.File.Disk
import Retype.File.Tree
import Retype.Grammar.Automaton
import Retype.Grammar.Basic
import Retype.Grammar.Declaration
import Retype.Grammar.Derivation
import Retype.Grammar.Expression
import Retype.Grammar.Program
import Retype.Grammar.Rules
import Retype.Grammar.Statement
import Retype.Grammar.Table
import Retype.Grammar.TypeExpression
import Retype.Main
import Retype.Node.Basic
import Retype.Node.Chain
import Retype.Node.Datum
import Retype.Node.Fold
import Retype.Node.Form
import Retype.Node.Operator
import Retype.Node.Parts
import Retype.Node.Walk
import Retype.Outcome
import Retype.OutputMode
import Retype.Parser
import Retype.Pass.Annotation
import Retype.Pass.Basic
import Retype.Pass.Desugar
import Retype.Pass.Rule
import Retype.Pass.Statement
import Retype.Printer.Layout
import Retype.Printer.Program
import Retype.Printer.Tree
import Retype.Program
import Retype.Proofs.CommandLine.Batch
import Retype.Proofs.CommandLine.Isolation
import Retype.Proofs.Convert.Argument
import Retype.Proofs.Convert.Capture
import Retype.Proofs.Convert.Closed
import Retype.Proofs.Convert.Helper
import Retype.Proofs.Convert.Loss
import Retype.Proofs.Convert.Object
import Retype.Proofs.Convert.ParameterName
import Retype.Proofs.Convert.Step
import Retype.Proofs.Convert.Type
import Retype.Proofs.Convert.Yield
import Retype.Proofs.File.Extension
import Retype.Proofs.File.Place
import Retype.Proofs.LineBreak
import Retype.Proofs.Location
import Retype.Proofs.Meaning.Evaluation
import Retype.Proofs.Meaning.Preservation
import Retype.Proofs.Parse.Automaton
import Retype.Proofs.Parse.Beside
import Retype.Proofs.Parse.Comments
import Retype.Proofs.Parse.Grammar
import Retype.Proofs.Parse.Grid
import Retype.Proofs.Parse.Lines
import Retype.Proofs.Parse.Machine
import Retype.Proofs.Parse.Reading
import Retype.Proofs.Pass.After
import Retype.Proofs.Pass.Declared
import Retype.Proofs.Pass.Desugar
import Retype.Proofs.Pass.Erasure
import Retype.Proofs.Pass.Exposed
import Retype.Proofs.Pass.Order
import Retype.Proofs.Pass.Receiver
import Retype.Proofs.Pass.Review
import Retype.Proofs.Pass.Rewriting
import Retype.Proofs.Pass.Settled
import Retype.Proofs.Pass.Spent
import Retype.Proofs.Pass.Stage
import Retype.Proofs.Pass.Stray
import Retype.Proofs.Pass.Turn
import Retype.Proofs.Printer.Cast
import Retype.Proofs.Printer.Expression
import Retype.Proofs.Printer.Prints
import Retype.Proofs.Printer.Statement
import Retype.Proofs.Printer.StringLiteral
import Retype.Proofs.Printer.Type
import Retype.Proofs.Token.Alone
import Retype.Proofs.Token.Apart
import Retype.Proofs.Token.Behind
import Retype.Proofs.Token.Border
import Retype.Proofs.Token.Brace
import Retype.Proofs.Token.Bracket
import Retype.Proofs.Token.Break
import Retype.Proofs.Token.Exact
import Retype.Proofs.Token.Filled
import Retype.Proofs.Token.LineBreak
import Retype.Proofs.Token.Literal
import Retype.Proofs.Token.Lossless
import Retype.Proofs.Token.Lowered
import Retype.Proofs.Token.Measure
import Retype.Proofs.Token.Nesting
import Retype.Proofs.Token.Order
import Retype.Proofs.Token.Scan
import Retype.Proofs.Token.Settled
import Retype.Proofs.Token.Shift
import Retype.Proofs.Token.Stream
import Retype.Proofs.Token.Sync
import Retype.Proofs.Transform
import Retype.Proofs.Tree.Descent
import Retype.Proofs.Tree.Layer
import Retype.Proofs.Tree.Role
import Retype.Proofs.Tree.Walk
import Retype.Proofs.Voice.Attached
import Retype.Proofs.Voice.Basic
import Retype.Proofs.Voice.Conversion
import Retype.Proofs.Voice.Hung
import Retype.Proofs.Voice.Kept
import Retype.Proofs.Voice.Lost
import Retype.Proofs.Voice.Pass
import Retype.Proofs.Voice.Read
import Retype.Proofs.Voice.Rewrite
import Retype.Proofs.Voice.Spot
import Retype.Proofs.Voice.Text
import Retype.Source
import Retype.Text.Cased
import Retype.Text.Digit
import Retype.Text.Letter
import Retype.Text.Lower
import Retype.Text.Printable
import Retype.Text.Quoted
import Retype.Text.Utf8
import Retype.Text.Word
import Retype.Token.Basic
import Retype.Token.Bracket
import Retype.Token.Context
import Retype.Token.Expand
import Retype.Token.Kind
import Retype.Token.Lexer
import Retype.Token.Semicolon
import Retype.Token.Stream
import Retype.Token.Template
import Retype.Transform
