import Formula.Text.Blank
import Formula.Text.Digit
import Formula.Text.Printable
import Formula.Text.Quoted
import Formula.Text.Lines
import Formula.Number.Binary64.Basic
import Formula.Number.Binary64.Arithmetic
import Formula.Number.Binary64.Shortest
import Formula.Number.Rounding
import Formula.Number.Decimal.Basic
import Formula.Number.Decimal.Arithmetic
import Formula.Number.Numeral
import Formula.Number.Binary64.Reader
import Formula.Number.Decimal.Reader
import Formula.Number.Fraction
import Formula.Json.Basic
import Formula.Json.Printer
import Formula.Json.Reader
import Formula.Error
import Formula.Value.Basic
import Formula.Fault
import Formula.StructuredError
import Formula.Value.Arithmetic
import Formula.Value.Division
import Formula.Value.Literal
import Formula.Source.Cursor
import Formula.Source.Lexeme
import Formula.Expression.Tree
import Formula.Expression.Reading
import Formula.Expression.Symbols
import Formula.Expression.Outline
import Formula.Callback.Signature
import Formula.Expression.Session
import Formula.Callback.Primitive
import Formula.Callback.Script
import Formula.Number.Kind
import Formula.Config.Basic
import Formula.Number.Binary64.Functions
import Formula.Number.Binary64.Machine
import Formula.Number.Binary64.Gamma
import Formula.Number.Series
import Formula.Number.Binary64.Special
import Formula.Callback.Mathematics
import Formula.Value.Order
import Formula.Number.Decimal.Power
import Formula.Callback.General
import Formula.Files.Path
import Formula.Files.Snapshot
import Formula.Yaml.Place
import Formula.Yaml.Binary
import Formula.Yaml.Scalar
import Formula.Yaml.Token
import Formula.Yaml.Document
import Formula.Config.Document
import Formula.Config.Loading
import Formula.CommandLine.Form
import Formula.CommandLine.Piece
import Formula.CommandLine.Request
import Formula.CommandLine.Evaluation
import Formula.CommandLine.Report
import Formula.Main
import Formula.Proofs.Grammar.Phrase
import Formula.Proofs.Grammar.Lexing
import Formula.Proofs.Grammar.Completeness
import Formula.Proofs.Grammar.Soundness
import Formula.Proofs.Grammar.Unambiguity
import Formula.Proofs.Symbols
import Formula.Proofs.Grammar.Exactness
import Formula.Proofs.Session.Binding
import Formula.Proofs.Session.Evaluation
import Formula.Proofs.Session.Recording
import Formula.Proofs.Session.History
import Formula.Proofs.Callback.Rebinding
import Formula.Proofs.Session.Independence
import Formula.Proofs.Grammar.Calculation
import Formula.Proofs.Session.Exactness
import Formula.Proofs.Grammar.Automaton
import Formula.Proofs.Grammar.Lookahead
import Formula.Proofs.Grammar.Refusal
import Formula.Proofs.Session.Policies
import Formula.Proofs.Value.ZeroDivision
import Formula.Proofs.Value.Typing
import Formula.Proofs.Session.Typing
import Formula.Proofs.Grammar.Occurrences
import Formula.Proofs.Session.SymbolTable
import Formula.Proofs.Callback.Parameters
import Formula.Proofs.Session.Arity
import Formula.Proofs.Grammar.Whitespace
import Formula.Proofs.Number.Overflow
import Formula.Proofs.Value.Quotients
import Formula.Proofs.Number.Conversion
import Formula.Proofs.Grammar.Conversion
import Formula.Proofs.Session.CallOrder
import Formula.Proofs.Grammar.Calls
import Formula.Proofs.Session.FunctionOrder
import Formula.Proofs.Json.Reading
import Formula.Proofs.Config.Loading
import Formula.Proofs.Value.Printing
import Formula.Proofs.Session.Outline
import Formula.Proofs.Session.Atomicity
import Formula.Proofs.Text.Encoding
import Formula.Proofs.CommandLine.FileSource
import Formula.Proofs.Callback.Mathematics
import Formula.Proofs.Value.Closure
import Formula.Proofs.Session.Closure
import Formula.Proofs.Json.Writing
import Formula.Proofs.Session.Literals
import Formula.Proofs.CommandLine.Printing
import Formula.Proofs.CommandLine.Evaluation
import Formula.Proofs.CommandLine.Logging
import Formula.Proofs.CommandLine.Escapes
import Formula.Proofs.Session.RoundTrip
import Formula.Proofs.Session.FirstUnbound
import Formula.Proofs.CommandLine.Mathematics
import Formula.Proofs.CommandLine.Blame
import Formula.Proofs.Files.Path
import Formula.Proofs.Config.Nearest
import Formula.Proofs.Json.Literals
import Formula.Proofs.Json.RoundTrip
import Formula.Proofs.Json.Errors
import Formula.Proofs.CommandLine.Formats
import Formula.Proofs.CommandLine.Course
import Formula.Proofs.Source.Cursor
import Formula.Proofs.Grammar.LongestMatch
import Formula.Proofs.Grammar.Descent
import Formula.Proofs.Grammar.Progress
import Formula.Proofs.Grammar.AtCursor
import Formula.Proofs.Grammar.Agreement
import Formula.Proofs.Grammar.Termination
import Formula.Proofs.Session.Slots
