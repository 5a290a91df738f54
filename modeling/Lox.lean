import Lox.Automaton.Parse
import Lox.Automaton.State
import Lox.Cli.Basic
import Lox.Cli.Files
import Lox.Cli.Path
import Lox.Cli.Request
import Lox.Cli.Stages
import Lox.Descent.Cursor
import Lox.Descent.Operation
import Lox.Descent.Parse
import Lox.Diagnostic
import Lox.Evaluation
import Lox.Expr.Basic
import Lox.Expr.Render
import Lox.Highlight
import Lox.Log
import Lox.Main
import Lox.Number.Binary
import Lox.Number.Decimal
import Lox.Number.Layout
import Lox.Number.Numeral
import Lox.Number.Shortest
import Lox.Pipeline
import Lox.Precedence
import Lox.Proofs.Agreement
import Lox.Proofs.Automaton.Driver
import Lox.Proofs.Automaton.Whole
import Lox.Proofs.Cli.Arguments
import Lox.Proofs.Cli.Decision
import Lox.Proofs.Cli.Lookup
import Lox.Proofs.Cli.Report
import Lox.Proofs.Concatenation
import Lox.Proofs.Consumption
import Lox.Proofs.Descent.Exactness
import Lox.Proofs.Descent.Mirroring
import Lox.Proofs.Descent.Onward
import Lox.Proofs.Descent.Operations
import Lox.Proofs.Descent.Recovery
import Lox.Proofs.Descent.Relabelling
import Lox.Proofs.Descent.Rules
import Lox.Proofs.Descent.Simulation
import Lox.Proofs.Display
import Lox.Proofs.Distinction
import Lox.Proofs.Document
import Lox.Proofs.Enclosure
import Lox.Proofs.Evaluation.Safety
import Lox.Proofs.Evaluation.StaticKind
import Lox.Proofs.Evaluation.WellFormed
import Lox.Proofs.Grammar.Derivation
import Lox.Proofs.Grammar.Recognition
import Lox.Proofs.Grammar.Viability
import Lox.Proofs.Highlight
import Lox.Proofs.Lexical.Cuts
import Lox.Proofs.Lexical.Failure
import Lox.Proofs.Lexical.Joining
import Lox.Proofs.Lexical.Layout
import Lox.Proofs.Lexical.LongestMatch
import Lox.Proofs.Lexical.Places
import Lox.Proofs.Lexical.Progress
import Lox.Proofs.Lexical.Resumption
import Lox.Proofs.Lexical.Rules
import Lox.Proofs.Lexical.Scannable
import Lox.Proofs.Lexical.Scanner
import Lox.Proofs.Lexical.Spelling
import Lox.Proofs.Lexical.Stripping
import Lox.Proofs.Lexical.Terminals
import Lox.Proofs.Likeness
import Lox.Proofs.Lines
import Lox.Proofs.Number.Comparable
import Lox.Proofs.Number.Division
import Lox.Proofs.Number.Equality
import Lox.Proofs.Number.Packing
import Lox.Proofs.Number.Positional
import Lox.Proofs.Number.Rounding
import Lox.Proofs.Relayout
import Lox.Proofs.Rendering.Indented
import Lox.Proofs.Rendering.Parenthesized
import Lox.Proofs.Session.Commands
import Lox.Proofs.Session.Expressions
import Lox.Proofs.Session.Invisible
import Lox.Proofs.Silence
import Lox.Proofs.Text.Inspection
import Lox.Proofs.Text.Quotation
import Lox.Proofs.Text.Trim
import Lox.Scan.Cursor
import Lox.Scan.Lexeme
import Lox.Scan.Operation
import Lox.Session.Basic
import Lox.Session.Command
import Lox.Session.Completion
import Lox.Text.Blank
import Lox.Text.Digits
import Lox.Text.Inspected
import Lox.Text.Letters
import Lox.Text.Newlines
import Lox.Text.Printable
import Lox.Text.Quoted
import Lox.Text.Ranges
import Lox.Token.Basic
import Lox.Token.Kind
import Lox.Token.Terminal
import Lox.Transcript
import Lox.Value
