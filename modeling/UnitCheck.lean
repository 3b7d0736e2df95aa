import UnitCheck.Attribute.Check
import UnitCheck.Batch
import UnitCheck.CommandLine
import UnitCheck.Datum.Basic
import UnitCheck.Datum.Reader
import UnitCheck.Declare.Collect
import UnitCheck.Declare.Signature
import UnitCheck.Diagnostic.Basic
import UnitCheck.Diagnostic.Listing
import UnitCheck.Finding.Basic
import UnitCheck.Finding.Wording
import UnitCheck.Flow.Graph
import UnitCheck.Flow.Returns
import UnitCheck.Lint.Unit
import UnitCheck.Main
import UnitCheck.Numeral.Binary64
import UnitCheck.Numeral.Integer
import UnitCheck.Numeral.Spelling
import UnitCheck.Options.Basic
import UnitCheck.Options.Filling
import UnitCheck.Options.Merge
import UnitCheck.Options.Reader
import UnitCheck.Pass
import UnitCheck.Proofs.Datum.Starts
import UnitCheck.Proofs.Declare.Frame
import UnitCheck.Proofs.Flow.Building
import UnitCheck.Proofs.Flow.Completion
import UnitCheck.Proofs.Flow.Missing
import UnitCheck.Proofs.Flow.Paths
import UnitCheck.Proofs.Lint.MissingReturn
import UnitCheck.Proofs.Lint.Placement
import UnitCheck.Proofs.Resolve.Binding
import UnitCheck.Proofs.Resolve.Frame
import UnitCheck.Proofs.Resolve.Written
import UnitCheck.Proofs.Scope.Stack
import UnitCheck.Proofs.Session.Passes
import UnitCheck.Proofs.Session.Permuted
import UnitCheck.Proofs.Session.Quiet
import UnitCheck.Proofs.Session.Trace
import UnitCheck.Proofs.Tree.Distinct
import UnitCheck.Proofs.Tree.Parts
import UnitCheck.Proofs.Tree.Sites
import UnitCheck.Proofs.Typing.Bodies
import UnitCheck.Proofs.Typing.Frame
import UnitCheck.Proofs.Typing.Soundness
import UnitCheck.Proofs.Typing.Units
import UnitCheck.Resolve
import UnitCheck.Run
import UnitCheck.Scenario.Basic
import UnitCheck.Scenario.Document
import UnitCheck.Scope.Member
import UnitCheck.Scope.Symbol
import UnitCheck.Scope.Table
import UnitCheck.Session.Basic
import UnitCheck.Session.WrittenType
import UnitCheck.Source.Span
import UnitCheck.Text.Bytes
import UnitCheck.Text.Lines
import UnitCheck.Text.Quoted
import UnitCheck.Text.Style
import UnitCheck.Tree.Decode
import UnitCheck.Tree.Expr
import UnitCheck.Tree.Fault
import UnitCheck.Tree.Item
import UnitCheck.Tree.Outline
import UnitCheck.Type.Basic
import UnitCheck.Type.Conversion
import UnitCheck.Type.Size
import UnitCheck.Typing.Expr
import UnitCheck.Typing.Globals
import UnitCheck.Typing.Operator
import UnitCheck.Typing.Place
import UnitCheck.Typing.Stmt
import UnitCheck.Verdict
import UnitCheck.Workspace
import UnitCheck.Yaml.Comment
import UnitCheck.Yaml.Cursor
import UnitCheck.Yaml.Fault
import UnitCheck.Yaml.Meaning
import UnitCheck.Yaml.Node
import UnitCheck.Yaml.Scalar
import UnitCheck.Yaml.Token
import UnitCheck.Yaml.TokenStream
import UnitCheck.Proofs.Declare.Isolation
import UnitCheck.Proofs.Resolve.Lockstep
import UnitCheck.Proofs.Typing.Lockstep
import UnitCheck.Proofs.Datum.Faults
import UnitCheck.Proofs.Datum.Lexemes
import UnitCheck.Proofs.Datum.Places
import UnitCheck.Proofs.Datum.RoundTrip
import UnitCheck.Proofs.Lint.Isolation
import UnitCheck.Proofs.Session.Isolation
import UnitCheck.Proofs.Typing.Silence
import UnitCheck.Proofs.Session.Strays
import UnitCheck.Proofs.Typing.Targets
import UnitCheck.Proofs.Typing.Tour
import UnitCheck.Proofs.Typing.Untyped
import UnitCheck.Proofs.Typing.Acyclic
import UnitCheck.Proofs.Typing.LiteralTypes
import UnitCheck.Proofs.Session.Respelling
import UnitCheck.Proofs.Declare.Founded
import UnitCheck.Proofs.Session.Options
import UnitCheck.Proofs.Session.Schedule
import UnitCheck.Proofs.Declare.Expanded
import UnitCheck.Proofs.Session.Sourced
import UnitCheck.Proofs.Resolve.Structs
import UnitCheck.Proofs.Typing.Structs
import UnitCheck.Proofs.Lint.Ending
import UnitCheck.Proofs.Tree.Statements
import UnitCheck.Proofs.Lint.Agreement
import UnitCheck.Proofs.Tree.Operands
import UnitCheck.Proofs.Type.Widening
import UnitCheck.Proofs.Type.Conversions
import UnitCheck.Proofs.Type.Sizes
import UnitCheck.Proofs.Declare.Sizes
import UnitCheck.Proofs.Scope.Path
import UnitCheck.Proofs.Attribute.Regular
import UnitCheck.Proofs.Attribute.Reach
import UnitCheck.Proofs.Declare.Globals
import UnitCheck.Proofs.Session.Rejected
import UnitCheck.Proofs.Numeral.Recognition
import UnitCheck.Proofs.Text.ControlSequences
import UnitCheck.Proofs.Scenario.Sections
import UnitCheck.Proofs.Diagnostic.Underlining
