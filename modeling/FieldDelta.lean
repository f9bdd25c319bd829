import FieldDelta.Admission
import FieldDelta.BuildRun
import FieldDelta.Candidate
import FieldDelta.Compilation
import FieldDelta.Decimal.Binary64
import FieldDelta.Decimal.Notation
import FieldDelta.Decimal.Numeral
import FieldDelta.Decimal.Shortest
import FieldDelta.Delta.Comparison
import FieldDelta.Delta.Property
import FieldDelta.Description
import FieldDelta.Descriptor
import FieldDelta.Diagnostic
import FieldDelta.Discovery
import FieldDelta.Files.Path
import FieldDelta.Files.Tree
import FieldDelta.Graph
import FieldDelta.Identity
import FieldDelta.Layout
import FieldDelta.Marker
import FieldDelta.Model.Samples
import FieldDelta.Model.Schema
import FieldDelta.Model.Value
import FieldDelta.Model.ValueType
import FieldDelta.Naming
import FieldDelta.Options
import FieldDelta.Output
import FieldDelta.Output.DeltaUnit
import FieldDelta.Output.Manifest
import FieldDelta.Output.SupportUnit
import FieldDelta.Proofs.Description
import FieldDelta.Proofs.Graph.Assembly
import FieldDelta.Proofs.Graph.Membership
import FieldDelta.Proofs.Query.Asking
import FieldDelta.Proofs.Query.Run
import FieldDelta.Proofs.Query.Soundness
import FieldDelta.Proofs.Query.Validity
import FieldDelta.Query.Evaluation
import FieldDelta.Query.Machine
import FieldDelta.Query.Store
import FieldDelta.Rehoming
import FieldDelta.Resolution
import FieldDelta.Scope
import FieldDelta.Session
import FieldDelta.Syntax.Grammar.Attribute
import FieldDelta.Syntax.Grammar.Bound
import FieldDelta.Syntax.Grammar.Declaration
import FieldDelta.Syntax.Grammar.Expression
import FieldDelta.Syntax.Grammar.FieldName
import FieldDelta.Syntax.Grammar.Function
import FieldDelta.Syntax.Grammar.Import
import FieldDelta.Syntax.Grammar.Item
import FieldDelta.Syntax.Grammar.Member
import FieldDelta.Syntax.Grammar.Operator
import FieldDelta.Syntax.Grammar.Path
import FieldDelta.Syntax.Grammar.Pattern
import FieldDelta.Syntax.Grammar.Rules
import FieldDelta.Syntax.Grammar.Statement
import FieldDelta.Syntax.Grammar.Type
import FieldDelta.Syntax.Item
import FieldDelta.Syntax.Lexer
import FieldDelta.Syntax.Literal
import FieldDelta.Syntax.Parse
import FieldDelta.Syntax.Phrase
import FieldDelta.Syntax.Reader
import FieldDelta.Syntax.Token
import FieldDelta.Text.Quoted
import FieldDelta.Text.Segments
import FieldDelta.Text.Sorted
import FieldDelta.Text.Substitution
import FieldDelta.Unicode.Alphanumeric
import FieldDelta.Unicode.Identifier
import FieldDelta.Unicode.Lowercase
import FieldDelta.Unicode.Printable
import FieldDelta.Unicode.Ranges
import FieldDelta.Proofs.Delta.Nesting
import FieldDelta.Proofs.Delta.Paths
import FieldDelta.Proofs.Model.Exactness
import FieldDelta.Proofs.Delta.LeafMap
import FieldDelta.Proofs.Delta.Leaves
import FieldDelta.Proofs.Delta.Views
import FieldDelta.Proofs.Rehoming.Leaves
import FieldDelta.Proofs.Rehoming.Readings
import FieldDelta.Proofs.Compilation
import FieldDelta.Proofs.Generation.FileNames
import FieldDelta.Proofs.Generation.Accounting
import FieldDelta.Proofs.Resolution.BareNames
import FieldDelta.Proofs.Graph.Claims
import FieldDelta.Proofs.Generation.InputOrder
import FieldDelta.Proofs.Generation.Edits
import FieldDelta.Proofs.Resolution.Imports
import FieldDelta.Proofs.Resolution.Renaming
import FieldDelta.Proofs.Resolution.Marks
import FieldDelta.Proofs.Resolution.RawNames
import FieldDelta.Proofs.Query.Execution
import FieldDelta.Proofs.Query.Cutoff
import FieldDelta.Proofs.Sessions
import FieldDelta.Proofs.Files.Paths
import FieldDelta.Proofs.Discovery
import FieldDelta.Proofs.Syntax.Advances
import FieldDelta.Proofs.Syntax.Words
import FieldDelta.Proofs.Files.Writing
import FieldDelta.Proofs.Sessions.Sources
import FieldDelta.Proofs.BuildRun
import FieldDelta.Proofs.Quoting
import FieldDelta.Proofs.Generation.ItemNames
import FieldDelta.Proofs.Generation.Manifests
import FieldDelta.Proofs.Generation.Moving
import FieldDelta.Proofs.Resolution.Anchors
import FieldDelta.Proofs.Resolution.Climbing
import FieldDelta.Proofs.Generation.Hygiene
import FieldDelta.Proofs.Naming
import FieldDelta.Proofs.Syntax.FieldNames
import FieldDelta.Proofs.Description.Members
import FieldDelta.Proofs.Syntax.Literals
import FieldDelta.Proofs.Syntax.Leaves
import FieldDelta.Proofs.Syntax.Lexemes
import FieldDelta.Proofs.Syntax.Consumes
import FieldDelta.Proofs.Syntax.Writing
import FieldDelta.Proofs.Syntax.Grammar
import FieldDelta.Proofs.Text.Substitution
import FieldDelta.Proofs.Rehoming.Pieces
import FieldDelta.Proofs.Rehoming.Compaction
import FieldDelta.Proofs.Rehoming.Spelling
import FieldDelta.Proofs.Marker
import FieldDelta.Proofs.Discovery.Termination
import FieldDelta.Proofs.Syntax.TypeNames
import FieldDelta.Proofs.Resolution.Siblings
import FieldDelta.Proofs.Delta.Mirror
import FieldDelta.Proofs.Delta.Equality
import FieldDelta.Proofs.Marker.Splitting
import FieldDelta.Proofs.Naming.Legality
import FieldDelta.Proofs.Options
import FieldDelta.Proofs.Syntax.ModuleNames
import FieldDelta.Proofs.Generation.GeneratedNames
import FieldDelta.Proofs.Generation.EmittedPaths
import FieldDelta.Proofs.Marker.Keys
import FieldDelta.Proofs.Generation.SingleLines
import FieldDelta.Proofs.Syntax.QuotedText
import FieldDelta.Proofs.BuildRun.Failures
import FieldDelta.Proofs.Generation.IncludedFiles
import FieldDelta.Proofs.BuildRun.Repetition
import FieldDelta.Proofs.Generation.Nesting
import FieldDelta.Proofs.Layout
import FieldDelta.Proofs.Text.Brackets
import FieldDelta.Proofs.Files.Extending
import FieldDelta.Proofs.Discovery.Probes
