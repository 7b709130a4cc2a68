import DartSource.Assoc
import DartSource.Const.Converters
import DartSource.Const.Value
import DartSource.Declaration.Basic
import DartSource.Declaration.Class
import DartSource.Declaration.Enum
import DartSource.Declaration.Extension
import DartSource.Declaration.Mixin
import DartSource.Declaration.Supertype
import DartSource.Declaration.Variable
import DartSource.Directive.Basic
import DartSource.Directive.Pending
import DartSource.Fault
import DartSource.Formatting.Formatter
import DartSource.Layout.Banner
import DartSource.Layout.Fragment
import DartSource.Layout.Indent
import DartSource.Layout.Sink
import DartSource.Location.Asset
import DartSource.Location.Path
import DartSource.Location.Resolver
import DartSource.Location.Uri
import DartSource.Lowering.Declaration
import DartSource.Lowering.Failure
import DartSource.Lowering.Flags
import DartSource.Lowering.Library
import DartSource.Lowering.Member
import DartSource.Member.Accessor
import DartSource.Member.Basic
import DartSource.Member.Constructor
import DartSource.Member.Initializer
import DartSource.Member.Method
import DartSource.Member.Property
import DartSource.Member.Rank
import DartSource.Number.Double
import DartSource.Number.Read
import DartSource.Number.Shortest
import DartSource.Output.FileTree
import DartSource.Output.Write
import DartSource.Proofs.Brackets
import DartSource.Proofs.Layout.Balance
import DartSource.Proofs.Layout.Pieces
import DartSource.Proofs.Location.Reachability
import DartSource.Proofs.Location.Segments
import DartSource.Proofs.Location.Ways
import DartSource.Proofs.Lowering.Alike
import DartSource.Proofs.Lowering.Description
import DartSource.Proofs.Lowering.Faithful
import DartSource.Proofs.Lowering.Flags
import DartSource.Proofs.Lowering.Relocation
import DartSource.Proofs.Member.Constructor
import DartSource.Proofs.Member.Legality
import DartSource.Proofs.Member.Rank
import DartSource.Proofs.Node.Built
import DartSource.Proofs.Node.Content
import DartSource.Proofs.Node.Staged
import DartSource.Proofs.Rule
import DartSource.Proofs.WellBracketed
import DartSource.Record.Basic
import DartSource.Record.Decode
import DartSource.Record.Encode
import DartSource.Record.Fields
import DartSource.Record.Modifier
import DartSource.Record.Value
import DartSource.Rule
import DartSource.Script.Command
import DartSource.Script.Editor
import DartSource.Script.Evaluation
import DartSource.Script.Pattern
import DartSource.Script.Print
import DartSource.Script.Program
import DartSource.Script.Reader
import DartSource.Script.Shell
import DartSource.Script.Tool
import DartSource.Script.Toolbox
import DartSource.Signature.Body
import DartSource.Signature.Callable
import DartSource.Signature.Meta
import DartSource.Signature.Param
import DartSource.Signature.TypeParam
import DartSource.SourceFile
import DartSource.Text.Blank
import DartSource.Text.Identifier
import DartSource.Text.Lines
import DartSource.Text.Lossy
import DartSource.Text.Quoted
import DartSource.Tree.Basic
import DartSource.Tree.Json
import DartSource.Tree.Toml.Depth
import DartSource.Tree.Toml.Document
import DartSource.Tree.Toml.Scalar
import DartSource.Tree.Toml.Table
import DartSource.Tree.Toml.Token
import DartSource.Tree.Toml.Value
import DartSource.Proofs.Lowering.Composition
import DartSource.Proofs.Const.Unambiguous
import DartSource.Proofs.Layout.Indentation
import DartSource.Proofs.Text.Avoidance
import DartSource.Proofs.Directive.Encoding
import DartSource.Proofs.Location.Canonical
import DartSource.Proofs.Lowering.Legality
import DartSource.Proofs.Lowering.DirectiveLines
import DartSource.Proofs.Node.Reached
import DartSource.Proofs.Node.Hygiene
import DartSource.Proofs.Text.Rows
import DartSource.Proofs.Layout.Tidy
import DartSource.Proofs.Node.Tidy
import DartSource.Proofs.Layout.Framed
import DartSource.Proofs.Declaration.Body
import DartSource.Proofs.Node.Closing
import DartSource.Proofs.File.Assembly
import DartSource.Proofs.Signature.Interleaving
import DartSource.Proofs.Signature.Callables
import DartSource.Proofs.Signature.Placement
import DartSource.Proofs.Assoc
import DartSource.Proofs.Const.Registration
import DartSource.Proofs.Directive.Resolution
import DartSource.Proofs.Node.Sequence
import DartSource.Proofs.Lowering.Reordering
import DartSource.Proofs.Output.Growth
import DartSource.Proofs.Output.Requests
import DartSource.Proofs.Record.Constants
import DartSource.Proofs.Record.Members
import DartSource.Proofs.Record.RoundTrip
import DartSource.Proofs.Record.WellFormed
import DartSource.Proofs.Text.Literal
import DartSource.Proofs.Const.MissingTags
import DartSource.Proofs.Declaration.Legality
import DartSource.Proofs.Declaration.Constants
import DartSource.Proofs.Lowering.PathText
import DartSource.Proofs.Lowering.Address
import DartSource.Proofs.Node.Verbatim
import DartSource.Proofs.Lowering.InitialValue
import DartSource.Proofs.Location.Separators
import DartSource.Proofs.Location.IdleSteps
import DartSource.Proofs.Text.LineBreaks
import DartSource.Proofs.Layout.DocComments
import DartSource.Proofs.File.Header
import DartSource.Proofs.Node.Undocumented
import DartSource.Proofs.Location.Concatenation
import DartSource.Proofs.Declaration.Clauses
import DartSource.Proofs.Text.Lossy
import DartSource.Proofs.Formatting.Programs
