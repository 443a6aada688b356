import GoScaffold.CommandLine.Command
import GoScaffold.CommandLine.Display
import GoScaffold.CommandLine.Grammar
import GoScaffold.CommandLine.Layout
import GoScaffold.CommandLine.Run
import GoScaffold.Decimal.Double
import GoScaffold.Decimal.Number
import GoScaffold.Decimal.Written
import GoScaffold.Entity.Basic
import GoScaffold.Entity.Scope
import GoScaffold.Field.Basic
import GoScaffold.Field.Classification
import GoScaffold.Field.Descriptor
import GoScaffold.Field.Layout
import GoScaffold.FieldType.Basic
import GoScaffold.FieldType.Catalog
import GoScaffold.FieldType.Sample
import GoScaffold.Generation.Report
import GoScaffold.Generation.Request
import GoScaffold.Generation.Run
import GoScaffold.GoSource.Block
import GoScaffold.GoSource.Imports
import GoScaffold.Json.Basic
import GoScaffold.Json.Reader
import GoScaffold.Json.Writer
import GoScaffold.Layer.Basic
import GoScaffold.Layer.Domain
import GoScaffold.Layer.Piece
import GoScaffold.Layer.Repository
import GoScaffold.Layer.Roster
import GoScaffold.Logging
import GoScaffold.Main
import GoScaffold.Naming.GoName
import GoScaffold.Naming.Spelling
import GoScaffold.OrderedMap
import GoScaffold.Proofs.Entity.Described
import GoScaffold.Proofs.Field.Grammar
import GoScaffold.Proofs.Field.Layout
import GoScaffold.Proofs.Field.RoundTrip
import GoScaffold.Proofs.Field.Seed
import GoScaffold.Proofs.Field.Term
import GoScaffold.Proofs.FieldType.History
import GoScaffold.Proofs.FieldType.Sample
import GoScaffold.Proofs.Generation.Aborted
import GoScaffold.Proofs.Generation.Consistency
import GoScaffold.Proofs.Generation.Declared
import GoScaffold.Proofs.Generation.Drafts
import GoScaffold.Proofs.Generation.DryRun
import GoScaffold.Proofs.Generation.ErrorCatalog
import GoScaffold.Proofs.Generation.Isolation
import GoScaffold.Proofs.Generation.Layerwise
import GoScaffold.Proofs.Generation.Ownership
import GoScaffold.Proofs.Generation.Run
import GoScaffold.Proofs.GoSource.Binding
import GoScaffold.Proofs.GoSource.Block
import GoScaffold.Proofs.GoSource.Filling
import GoScaffold.Proofs.GoSource.Imports
import GoScaffold.Proofs.GoSource.Literal
import GoScaffold.Proofs.GoSource.Rescanned
import GoScaffold.Proofs.Layer.Accepted
import GoScaffold.Proofs.Layer.Block
import GoScaffold.Proofs.Layer.Built
import GoScaffold.Proofs.Layer.EntityText
import GoScaffold.Proofs.Layer.ErrorCatalog
import GoScaffold.Proofs.Layer.HandlerBinding
import GoScaffold.Proofs.Layer.Imported
import GoScaffold.Proofs.Layer.InputOutput
import GoScaffold.Proofs.Layer.Marker
import GoScaffold.Proofs.Layer.Registration
import GoScaffold.Proofs.Layer.Reopened
import GoScaffold.Proofs.Layer.Repository
import GoScaffold.Proofs.Layer.RepositoryBinding
import GoScaffold.Proofs.Layer.Roster
import GoScaffold.Proofs.Layer.Selection
import GoScaffold.Proofs.Layer.Shadowed
import GoScaffold.Proofs.Layer.SharedText
import GoScaffold.Proofs.Layer.TypeLine
import GoScaffold.Proofs.Layer.Variable
import GoScaffold.Proofs.Naming.Plural
import GoScaffold.Proofs.Naming.Respelled
import GoScaffold.Proofs.Naming.Segmentation
import GoScaffold.Proofs.Naming.TypeName
import GoScaffold.Proofs.Naming.Words
import GoScaffold.Proofs.Sequence
import GoScaffold.Proofs.Settings.Effective
import GoScaffold.Proofs.Settings.ModuleFile
import GoScaffold.Proofs.Settings.Saved
import GoScaffold.Proofs.SharedFile.Closer
import GoScaffold.Proofs.SharedFile.Growth
import GoScaffold.Proofs.SharedFile.Kept
import GoScaffold.Proofs.SharedFile.OwnBlock
import GoScaffold.Proofs.SharedFile.Run
import GoScaffold.Proofs.Template.FileName
import GoScaffold.Proofs.Template.History
import GoScaffold.Proofs.Template.Materialized
import GoScaffold.Proofs.Template.Press
import GoScaffold.Proofs.Template.Shared
import GoScaffold.Proofs.Template.Statement
import GoScaffold.Proofs.Template.Transparent
import GoScaffold.Proofs.Text.Lines
import GoScaffold.Proofs.Text.LowerCase
import GoScaffold.Proofs.Text.Numeral
import GoScaffold.Proofs.Text.Occurrence
import GoScaffold.Proofs.Text.Pieces
import GoScaffold.Proofs.Text.PlainLines
import GoScaffold.Proofs.Text.Trim
import GoScaffold.Proofs.Workspace.Merged
import GoScaffold.Proofs.Workspace.Neighbour
import GoScaffold.Proofs.Workspace.Whole
import GoScaffold.Proofs.Workspace.Written
import GoScaffold.Settings.Advice
import GoScaffold.Settings.Basic
import GoScaffold.Settings.Custom
import GoScaffold.Settings.Layered
import GoScaffold.Settings.Saved
import GoScaffold.SharedFile.Merge
import GoScaffold.Template.Builtin
import GoScaffold.Template.Compile
import GoScaffold.Template.Constant
import GoScaffold.Template.Escape
import GoScaffold.Template.Evaluation
import GoScaffold.Template.Expr
import GoScaffold.Template.Fault
import GoScaffold.Template.Filter
import GoScaffold.Template.Helper
import GoScaffold.Template.Member
import GoScaffold.Template.Method
import GoScaffold.Template.Names
import GoScaffold.Template.Operator
import GoScaffold.Template.Percent
import GoScaffold.Template.Reader
import GoScaffold.Template.Relation
import GoScaffold.Template.Scan
import GoScaffold.Template.Shelf
import GoScaffold.Template.Token
import GoScaffold.Template.Value
import GoScaffold.Template.Vocabulary
import GoScaffold.Text.Alphanumeric
import GoScaffold.Text.Blank
import GoScaffold.Text.Boundary
import GoScaffold.Text.Casing
import GoScaffold.Text.CharacterName
import GoScaffold.Text.CharacterName.Ancient
import GoScaffold.Text.CharacterName.East
import GoScaffold.Text.CharacterName.Europe
import GoScaffold.Text.CharacterName.Picture
import GoScaffold.Text.CharacterName.Symbol
import GoScaffold.Text.Decomposition
import GoScaffold.Text.Digit
import GoScaffold.Text.Form
import GoScaffold.Text.Identifier
import GoScaffold.Text.Newline
import GoScaffold.Text.Normal
import GoScaffold.Text.Placeholder
import GoScaffold.Text.Quoted
import GoScaffold.Text.Similarity
import GoScaffold.Text.Split
import GoScaffold.Text.Utf8
import GoScaffold.Workspace.Store
import GoScaffold.Workspace.Text
import GoScaffold.Workspace.Tree
