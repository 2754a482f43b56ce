import RelSchema.Main
import RelSchema.Namespace.Printer
import RelSchema.Session
import RelSchema.Proofs.CommandLine
import RelSchema.Proofs.Declaration
import RelSchema.Proofs.Document.Acceptance
import RelSchema.Proofs.Document.Reading
import RelSchema.Proofs.Document.RoundTrip
import RelSchema.Proofs.Document.Rows
import RelSchema.Proofs.Field.Accessors
import RelSchema.Proofs.Field.Alignment
import RelSchema.Proofs.Field.Cascade
import RelSchema.Proofs.Field.Comment
import RelSchema.Proofs.Field.DefaultLiteral
import RelSchema.Proofs.Field.DjangoKey
import RelSchema.Proofs.Field.ForeignKey
import RelSchema.Proofs.Field.InlineConstraint
import RelSchema.Proofs.Field.Nullability
import RelSchema.Proofs.Field.Options
import RelSchema.Proofs.FieldSpec.Changes
import RelSchema.Proofs.FileTree.Shape
import RelSchema.Proofs.FileTree.Writing
import RelSchema.Proofs.Junction
import RelSchema.Proofs.Model.Categories
import RelSchema.Proofs.Model.Cleaning
import RelSchema.Proofs.Model.Dependencies
import RelSchema.Proofs.Model.Options
import RelSchema.Proofs.Model.SelfReference
import RelSchema.Proofs.Model.Trailing
import RelSchema.Proofs.Namespace.Entries
import RelSchema.Proofs.Output.Dialects
import RelSchema.Proofs.Output.Failure
import RelSchema.Proofs.Output.Location
import RelSchema.Proofs.Output.Options
import RelSchema.Proofs.Path
import RelSchema.Proofs.Schema.Options
import RelSchema.Proofs.Schema.References
import RelSchema.Proofs.Schema.Specialization
import RelSchema.Proofs.Script.Abap
import RelSchema.Proofs.Script.Haskell.Selectors
import RelSchema.Proofs.Script.Python.Attributes
import RelSchema.Proofs.Script.Python.Literals
import RelSchema.Proofs.Script.Sql.Keys
import RelSchema.Proofs.Script.Sql.Scanning
import RelSchema.Proofs.Script.SqlAlchemy
import RelSchema.Proofs.Session
import RelSchema.Proofs.Text.Plural
import RelSchema.Proofs.Text.Replacement
