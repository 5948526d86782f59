import MessageSchema.ArrayKind
import MessageSchema.Command
import MessageSchema.Comment
import MessageSchema.Config
import MessageSchema.Config.File
import MessageSchema.Config.Reader
import MessageSchema.Declaration
import MessageSchema.Declaration.Grammar
import MessageSchema.DefaultValue
import MessageSchema.Error
import MessageSchema.Field
import MessageSchema.File.Batch
import MessageSchema.File.Source
import MessageSchema.Identifier
import MessageSchema.Imports
import MessageSchema.Interface
import MessageSchema.Interface.Document
import MessageSchema.Interface.Path
import MessageSchema.Json.Fault
import MessageSchema.Json.Number
import MessageSchema.Json.Skip
import MessageSchema.Json.TextLiteral
import MessageSchema.Json.Token
import MessageSchema.Json.Value
import MessageSchema.Main
import MessageSchema.Metadata
import MessageSchema.Primitive
import MessageSchema.Proofs.Builder.Aliases
import MessageSchema.Proofs.Builder.Composition
import MessageSchema.Proofs.Builder.Documentation
import MessageSchema.Proofs.Builder.FailFast
import MessageSchema.Proofs.Builder.ImportedPackages
import MessageSchema.Proofs.Builder.Imports
import MessageSchema.Proofs.Builder.Independence
import MessageSchema.Proofs.Builder.NativeNames
import MessageSchema.Proofs.Builder.Placement
import MessageSchema.Proofs.Builder.Renumber
import MessageSchema.Proofs.Builder.RoundTrip
import MessageSchema.Proofs.Builder.Run
import MessageSchema.Proofs.Builder.Simulation
import MessageSchema.Proofs.Builder.Sizes
import MessageSchema.Proofs.Declaration.Code
import MessageSchema.Proofs.Declaration.Content
import MessageSchema.Proofs.Declaration.Form
import MessageSchema.Proofs.Declaration.Reading
import MessageSchema.Proofs.DefaultValue.Backslashes
import MessageSchema.Proofs.DefaultValue.Canonical
import MessageSchema.Proofs.DefaultValue.Elements
import MessageSchema.Proofs.DefaultValue.Literal
import MessageSchema.Proofs.DefaultValue.LiteralLists
import MessageSchema.Proofs.DefaultValue.Respelling
import MessageSchema.Proofs.Field.Reference
import MessageSchema.Proofs.Field.Resolution
import MessageSchema.Proofs.Field.Size
import MessageSchema.Proofs.Field.Textual
import MessageSchema.Proofs.Identifier.Endings
import MessageSchema.Proofs.Identifier.SnakeCase
import MessageSchema.Proofs.Identifier.Underscores
import MessageSchema.Proofs.Identifier.Words
import MessageSchema.Proofs.Imports.Merge
import MessageSchema.Proofs.Service.Comments
import MessageSchema.Proofs.Service.Partition
import MessageSchema.Proofs.Service.Sections
import MessageSchema.Proofs.Service.Simulation
import MessageSchema.Proofs.Service.Spacing
import MessageSchema.Proofs.Text.Ascii
import MessageSchema.Proofs.Text.Blank
import MessageSchema.Proofs.Text.Lines
import MessageSchema.ResolvedType
import MessageSchema.Schema
import MessageSchema.Schema.Builder
import MessageSchema.Schema.Session
import MessageSchema.Service
import MessageSchema.Text.Blank
import MessageSchema.Text.CaseMapping
import MessageSchema.Text.CodeRun
import MessageSchema.Text.Lines
import MessageSchema.Text.Numeric
import MessageSchema.Text.Quoted
import MessageSchema.Text.Uppercase
import MessageSchema.Proofs.Builder.Session
import MessageSchema.Proofs.Command.Check
import MessageSchema.Proofs.Json.Number
import MessageSchema.Proofs.Json.TextLiteral
import MessageSchema.Proofs.Json.Lexing
import MessageSchema.Proofs.Json.Document
import MessageSchema.Proofs.Json.Grammar
import MessageSchema.Proofs.Json.Skip
import MessageSchema.Proofs.Config.Overrides
import MessageSchema.Proofs.Interface.Decoding
import MessageSchema.Proofs.Interface.Document
import MessageSchema.Proofs.Interface.Path
import MessageSchema.Proofs.Interface.Identity
