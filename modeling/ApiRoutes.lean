import ApiRoutes.CommandLine.Options
import ApiRoutes.CommandLine.Request
import ApiRoutes.CommandLine.Run
import ApiRoutes.CommandLine.Summary
import ApiRoutes.Config
import ApiRoutes.Data.Content
import ApiRoutes.Data.Entries
import ApiRoutes.Data.Source
import ApiRoutes.Decimal.Binary64
import ApiRoutes.Decimal.Numeral
import ApiRoutes.Decimal.Power
import ApiRoutes.Decimal.Shortest
import ApiRoutes.Document.Basic
import ApiRoutes.Document.Load
import ApiRoutes.Document.Operation
import ApiRoutes.Document.Parts
import ApiRoutes.Document.Read
import ApiRoutes.Document.Reference
import ApiRoutes.Document.Schema
import ApiRoutes.Document.Upgrade
import ApiRoutes.Document.Write
import ApiRoutes.Files.Name
import ApiRoutes.Files.Tree
import ApiRoutes.Http.MediaTypes
import ApiRoutes.Http.Method
import ApiRoutes.Http.Status
import ApiRoutes.Json.Basic
import ApiRoutes.Json.Printer
import ApiRoutes.Json.Source
import ApiRoutes.Log
import ApiRoutes.Main
import ApiRoutes.Naming.ArgNames
import ApiRoutes.Naming.Casings
import ApiRoutes.Naming.NameTemplate
import ApiRoutes.Naming.PathName
import ApiRoutes.Naming.RouteName
import ApiRoutes.Path.Template
import ApiRoutes.Proofs.Data.Children
import ApiRoutes.Proofs.Data.Fields
import ApiRoutes.Proofs.Data.FreeForm
import ApiRoutes.Proofs.Data.Occurrences
import ApiRoutes.Proofs.Data.Tables
import ApiRoutes.Proofs.Decimal.FiniteNumbers
import ApiRoutes.Proofs.Document.BodyLifting
import ApiRoutes.Proofs.Document.Chains
import ApiRoutes.Proofs.Document.ReferenceRoots
import ApiRoutes.Proofs.Document.RoundTrip
import ApiRoutes.Proofs.Document.SchemaRoundTrip
import ApiRoutes.Proofs.Json.Nodes
import ApiRoutes.Proofs.Naming.Numbering
import ApiRoutes.Proofs.Path.Pieces
import ApiRoutes.Proofs.Path.Placeholders
import ApiRoutes.Proofs.Route.Arguments
import ApiRoutes.Proofs.Route.Classification
import ApiRoutes.Proofs.Route.ErrorComponent
import ApiRoutes.Proofs.Route.ErrorLabels
import ApiRoutes.Proofs.Route.FormData
import ApiRoutes.Proofs.Route.Grouping
import ApiRoutes.Proofs.Route.ImpliedParameters
import ApiRoutes.Proofs.Route.ParameterObjects
import ApiRoutes.Proofs.Route.Positions
import ApiRoutes.Proofs.Route.ReferencedBodies
import ApiRoutes.Proofs.Route.ResponseViews
import ApiRoutes.Proofs.Route.RestoredNames
import ApiRoutes.Proofs.Route.SharedBodies
import ApiRoutes.Proofs.Route.TypedBodies
import ApiRoutes.Proofs.Run.Appending
import ApiRoutes.Proofs.Run.Extraction
import ApiRoutes.Proofs.Run.Independence
import ApiRoutes.Proofs.Run.Integrity
import ApiRoutes.Proofs.Run.Operation
import ApiRoutes.Proofs.Run.Skeleton
import ApiRoutes.Proofs.Run.Trace
import ApiRoutes.Proofs.Text.Alternatives
import ApiRoutes.Proofs.Text.Bars
import ApiRoutes.Proofs.Text.Brackets
import ApiRoutes.Proofs.Text.CasedDigits
import ApiRoutes.Proofs.Text.FileMarks
import ApiRoutes.Proofs.Text.NameLike
import ApiRoutes.Proofs.Text.WordChars
import ApiRoutes.Proofs.Types.FileFields
import ApiRoutes.Proofs.Types.Freshness
import ApiRoutes.Proofs.Types.Growth
import ApiRoutes.Proofs.Types.Members
import ApiRoutes.Proofs.Types.Precedence
import ApiRoutes.Proofs.Types.References
import ApiRoutes.Proofs.Types.Rendered
import ApiRoutes.Proofs.Types.Reuse
import ApiRoutes.Proofs.Types.SchemaTrees
import ApiRoutes.Proofs.Types.UnionAlternatives
import ApiRoutes.Route.Assemble
import ApiRoutes.Route.Basic
import ApiRoutes.Route.BodyType
import ApiRoutes.Route.Extract
import ApiRoutes.Route.Grouping
import ApiRoutes.Route.Hooks
import ApiRoutes.Route.Params
import ApiRoutes.Route.Responses
import ApiRoutes.Route.Run
import ApiRoutes.Route.Write
import ApiRoutes.Template.Eval
import ApiRoutes.Template.Filters
import ApiRoutes.Template.Number
import ApiRoutes.Template.Operator
import ApiRoutes.Template.Parse
import ApiRoutes.Template.Syntax
import ApiRoutes.Template.Token
import ApiRoutes.Template.Value
import ApiRoutes.Text.Basic
import ApiRoutes.Text.CaseMap
import ApiRoutes.Text.Cased
import ApiRoutes.Text.Casing
import ApiRoutes.Text.CharClass
import ApiRoutes.Text.Description
import ApiRoutes.Text.Digits
import ApiRoutes.Text.Listing
import ApiRoutes.Text.Printable
import ApiRoutes.Text.Quoted
import ApiRoutes.Types.Registry
import ApiRoutes.Types.Resolver
import ApiRoutes.Types.Tree
import ApiRoutes.Yaml.Cursor
import ApiRoutes.Yaml.Lexer
import ApiRoutes.Yaml.Node
import ApiRoutes.Yaml.Printer
import ApiRoutes.Yaml.Scalar
import ApiRoutes.Yaml.Source
import ApiRoutes.Yaml.Tag
import ApiRoutes.Yaml.Text
import ApiRoutes.Yaml.Token
import ApiRoutes.Proofs.Document.ChainEnds
import ApiRoutes.Proofs.Text.Splitting
import ApiRoutes.Proofs.Types.ReferenceNames
import ApiRoutes.Proofs.Naming.ArgCalls
import ApiRoutes.Proofs.Path.Spellings
import ApiRoutes.Proofs.Text.Quoting
import ApiRoutes.Proofs.Types.LiteralSchemas
import ApiRoutes.Proofs.Text.Blanks
import ApiRoutes.Proofs.Naming.BuiltInNames
