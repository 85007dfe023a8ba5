import DiagramSchema.Text.Blank
import DiagramSchema.Text.Word
import DiagramSchema.Text.Digit
import DiagramSchema.Text.Case
import DiagramSchema.Text.Quoted
import DiagramSchema.Number.Decimal
import DiagramSchema.Json.Reader
import DiagramSchema.Json.Writer
import DiagramSchema.Diagram.Grid
import DiagramSchema.Schema.Naming
import DiagramSchema.Schema.Default
import DiagramSchema.Schema.Emission
import DiagramSchema.Schema.Recovery
import DiagramSchema.Stored.Json
import DiagramSchema.Stored.Conversion
import DiagramSchema.Stored.References
import DiagramSchema.Stored.Audit
import DiagramSchema.Assistant.Generation
import DiagramSchema.Assistant.Instructions
import DiagramSchema.Service.Route
import DiagramSchema.Console
import DiagramSchema.Workspace
import DiagramSchema.Main
import DiagramSchema.Proofs.FieldLine
import DiagramSchema.Proofs.Identifier
import DiagramSchema.Proofs.DefaultValue
import DiagramSchema.Proofs.AttributeLine
import DiagramSchema.Proofs.AttributeRecovery
import DiagramSchema.Proofs.BlockComments
import DiagramSchema.Proofs.BlockLayout
import DiagramSchema.Proofs.Distinct
import DiagramSchema.Proofs.ModelBlocks
import DiagramSchema.Proofs.PlainDiagram
import DiagramSchema.Proofs.RelationFields
import DiagramSchema.Proofs.RelationRecovery
import DiagramSchema.Proofs.RoundTrip
import DiagramSchema.Proofs.Recompilation
import DiagramSchema.Proofs.OneApart
import DiagramSchema.Proofs.LineIsolation
import DiagramSchema.Proofs.DefaultIsolation
import DiagramSchema.Proofs.ShownField
import DiagramSchema.Proofs.AuditVerdict
import DiagramSchema.Proofs.NormalForm
import DiagramSchema.Proofs.StoredEmission
import DiagramSchema.Proofs.RecoveredDiagram
import DiagramSchema.Proofs.LinePieces
import DiagramSchema.Proofs.ModelSeparation
import DiagramSchema.Proofs.Counterparts
import DiagramSchema.Proofs.DecodedParts
import DiagramSchema.Proofs.LoadedDocument
import DiagramSchema.Proofs.AuditedDocument
import DiagramSchema.Proofs.AuditGate
import DiagramSchema.Proofs.ReloadedDocument
import DiagramSchema.Proofs.StoredBlocks
import DiagramSchema.Proofs.DanglingRelations
import DiagramSchema.Proofs.RepeatedRelations
import DiagramSchema.Proofs.ListingOrder
import DiagramSchema.Proofs.MutualFields
import DiagramSchema.Proofs.ShownModels
import DiagramSchema.Proofs.UnknownTypes
import DiagramSchema.Proofs.StoreVerdict
import DiagramSchema.Proofs.ModelHeaders
import DiagramSchema.Proofs.WritableAnswers
import DiagramSchema.Proofs.RouteBodies
import DiagramSchema.Proofs.RouteAgreement
import DiagramSchema.Proofs.AssistedAnswers
import DiagramSchema.Proofs.FieldNames
import DiagramSchema.Proofs.SolidLines
import DiagramSchema.Proofs.Respacing
import DiagramSchema.Proofs.AddedComments
import DiagramSchema.Proofs.AuditRules
import DiagramSchema.Proofs.RenamedIds
import DiagramSchema.Proofs.FirstLinks
import DiagramSchema.Proofs.Segments
import DiagramSchema.Proofs.IdentityFields
import DiagramSchema.Proofs.WrittenDefaults
import DiagramSchema.Proofs.ClosingParenthesis
import DiagramSchema.Proofs.LiteralEnds
import DiagramSchema.Proofs.RewrittenLines
import DiagramSchema.Proofs.BlockGrowth
import DiagramSchema.Proofs.LosslessStorage
import DiagramSchema.Proofs.RedirectedRelations
import DiagramSchema.Proofs.CodeFences
import DiagramSchema.Proofs.TotalReading
import DiagramSchema.Proofs.WholeNumbers
import DiagramSchema.Proofs.RoundedRoot
import DiagramSchema.Proofs.GridLayout
import DiagramSchema.Proofs.TagPriority
