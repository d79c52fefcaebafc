import EntityModel.Analysis.Result
import EntityModel.Declaration.Text
import EntityModel.Proofs.CreationOrder.Order
import EntityModel.Script.Expression
import EntityModel.Script.Failure
import EntityModel.Settings
import EntityModel.Proofs.Outcome
import EntityModel.Proofs.WellTyped
import EntityModel.Proofs.Text.Lowercase
import EntityModel.Proofs.Naming.Forms
import EntityModel.Proofs.Declaration.Accepted
import EntityModel.Proofs.Analysis.Directory
import EntityModel.Proofs.Resolution
import EntityModel.Proofs.Analysis.Fields
import EntityModel.Proofs.Analysis.Topics
import EntityModel.Proofs.Analysis.Relations
import EntityModel.Proofs.Analysis.Schemas
import EntityModel.Proofs.Analysis.Results
import EntityModel.Proofs.Analysis.KeptRelations
import EntityModel.Proofs.Analysis.Closed
import EntityModel.Proofs.Analysis.Answers
import EntityModel.Proofs.Analysis.Runs
import EntityModel.Proofs.ReferentialClosure
import EntityModel.Proofs.DeclarationOrder
import EntityModel.Proofs.UnrelatedEntities
import EntityModel.Proofs.Declaration.Styles
import EntityModel.Proofs.DocumentStyles
import EntityModel.Proofs.CreationSafety
import EntityModel.Proofs.Consistency
import EntityModel.Proofs.Diagnostics
import EntityModel.Proofs.ForeignKeys
import EntityModel.Proofs.JoinKeys
import EntityModel.Proofs.AcceptedDocuments
import EntityModel.Proofs.Declaration.Reread
import EntityModel.Proofs.Value.Record
import EntityModel.Proofs.Declaration.FieldRoundTrip
import EntityModel.Proofs.Declaration.PartsRoundTrip
import EntityModel.Proofs.EntityRoundTrip
import EntityModel.Proofs.Declaration.Mistakes
import EntityModel.Proofs.DocumentReading
import EntityModel.Proofs.Declaration.Conforming
import EntityModel.Proofs.Analysis.RereadFields
import EntityModel.Proofs.Analysis.RereadRelations
import EntityModel.Proofs.Analysis.RereadSchemas
import EntityModel.Proofs.CreationOrder.Alike
import EntityModel.Proofs.Rereading
import EntityModel.Proofs.Number.Written
import EntityModel.Proofs.Number.Shortest
import EntityModel.Proofs.Number.Rounding
import EntityModel.Proofs.Json.Strings
import EntityModel.Proofs.Json.Scalars
import EntityModel.Proofs.Json.Canonical
import EntityModel.Proofs.Declaration.Portable
import EntityModel.Proofs.Analysis.Conforming
import EntityModel.Proofs.Analysis.Slots
import EntityModel.Proofs.Analysis.CanonicalFields
import EntityModel.Proofs.Analysis.CanonicalParts
import EntityModel.Proofs.Fingerprint
import EntityModel.Proofs.Analysis.Indexes
import EntityModel.Proofs.Analysis.KeptFields
import EntityModel.Proofs.UniqueIndexes
import EntityModel.Proofs.PredicateText
import EntityModel.Proofs.Text.Affix
import EntityModel.Proofs.Naming.Plurals
import EntityModel.Proofs.SharedTables
import EntityModel.Proofs.Json.Keys
import EntityModel.Proofs.Declaration.HandedOn
import EntityModel.Proofs.Analysis.HandedOn
import EntityModel.Proofs.SerialisableResults
import EntityModel.Proofs.JoinColumns
import EntityModel.Proofs.KeyChoice
import EntityModel.Proofs.CustomaryNames
import EntityModel.Proofs.Naming.RunTogether
import EntityModel.Proofs.DefaultKeys
import EntityModel.Proofs.Naming.Singulars
import EntityModel.Proofs.Naming.ReadBack
import EntityModel.Proofs.IndexCoverage
import EntityModel.Proofs.Naming.Words
import EntityModel.Proofs.Naming.Joints
import EntityModel.Proofs.Naming.Conventions
import EntityModel.Proofs.IndexNames
import EntityModel.Proofs.Naming.Pascal
import EntityModel.Proofs.ProcedureTypes
import EntityModel.Proofs.Analysis.Places
import EntityModel.Proofs.Analysis.SampleRanges
import EntityModel.Proofs.SatisfiableBounds
import EntityModel.Proofs.CreationOrder.Recursion
import EntityModel.Proofs.CreationOrder.Duration
import EntityModel.Proofs.CreationOrder.Stability
import EntityModel.Proofs.OperationRules
import EntityModel.Proofs.Naming.Identifiers
import EntityModel.Proofs.PlainFields
import EntityModel.Proofs.VerbPrefixes
import EntityModel.Proofs.Text.Quoted
import EntityModel.Proofs.Analysis.CodeTypes
import EntityModel.Proofs.Analysis.Paths
import EntityModel.Proofs.FieldTrees
import EntityModel.Proofs.Settings
import EntityModel.Proofs.Literals
import EntityModel.Proofs.Predicate.Scopes
import EntityModel.Proofs.Predicate.FunctionSources
import EntityModel.Proofs.Yaml.DoubleQuoted
import EntityModel.Proofs.Yaml.Moments
import EntityModel.Proofs.Yaml.PlainNumbers
import EntityModel.Proofs.Yaml.PlainScalars
import EntityModel.Proofs.Yaml.Nodes
import EntityModel.Proofs.Text.Lines
import EntityModel.Proofs.Digest
