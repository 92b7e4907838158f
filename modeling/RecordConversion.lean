import RecordConversion.Catalog.Basic
import RecordConversion.Catalog.Config
import RecordConversion.Catalog.Loading
import RecordConversion.Catalog.Summary
import RecordConversion.Catalog.Validation
import RecordConversion.CommandLine.Arguments
import RecordConversion.CommandLine.FileTree
import RecordConversion.CommandLine.Path
import RecordConversion.CommandLine.Run
import RecordConversion.ConverterName
import RecordConversion.Declarations.Basic
import RecordConversion.Declarations.Compatibility
import RecordConversion.Declarations.Stringer
import RecordConversion.Document.Basic
import RecordConversion.Document.Json
import RecordConversion.Document.Reading
import RecordConversion.Document.Yaml.Reader
import RecordConversion.Document.Yaml.Scalar
import RecordConversion.Document.Yaml.Spelling
import RecordConversion.Document.Yaml.Token
import RecordConversion.Document.Yaml.Writer
import RecordConversion.Event
import RecordConversion.HostType.Basic
import RecordConversion.HostType.Expression
import RecordConversion.HostType.Primitive
import RecordConversion.Keyed
import RecordConversion.Main
import RecordConversion.Pairing
import RecordConversion.Plan.Basic
import RecordConversion.Plan.Report
import RecordConversion.Plan.Request
import RecordConversion.Proofs.Catalog.Building
import RecordConversion.Proofs.Catalog.Built
import RecordConversion.Proofs.Catalog.ChainFaults
import RecordConversion.Proofs.Catalog.DeclaredFields
import RecordConversion.Proofs.Catalog.Discovery
import RecordConversion.Proofs.Catalog.Extension
import RecordConversion.Proofs.Catalog.FaultTexts
import RecordConversion.Proofs.Catalog.Lookup
import RecordConversion.Proofs.Catalog.Overlay
import RecordConversion.Proofs.Catalog.ReadingOrder
import RecordConversion.Proofs.Catalog.References
import RecordConversion.Proofs.Catalog.TypeCounts
import RecordConversion.Proofs.Catalog.ValidAliases
import RecordConversion.Proofs.Catalog.WrittenTypes
import RecordConversion.Proofs.ConverterName
import RecordConversion.Proofs.Declarations.ChainLengths
import RecordConversion.Proofs.Declarations.Classification
import RecordConversion.Proofs.Declarations.Compatibility
import RecordConversion.Proofs.Declarations.Congruence
import RecordConversion.Proofs.Declarations.ExpansionEnds
import RecordConversion.Proofs.Declarations.ExpansionLimit
import RecordConversion.Proofs.Declarations.ExtendedQueries
import RecordConversion.Proofs.Declarations.Extension
import RecordConversion.Proofs.Declarations.FullExpansion
import RecordConversion.Proofs.Declarations.Names
import RecordConversion.Proofs.Declarations.OneWay
import RecordConversion.Proofs.Declarations.Promotion
import RecordConversion.Proofs.Declarations.ReferredRecords
import RecordConversion.Proofs.Declarations.Resolution
import RecordConversion.Proofs.Declarations.SelfMentions
import RecordConversion.Proofs.Declarations.ShapeAgreement
import RecordConversion.Proofs.Declarations.Shapes
import RecordConversion.Proofs.Declarations.Symmetry
import RecordConversion.Proofs.Declarations.TextPromotion
import RecordConversion.Proofs.Declarations.TextTiers
import RecordConversion.Proofs.Discovery.AliasRoot
import RecordConversion.Proofs.Discovery.DeclaredReferences
import RecordConversion.Proofs.Discovery.Extension
import RecordConversion.Proofs.Discovery.LeafFirst
import RecordConversion.Proofs.Discovery.Outcomes
import RecordConversion.Proofs.Discovery.Reachability
import RecordConversion.Proofs.Discovery.Records
import RecordConversion.Proofs.Discovery.Run
import RecordConversion.Proofs.Document.Restating
import RecordConversion.Proofs.Embedding.AliasFields
import RecordConversion.Proofs.Embedding.Candidates
import RecordConversion.Proofs.Embedding.MemberNames
import RecordConversion.Proofs.Embedding.OwnFields
import RecordConversion.Proofs.Embedding.Selection
import RecordConversion.Proofs.FinitePool
import RecordConversion.Proofs.HostType.Brackets
import RecordConversion.Proofs.HostType.Namespaces
import RecordConversion.Proofs.HostType.Parts
import RecordConversion.Proofs.HostType.RoundTrip
import RecordConversion.Proofs.Pairing
import RecordConversion.Proofs.Plan.AliasRoot
import RecordConversion.Proofs.Plan.ConverterNames
import RecordConversion.Proofs.Plan.CustomName
import RecordConversion.Proofs.Plan.Delegation
import RecordConversion.Proofs.Plan.Extension
import RecordConversion.Proofs.Plan.FieldFates
import RecordConversion.Proofs.Plan.FieldPairs
import RecordConversion.Proofs.Plan.Histories
import RecordConversion.Proofs.Plan.IgnoredFields
import RecordConversion.Proofs.Plan.Itself
import RecordConversion.Proofs.Plan.Passes
import RecordConversion.Proofs.Plan.RecordPairs
import RecordConversion.Proofs.Plan.Reports
import RecordConversion.Proofs.Plan.SameNames
import RecordConversion.Proofs.Plan.WayBack
import RecordConversion.Proofs.Reading
import RecordConversion.Proofs.Reloading
import RecordConversion.Proofs.Resolver
import RecordConversion.Proofs.Rule.Answers
import RecordConversion.Proofs.Rule.CalledName
import RecordConversion.Proofs.Rule.CastsAndAssignments
import RecordConversion.Proofs.Rule.Conditions
import RecordConversion.Proofs.Rule.Decisions
import RecordConversion.Proofs.Rule.Delegation
import RecordConversion.Proofs.Rule.Duality
import RecordConversion.Proofs.Rule.Extension
import RecordConversion.Proofs.Rule.PartCasts
import RecordConversion.Proofs.Rule.RecordPointers
import RecordConversion.Proofs.Rule.Statements
import RecordConversion.Proofs.Rule.TwoNamespaces
import RecordConversion.Proofs.Rule.UncastStores
import RecordConversion.Proofs.Text.Trimmed
import RecordConversion.Provider
import RecordConversion.Record.Basic
import RecordConversion.Record.Discovery
import RecordConversion.Record.Embedding
import RecordConversion.Resolver
import RecordConversion.Rule.Basic
import RecordConversion.Rule.Nullable
import RecordConversion.Rule.Standard
import RecordConversion.Shape
import RecordConversion.Text.AlphabeticRanges
import RecordConversion.Text.Blank
import RecordConversion.Text.CaseShifts
import RecordConversion.Text.CasedRanges
import RecordConversion.Text.Letter
import RecordConversion.Text.LetterCase
import RecordConversion.Text.NumericRanges
import RecordConversion.Text.PrintableRanges
import RecordConversion.Text.Quoted
import RecordConversion.Text.Ranges
import RecordConversion.Text.Segment
import RecordConversion.Text.UppercaseRanges
