import SchemaForge.Definition.Builder
import SchemaForge.Definition.Encode
import SchemaForge.Main
import SchemaForge.Schema.Session
import SchemaForge.Proofs.DefinitionTree
import SchemaForge.Proofs.JavaScriptLexing
import SchemaForge.Proofs.SchemaText
import SchemaForge.Proofs.SchemaExpression
import SchemaForge.Proofs.ModuleWriting
import SchemaForge.Proofs.DeferredReferences
import SchemaForge.Proofs.Expansion
import SchemaForge.Proofs.ModuleExports
import SchemaForge.Proofs.GeneratorMachine
import SchemaForge.Proofs.GeneratorReuse
import SchemaForge.Proofs.JavaScriptTokens
import SchemaForge.Proofs.Locality
import SchemaForge.Proofs.Binary64Order
import SchemaForge.Proofs.JavaScriptEvaluation
import SchemaForge.Proofs.NetworkBounds
import SchemaForge.Proofs.PredicateMeaning
import SchemaForge.Proofs.RefinementMeaning
import SchemaForge.Proofs.AddressRanges
import SchemaForge.Proofs.FilterMembership
import SchemaForge.Proofs.ExampleIndependence
import SchemaForge.Proofs.ExportedNames
import SchemaForge.Proofs.CompositeReading
import SchemaForge.Proofs.DelimitedTexts
import SchemaForge.Proofs.JsonNumbers
import SchemaForge.Proofs.AttributeDecoding
import SchemaForge.Proofs.DecodedNumbers
import SchemaForge.Proofs.DefinitionRoundTrip
import SchemaForge.Proofs.TagWalk
import SchemaForge.Proofs.CommandOutcomes
import SchemaForge.Proofs.ExitStatus
import SchemaForge.Proofs.TreeGrowth
import SchemaForge.Proofs.Footprint
import SchemaForge.Proofs.CommandFrame
import SchemaForge.Proofs.GenerateThenValidate
import SchemaForge.Proofs.Assignments
import SchemaForge.Proofs.ObjectBuilder
import SchemaForge.Proofs.QuotedText
import SchemaForge.Proofs.JavaScriptPatterns
import SchemaForge.Proofs.AlphabetClass
import SchemaForge.Proofs.JavaScriptStatements
import SchemaForge.Proofs.DottedQuads
import SchemaForge.Proofs.AddressStatements
import SchemaForge.Proofs.PathSegments
import SchemaForge.Proofs.RoundingOrder
import SchemaForge.Proofs.ByteBounds
import SchemaForge.Proofs.FileLoading
import SchemaForge.Proofs.FieldLayout
import SchemaForge.Proofs.RegistryRuns
import SchemaForge.Proofs.ReferenceCollection
import SchemaForge.Proofs.ScanOrder
import SchemaForge.Proofs.NearestNumber
import SchemaForge.Proofs.ShortestDigits
import SchemaForge.Proofs.NumberTexts
