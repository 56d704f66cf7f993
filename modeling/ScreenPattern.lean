import ScreenPattern.Assembly.Assembler
import ScreenPattern.Catalog.Table
import ScreenPattern.Config.Setup
import ScreenPattern.Json.Printer
import ScreenPattern.Migration.Ranking
import ScreenPattern.Proofs.RegistryCache
import ScreenPattern.Proofs.RegistryHistory
import ScreenPattern.Proofs.MigrationChain
import ScreenPattern.Proofs.ContractSlots
import ScreenPattern.Proofs.FieldReading
import ScreenPattern.Proofs.ValueReading
import ScreenPattern.Proofs.ComponentReading
import ScreenPattern.Proofs.DocumentReading
import ScreenPattern.Proofs.TextTrimming
import ScreenPattern.Proofs.SchemaWalk
import ScreenPattern.Proofs.DocumentAcceptance
import ScreenPattern.Proofs.DocumentNormalization
import ScreenPattern.Proofs.AssemblyModes
import ScreenPattern.Proofs.ContractConformance
import ScreenPattern.Proofs.DraftAcceptance
import ScreenPattern.Proofs.SynthesizedComponents
import ScreenPattern.Proofs.TextAssembly
import ScreenPattern.Proofs.InterchangeableContracts
import ScreenPattern.Proofs.UnreadableDocuments
import ScreenPattern.Proofs.CommittableMigration
import ScreenPattern.Proofs.ShapeWalk
import ScreenPattern.Proofs.UnreadableContracts
import ScreenPattern.Proofs.ContractReading
import ScreenPattern.Proofs.ContractRoundTrip
import ScreenPattern.Proofs.MigrationVerdict
import ScreenPattern.Proofs.MigrationLosses
import ScreenPattern.Proofs.AscendingLists
import ScreenPattern.Proofs.CatalogOrder
import ScreenPattern.Proofs.OverlaidSources
import ScreenPattern.Proofs.ListedEntries
import ScreenPattern.Proofs.IndexedCatalogs
import ScreenPattern.Proofs.SlotOccupancy
import ScreenPattern.Proofs.ContractFindings
import ScreenPattern.Proofs.MigrationFixedPoints
import ScreenPattern.Proofs.SuppliedComponents
import ScreenPattern.Proofs.UpdateByAssembly
import ScreenPattern.Proofs.ContractAcceptance
import ScreenPattern.Proofs.EssentialFields
import ScreenPattern.Proofs.SatisfiableContracts
import ScreenPattern.Proofs.FirstFailure
import ScreenPattern.Proofs.RankedTargets
import ScreenPattern.Proofs.DelimitedTexts
import ScreenPattern.Proofs.HashFraming
import ScreenPattern.Proofs.MergedObjects
import ScreenPattern.Proofs.RepeatedUpdates
import ScreenPattern.Proofs.IssuePaths
import ScreenPattern.Proofs.LocalIssues
import ScreenPattern.Proofs.UnsentProperties
import ScreenPattern.Proofs.CatalogRows
import ScreenPattern.Proofs.DeclaredSchemas
import ScreenPattern.Proofs.RegistryCounts
import ScreenPattern.Proofs.ComponentOrder
import ScreenPattern.Proofs.MergedPaths
import ScreenPattern.Proofs.CanonicalReports
import ScreenPattern.Proofs.LabelNames
