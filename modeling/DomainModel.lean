import DomainModel.Command.Arguments
import DomainModel.Command.Execute
import DomainModel.Constraint.Check
import DomainModel.Disk.Basic
import DomainModel.Import
import DomainModel.Json.Printer
import DomainModel.Json.Reader
import DomainModel.Log.Event
import DomainModel.Log.Filter
import DomainModel.Main
import DomainModel.Model.AutoMap
import DomainModel.Model.Decode
import DomainModel.Model.Encode
import DomainModel.Model.Import
import DomainModel.Model.Lookup
import DomainModel.Naming.Basic
import DomainModel.Naming.Case
import DomainModel.Proofs.DataObjectEdits
import DomainModel.Proofs.ExportRereading
import DomainModel.Proofs.ExportSpelling
import DomainModel.Proofs.ProjectEdits
import DomainModel.Proofs.ProjectSound
import DomainModel.Proofs.RuleDuplicates
import DomainModel.Proofs.RuleElements
import DomainModel.Proofs.RuleErrors
import DomainModel.Proofs.RuleFields
import DomainModel.Proofs.RuleNames
import DomainModel.Proofs.SqlDefinitions
import DomainModel.Proofs.SqlFieldNames
import DomainModel.Proofs.SqlGrammar
import DomainModel.Proofs.SqlKeys
import DomainModel.Proofs.SqlScripts
import DomainModel.Proofs.SqlTokens
import DomainModel.Proofs.TextCase
import DomainModel.Proofs.TextFolding
import DomainModel.Proofs.WrittenObjects
import DomainModel.Report
import DomainModel.Rule.Project
import DomainModel.Run
import DomainModel.Schema.Check
import DomainModel.Schema.Project
import DomainModel.Settings
import DomainModel.Time.Instant
import DomainModel.TypeName
import DomainModel.Proofs.JsonDocuments
import DomainModel.Proofs.SchemaFits
import DomainModel.Proofs.SchemaAgreement
import DomainModel.Proofs.ProjectReaders
import DomainModel.Proofs.WrittenProjects
import DomainModel.Proofs.JsonLexemes
import DomainModel.Proofs.JsonTexts
import DomainModel.Proofs.ProjectTexts
import DomainModel.Proofs.ImportMerging
import DomainModel.Proofs.RuleEnds
import DomainModel.Proofs.SelfReferences
import DomainModel.Proofs.ImportedEnds
import DomainModel.Proofs.JoinedScripts
import DomainModel.Proofs.JsonPointers
import DomainModel.Proofs.IssuePaths
import DomainModel.Proofs.ProjectOrder
import DomainModel.Proofs.DiskFiles
import DomainModel.Proofs.CommandParts
import DomainModel.Proofs.FailedCommands
import DomainModel.Proofs.FinishedImports
import DomainModel.Proofs.DeclaredNames
import DomainModel.Proofs.MapperRows
import DomainModel.Proofs.MapperProposals
import DomainModel.Proofs.TextNesting
import DomainModel.Proofs.TypeTrees
import DomainModel.Proofs.TypeSpelling
import DomainModel.Proofs.ExportAliases
import DomainModel.Proofs.SavedInPlace
import DomainModel.Proofs.Numerals
import DomainModel.Proofs.ConstraintFaults
import DomainModel.Proofs.SqlComments
import DomainModel.Proofs.OfferedConstraints
import DomainModel.Proofs.TypeGroups
import DomainModel.Proofs.CaseConversion
import DomainModel.Proofs.Calendar
import DomainModel.Proofs.InstantTexts
import DomainModel.Proofs.RunDirectories
import DomainModel.Proofs.SqlBodies
import DomainModel.Proofs.NumericTexts
import DomainModel.Proofs.PackageCoordinates
