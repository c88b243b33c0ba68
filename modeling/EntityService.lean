import EntityService.Json.Printer
import EntityService.Query.Language
import EntityService.Request.Model
import EntityService.Schema.Build
import EntityService.Proofs.Outcome
import EntityService.Proofs.Schema.References
import EntityService.Proofs.Schema.BaseLinks
import EntityService.Proofs.Schema.Building
import EntityService.Proofs.Schema.Consistency
import EntityService.Proofs.Path.CallText
import EntityService.Proofs.Path.Reachability
import EntityService.Proofs.Path.Refusals
import EntityService.Proofs.Path.KeyStyles
import EntityService.Proofs.Path.ClassNames
import EntityService.Proofs.Path.Reordering
import EntityService.Proofs.Query.LastValue
import EntityService.Proofs.Request.ResponseVariable
import EntityService.Proofs.Path.Spelling
import EntityService.Proofs.Path.Prefixes
import EntityService.Proofs.Query.Pairs
import EntityService.Proofs.Text.Trimming
import EntityService.Proofs.Query.NormalForm
import EntityService.Proofs.Query.WrittenBack
import EntityService.Proofs.Query.Sections
import EntityService.Proofs.Schema.Subtyping
import EntityService.Proofs.Schema.Contents
import EntityService.Proofs.Text.Percent
import EntityService.Proofs.Request.Decomposition
import EntityService.Proofs.Path.Methods
import EntityService.Proofs.Path.Casts
import EntityService.Proofs.Request.ServiceRoot
import EntityService.Proofs.Schema.Cycles
import EntityService.Proofs.Schema.OperationScan
import EntityService.Proofs.Schema.Inheritance
import EntityService.Proofs.Request.VariableNames
import EntityService.Proofs.Request.ReservedHeaders
import EntityService.Proofs.Query.Filing
import EntityService.Proofs.Query.SearchTerms
import EntityService.Proofs.Schema.MemberSearch
import EntityService.Proofs.Schema.Places
import EntityService.Proofs.Path.ClassSearch
import EntityService.Proofs.Schema.ReferenceText
import EntityService.Proofs.Query.Amounts
import EntityService.Proofs.Naming.Identifiers
import EntityService.Proofs.Request.UsableVariables
import EntityService.Proofs.Schema.GuardedLookups
import EntityService.Proofs.Path.GuardedResolution
import EntityService.Proofs.Path.ElementPatterns
