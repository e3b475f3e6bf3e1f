import QueryGuard.Audit
import QueryGuard.CommandLine.Address
import QueryGuard.CommandLine.Arguments
import QueryGuard.CommandLine.LogFilter
import QueryGuard.CommandLine.Session
import QueryGuard.CommandLine.Settings
import QueryGuard.Database
import QueryGuard.Decimal.Dyadic
import QueryGuard.Decimal.Layout
import QueryGuard.Decimal.Reading
import QueryGuard.Decimal.Shortest
import QueryGuard.Decimal.Word
import QueryGuard.Dialect
import QueryGuard.Digest.Sha256
import QueryGuard.Draft.Cache
import QueryGuard.Draft.Credential
import QueryGuard.Draft.Fence
import QueryGuard.Estimate
import QueryGuard.Failure
import QueryGuard.Gate.Basic
import QueryGuard.Gate.Outcome
import QueryGuard.Gate.Report
import QueryGuard.Gate.Workflow
import QueryGuard.Intake
import QueryGuard.Json.Basic
import QueryGuard.Json.Printer
import QueryGuard.Json.Reader
import QueryGuard.Json.Value
import QueryGuard.Main
import QueryGuard.NameMap
import QueryGuard.Outline.Basic
import QueryGuard.Outline.Clause
import QueryGuard.Outline.IndexHint
import QueryGuard.Plan
import QueryGuard.Policy
import QueryGuard.Render.Basic
import QueryGuard.Render.Csv
import QueryGuard.Render.Table
import QueryGuard.Render.Value
import QueryGuard.Report
import QueryGuard.ResultSet
import QueryGuard.Risk
import QueryGuard.RowBound
import QueryGuard.Schema.Basic
import QueryGuard.Schema.Catalog
import QueryGuard.Schema.Diagram
import QueryGuard.Schema.Graph
import QueryGuard.Service
import QueryGuard.Statement
import QueryGuard.Text.Blank
import QueryGuard.Text.CaseRun
import QueryGuard.Text.Cased
import QueryGuard.Text.DecimalDigit
import QueryGuard.Text.LowerCase
import QueryGuard.Text.Ranges
import QueryGuard.Text.Search
import QueryGuard.Text.UpperCase
import QueryGuard.Text.WordChar
import QueryGuard.Validation
import QueryGuard.Proofs.LowerImage
import QueryGuard.Proofs.StatementWords
import QueryGuard.Proofs.Terminator
import QueryGuard.Proofs.StatementHead
import QueryGuard.Proofs.AppendedBound
import QueryGuard.Proofs.BlockedWords
import QueryGuard.Proofs.BoundedPlan
import QueryGuard.Proofs.PlanCalls
import QueryGuard.Proofs.RunCalls
import QueryGuard.Proofs.StandingWords
import QueryGuard.Proofs.ExposedBound
import QueryGuard.Proofs.BoundValue
import QueryGuard.Proofs.PreviewBound
import QueryGuard.Proofs.WriteCalls
import QueryGuard.Proofs.RiskScore
import QueryGuard.Proofs.WildcardPattern
import QueryGuard.Proofs.RiskThreshold
import QueryGuard.Proofs.EndingCalls
import QueryGuard.Proofs.PlanAgreement
import QueryGuard.Proofs.LogLines
import QueryGuard.Proofs.AuditTrail
import QueryGuard.Proofs.ForeignPlan
import QueryGuard.Proofs.OfflineCheck
import QueryGuard.Proofs.AddedSemicolon
import QueryGuard.Proofs.DraftKey
import QueryGuard.Proofs.CacheEntries
import QueryGuard.Proofs.RepeatedDraft
import QueryGuard.Proofs.SharedDrafts
import QueryGuard.Proofs.BoundOnce
import QueryGuard.Proofs.NameOrder
import QueryGuard.Proofs.Neighbors
import QueryGuard.Proofs.ShortestWay
import QueryGuard.Proofs.JoinWays
import QueryGuard.Proofs.ClauseNames
import QueryGuard.Proofs.NamedTables
import QueryGuard.Proofs.CacheHistory
import QueryGuard.Proofs.Places
import QueryGuard.Proofs.ClauseBodies
import QueryGuard.Proofs.LowerParts
import QueryGuard.Proofs.ShownClauses
import QueryGuard.Proofs.AssembledQuery
import QueryGuard.Proofs.PassedSemicolon
import QueryGuard.Proofs.OpenClause
import QueryGuard.Proofs.PlanEvidence
import QueryGuard.Proofs.PlanTree
import QueryGuard.Proofs.PlanEnvelope
import QueryGuard.Proofs.SpacedParts
import QueryGuard.Proofs.ClauseSlices
import QueryGuard.Proofs.HintedColumns
import QueryGuard.Proofs.AlignedTable
import QueryGuard.Proofs.JsonFields
import QueryGuard.Proofs.KeyedRows
import QueryGuard.Proofs.CsvReading
import QueryGuard.Proofs.NearestNumber
import QueryGuard.Proofs.ShortestDigits
import QueryGuard.Proofs.Numerals
import QueryGuard.Proofs.WrittenNumbers
import QueryGuard.Proofs.JsonReading
import QueryGuard.Proofs.LogRuns
import QueryGuard.Proofs.GateRecords
import QueryGuard.Proofs.DiagramLines
import QueryGuard.Proofs.FirstAppearance
import QueryGuard.Proofs.GroupedKeys
import QueryGuard.Proofs.CatalogTables
import QueryGuard.Proofs.StrippedFence
import QueryGuard.Proofs.NormalForm
