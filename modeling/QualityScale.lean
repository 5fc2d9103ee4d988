import QualityScale.Catalog
import QualityScale.Catalog.Index
import QualityScale.Catalog.Listing
import QualityScale.Catalog.Rule
import QualityScale.Catalog.Standard
import QualityScale.Checker
import QualityScale.Checker.Watching
import QualityScale.Command.Arguments
import QualityScale.Command.Run
import QualityScale.Completion
import QualityScale.Config
import QualityScale.Decimal.Binary64
import QualityScale.Decimal.Number
import QualityScale.Decimal.Shortest
import QualityScale.Decimal.Style
import QualityScale.Declaration.Classification
import QualityScale.Declaration.Document
import QualityScale.Declaration.Literal
import QualityScale.Declaration.Schema
import QualityScale.Declaration.Status
import QualityScale.Dispatch
import QualityScale.Evidence.Flow
import QualityScale.Evidence.Platforms
import QualityScale.Evidence.Setup
import QualityScale.Evidence.Typing
import QualityScale.Exemption
import QualityScale.Exemption.Document
import QualityScale.Exemption.Grandfathered
import QualityScale.FileTree
import QualityScale.Integration
import QualityScale.Integration.Manifest
import QualityScale.Json.Decode
import QualityScale.Json.Fault
import QualityScale.Json.Node
import QualityScale.Json.Node.Reader
import QualityScale.Json.Numeral
import QualityScale.Json.Printer
import QualityScale.Json.Record
import QualityScale.Json.Value
import QualityScale.Main
import QualityScale.NameMap
import QualityScale.NameSet
import QualityScale.Path
import QualityScale.Platform
import QualityScale.Presence
import QualityScale.Registry
import QualityScale.Report
import QualityScale.Source.Line
import QualityScale.Source.Module
import QualityScale.Source.Pattern
import QualityScale.Text.Blank
import QualityScale.Text.Case
import QualityScale.Text.Hex
import QualityScale.Text.Hidden
import QualityScale.Text.Quoted
import QualityScale.Text.Split
import QualityScale.Text.Word
import QualityScale.Tier
import QualityScale.Trace
import QualityScale.Trace.Filter
import QualityScale.Yaml.Cursor
import QualityScale.Yaml.Document
import QualityScale.Yaml.Error
import QualityScale.Yaml.Node
import QualityScale.Yaml.Plain
import QualityScale.Yaml.Scalar
import QualityScale.Yaml.Tag
import QualityScale.Yaml.Token
import QualityScale.Yaml.Value
import QualityScale.Proofs.Declaration.Agreement
import QualityScale.Proofs.Declaration.Ambiguity
import QualityScale.Proofs.Declaration.Edits
import QualityScale.Proofs.Checker.CleanVerdict
import QualityScale.Proofs.Checker.RepeatedRuns
import QualityScale.Proofs.Checker.Dispatch
import QualityScale.Proofs.Checker.RaisedTier
import QualityScale.Proofs.Checker.CatalogOrder
import QualityScale.Proofs.Checker.UnknownRule
import QualityScale.Proofs.Checker.OwnFiles
import QualityScale.Proofs.FileTree.Removal
import QualityScale.Proofs.Checker.ExemptedRule
import QualityScale.Proofs.Registry.Loading
import QualityScale.Proofs.Command.Validation
import QualityScale.Proofs.Checker.Messages
import QualityScale.Proofs.Checker.EventTrace
import QualityScale.Proofs.Checker.FailingCount
import QualityScale.Proofs.Checker.AddedLines
import QualityScale.Proofs.Checker.FindingsInOrder
import QualityScale.Proofs.Path.Spelling
import QualityScale.Proofs.Config.PathRequest
import QualityScale.Proofs.Registry.RestrictedRun
import QualityScale.Proofs.Exemption.Contradiction
import QualityScale.Proofs.Json.RoundTrip
import QualityScale.Proofs.Json.Records
import QualityScale.Proofs.Completion.Shortfalls
import QualityScale.Proofs.Catalog.Building
import QualityScale.Proofs.Declaration.DocumentOrder
import QualityScale.Proofs.Declaration.Location
import QualityScale.Proofs.Declaration.UnseenEdits
import QualityScale.Proofs.Declaration.WholeEntries
import QualityScale.Proofs.Declaration.TextLiterals
import QualityScale.Proofs.Checker.DoneRules
import QualityScale.Proofs.Evidence.PlatformModules
import QualityScale.Proofs.Evidence.UniqueEntry
import QualityScale.Proofs.Integration.Manifest
import QualityScale.Proofs.Path.Order
import QualityScale.Proofs.Registry.ListingOrder
import QualityScale.Proofs.Presence.Decisions
import QualityScale.Proofs.Exemption.Merge
import QualityScale.Proofs.Text.Runs
import QualityScale.Proofs.Source.LineWise
import QualityScale.Proofs.Source.Calls
import QualityScale.Proofs.Source.Definitions
import QualityScale.Proofs.Source.Assignments
import QualityScale.Proofs.Source.EntryTypes
import QualityScale.Proofs.Evidence.EntryData
import QualityScale.Proofs.Catalog.Listing
import QualityScale.Proofs.Text.LowerCase
import QualityScale.Proofs.Tier.Reading
