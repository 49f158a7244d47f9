import SchemaDrift.Catalog.Integration
import SchemaDrift.Catalog.Registry
import SchemaDrift.Column
import SchemaDrift.CommandLine.CatalogTable
import SchemaDrift.CommandLine.Connection
import SchemaDrift.CommandLine.Directory
import SchemaDrift.CommandLine.EnvironmentFile
import SchemaDrift.CommandLine.EnvironmentFile.Entry
import SchemaDrift.CommandLine.EnvironmentFile.Value
import SchemaDrift.CommandLine.Invocation
import SchemaDrift.CommandLine.Layout
import SchemaDrift.CommandLine.ModelTable
import SchemaDrift.CommandLine.Outcome
import SchemaDrift.CommandLine.Path
import SchemaDrift.CommandLine.Planning
import SchemaDrift.CommandLine.Run
import SchemaDrift.CommandLine.Switch
import SchemaDrift.CommandLine.Word
import SchemaDrift.Config
import SchemaDrift.Config.File
import SchemaDrift.Data.Basic
import SchemaDrift.Data.Decode
import SchemaDrift.Data.Value
import SchemaDrift.Decimal.Binary64
import SchemaDrift.Decimal.Shortest
import SchemaDrift.Diagnostic
import SchemaDrift.Dictionary
import SchemaDrift.Drift
import SchemaDrift.FileError
import SchemaDrift.Identifier.Engine
import SchemaDrift.Identifier.Literal
import SchemaDrift.Identifier.Normalize
import SchemaDrift.Json.Numeral
import SchemaDrift.Json.Printer
import SchemaDrift.Json.Reader
import SchemaDrift.Listing.CatalogEntry
import SchemaDrift.Listing.Contents
import SchemaDrift.Listing.DynamicTable
import SchemaDrift.Listing.FetchError
import SchemaDrift.Listing.Row
import SchemaDrift.Listing.Table
import SchemaDrift.Main
import SchemaDrift.Model.Basic
import SchemaDrift.Model.Manifest
import SchemaDrift.Model.Settings
import SchemaDrift.Operation
import SchemaDrift.Plan
import SchemaDrift.Policy
import SchemaDrift.Reconciliation
import SchemaDrift.Relation.Basic
import SchemaDrift.Relation.Kind
import SchemaDrift.Report
import SchemaDrift.Session
import SchemaDrift.Snowflake.Answer
import SchemaDrift.Snowflake.Statement
import SchemaDrift.Text.Alphanumeric
import SchemaDrift.Text.AlphanumericTable
import SchemaDrift.Text.AsciiCase
import SchemaDrift.Text.Blank
import SchemaDrift.Text.CaseMap
import SchemaDrift.Text.CaseTable
import SchemaDrift.Text.Digits
import SchemaDrift.Text.Occurrence
import SchemaDrift.Text.Scan
import SchemaDrift.Text.Trim
import SchemaDrift.Toml.Number
import SchemaDrift.Toml.Printer
import SchemaDrift.Toml.Reader
import SchemaDrift.Toml.Text
import SchemaDrift.Toml.Tree
import SchemaDrift.Warehouse.Basic
import SchemaDrift.Proofs.Drift.Additions
import SchemaDrift.Proofs.Drift.Mirror
import SchemaDrift.Proofs.Operation.Runs
import SchemaDrift.Proofs.Operation.Redundancy
import SchemaDrift.Proofs.Plan.Target
import SchemaDrift.Proofs.Plan.Resumption
import SchemaDrift.Proofs.Plan.State
import SchemaDrift.Proofs.Plan.Coverage
import SchemaDrift.Proofs.Plan.Findings
import SchemaDrift.Proofs.Plan.Reordering
import SchemaDrift.Proofs.Plan.Respelling
import SchemaDrift.Proofs.Reconciliation.Execution
import SchemaDrift.Proofs.Reconciliation.Interleaving
import SchemaDrift.Proofs.Reconciliation.Convergence
import SchemaDrift.Proofs.Reconciliation.Recovery
import SchemaDrift.Proofs.Text.Delimited
import SchemaDrift.Proofs.Text.Segments
import SchemaDrift.Proofs.Identifier.Reading
import SchemaDrift.Proofs.Snowflake.Unambiguous
import SchemaDrift.Proofs.Catalog.Registrations
import SchemaDrift.Proofs.Catalog.Placements
import SchemaDrift.Proofs.Catalog.Formats
import SchemaDrift.Proofs.Catalog.Locations
import SchemaDrift.Proofs.Catalog.Names
import SchemaDrift.Proofs.Warehouse.Listings
import SchemaDrift.Proofs.Identifier.Normalization
import SchemaDrift.Proofs.Text.CaseConversion
import SchemaDrift.Proofs.Identifier.Idempotence
import SchemaDrift.Proofs.Identifier.Unquoting
import SchemaDrift.Proofs.Warehouse.Search
import SchemaDrift.Proofs.Warehouse.Log
import SchemaDrift.Proofs.Snowflake.Target
import SchemaDrift.Proofs.CommandLine.PlanReport
import SchemaDrift.Proofs.CommandLine.ModelPreview
import SchemaDrift.Proofs.Report.Counters
import SchemaDrift.Proofs.Data.Records
import SchemaDrift.Proofs.Report.ReadBack
import SchemaDrift.Proofs.Listing.Classification
import SchemaDrift.Proofs.Listing.Layout
import SchemaDrift.Proofs.Model.Settings
import SchemaDrift.Proofs.Report.Accounting
import SchemaDrift.Proofs.Model.Incremental
import SchemaDrift.Proofs.Snowflake.Likeness
import SchemaDrift.Proofs.Snowflake.Lookup
import SchemaDrift.Proofs.Data.Rearrangement
import SchemaDrift.Proofs.Config.SavedSettings
