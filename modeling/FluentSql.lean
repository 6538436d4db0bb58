import FluentSql.Backend
import FluentSql.Decimal.Binary
import FluentSql.Decimal.Extended
import FluentSql.Decimal.Numeral
import FluentSql.Decimal.Shortest
import FluentSql.Decimal.Style
import FluentSql.Embedded.Handle
import FluentSql.Embedded.Library
import FluentSql.Embedded.Provider
import FluentSql.Engine.Access
import FluentSql.Engine.Affinity
import FluentSql.Engine.Arithmetic
import FluentSql.Engine.Clause
import FluentSql.Engine.Command
import FluentSql.Engine.Connection
import FluentSql.Engine.Database
import FluentSql.Engine.Definition
import FluentSql.Engine.Estimate
import FluentSql.Engine.Grammar
import FluentSql.Engine.Numeral
import FluentSql.Engine.Order
import FluentSql.Engine.Pinning
import FluentSql.Engine.Reading
import FluentSql.Engine.Reference
import FluentSql.Engine.Route
import FluentSql.Engine.Term
import FluentSql.Engine.Token
import FluentSql.Engine.Vault
import FluentSql.Engine.Walk
import FluentSql.Engine.Writing
import FluentSql.Entity
import FluentSql.Entity.Operation
import FluentSql.Error
import FluentSql.Filter
import FluentSql.Host
import FluentSql.Interchange
import FluentSql.Journal
import FluentSql.NameList
import FluentSql.Outcome
import FluentSql.Proofs.Accounts
import FluentSql.Proofs.Agreement
import FluentSql.Proofs.Blindness
import FluentSql.Proofs.BoundParameters
import FluentSql.Proofs.Bystanders
import FluentSql.Proofs.Cabinet
import FluentSql.Proofs.Clause
import FluentSql.Proofs.ColumnHistory
import FluentSql.Proofs.CommandRuns
import FluentSql.Proofs.CreatedIds
import FluentSql.Proofs.DatabaseSwitch
import FluentSql.Proofs.DirectoryProvider
import FluentSql.Proofs.Disconnecting
import FluentSql.Proofs.EntityDeletes
import FluentSql.Proofs.EntityOperations
import FluentSql.Proofs.EntityScope
import FluentSql.Proofs.Errands
import FluentSql.Proofs.FailedMigration
import FluentSql.Proofs.FailedOpening
import FluentSql.Proofs.FileNames
import FluentSql.Proofs.FileTree
import FluentSql.Proofs.FilterHistory
import FluentSql.Proofs.Folders
import FluentSql.Proofs.HandleConduct
import FluentSql.Proofs.HandleDiscipline
import FluentSql.Proofs.HandleRelations
import FluentSql.Proofs.HandleUses
import FluentSql.Proofs.Heeding
import FluentSql.Proofs.HookCalls
import FluentSql.Proofs.HookRuns
import FluentSql.Proofs.HostConduct
import FluentSql.Proofs.HostOwnership
import FluentSql.Proofs.HostSeparation
import FluentSql.Proofs.IntegerReading
import FluentSql.Proofs.IntegerTexts
import FluentSql.Proofs.Joining
import FluentSql.Proofs.KeptNames
import FluentSql.Proofs.LettingGo
import FluentSql.Proofs.Literal
import FluentSql.Proofs.MemoryProvider
import FluentSql.Proofs.Mirror
import FluentSql.Proofs.NameLists
import FluentSql.Proofs.NamedAccess
import FluentSql.Proofs.Naming
import FluentSql.Proofs.Numbering
import FluentSql.Proofs.Numerals
import FluentSql.Proofs.Observation
import FluentSql.Proofs.OpeningCourse
import FluentSql.Proofs.Operations
import FluentSql.Proofs.Ownership
import FluentSql.Proofs.PrivateMemory
import FluentSql.Proofs.Projection
import FluentSql.Proofs.ProviderRuns
import FluentSql.Proofs.ReadSettings
import FluentSql.Proofs.RecordHistory
import FluentSql.Proofs.RecordSetCalls
import FluentSql.Proofs.RecordSetInsert
import FluentSql.Proofs.Recording
import FluentSql.Proofs.RegistryOperations
import FluentSql.Proofs.RegistryOwnership
import FluentSql.Proofs.RegistryRuns
import FluentSql.Proofs.ReportedText
import FluentSql.Proofs.Respect
import FluentSql.Proofs.Rounding
import FluentSql.Proofs.RowRecords
import FluentSql.Proofs.ScalarReads
import FluentSql.Proofs.SchemaVersion
import FluentSql.Proofs.ScopedOpening
import FluentSql.Proofs.SeparateHandles
import FluentSql.Proofs.SessionStack
import FluentSql.Proofs.StatementKinds
import FluentSql.Proofs.StatementReports
import FluentSql.Proofs.StatementText
import FluentSql.Proofs.Surveys
import FluentSql.Proofs.TableAnswers
import FluentSql.Proofs.TableHistory
import FluentSql.Proofs.TransactionScope
import FluentSql.Proofs.Undisturbed
import FluentSql.Proofs.UnitRelations
import FluentSql.Proofs.UnitReuse
import FluentSql.Proofs.VaultConduct
import FluentSql.Proofs.VersionFrame
import FluentSql.Proofs.WrittenLiterals
import FluentSql.Query
import FluentSql.Record
import FluentSql.Registry
import FluentSql.Rehearsal
import FluentSql.Rows
import FluentSql.Scalar
import FluentSql.Schema.Column
import FluentSql.Schema.Table
import FluentSql.Session.Basic
import FluentSql.Session.Databases
import FluentSql.Session.Operation
import FluentSql.Session.Tables
import FluentSql.Settings
import FluentSql.Settings.Toml
import FluentSql.Statement.Delete
import FluentSql.Statement.Insert
import FluentSql.Statement.Select
import FluentSql.Statement.Update
import FluentSql.Storage.Address
import FluentSql.Storage.Basic
import FluentSql.Storage.Files
import FluentSql.Storage.Library
import FluentSql.Task
import FluentSql.Text.Ascii
import FluentSql.Text.Blank
import FluentSql.Text.Path
import FluentSql.Text.Pieces
import FluentSql.Text.Printable
import FluentSql.Text.Quoted
import FluentSql.Text.Utf8
import FluentSql.Value
import FluentSql.WorkUnit
