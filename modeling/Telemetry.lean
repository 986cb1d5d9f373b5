import Telemetry.Admin.CommandLine
import Telemetry.Admin.Failure
import Telemetry.Admin.Maintenance
import Telemetry.Admin.Tool
import Telemetry.Chunks
import Telemetry.Client.Events
import Telemetry.Client.Readings
import Telemetry.Client.ValueDescriptors
import Telemetry.Collection
import Telemetry.Decimal.Binary64
import Telemetry.Decimal.Scaled
import Telemetry.Decimal.Shortest
import Telemetry.Decimal.Style
import Telemetry.Document
import Telemetry.Document.Stored
import Telemetry.Entity.Event
import Telemetry.Entity.Reading
import Telemetry.Entity.ValueDescriptor
import Telemetry.Filter
import Telemetry.Json.Decoder
import Telemetry.Json.Draft
import Telemetry.Json.Mismatch
import Telemetry.Json.Printer
import Telemetry.Json.Reader
import Telemetry.Json.Shape
import Telemetry.Json.Value
import Telemetry.LinkError
import Telemetry.Log
import Telemetry.Log.Directive
import Telemetry.Log.Filter
import Telemetry.Log.Pattern
import Telemetry.Log.Pattern.CharSet
import Telemetry.Log.Pattern.Escape
import Telemetry.Main
import Telemetry.Memory
import Telemetry.ObjectId
import Telemetry.ObjectId.Generator
import Telemetry.OrderedMap
import Telemetry.Power
import Telemetry.Program
import Telemetry.Proofs.Admin.CommandLine
import Telemetry.Proofs.Admin.Confirmation
import Telemetry.Proofs.Calls
import Telemetry.Proofs.Catalogue
import Telemetry.Proofs.Client.AddedEvents
import Telemetry.Proofs.Client.Closing
import Telemetry.Proofs.Client.Deletion
import Telemetry.Proofs.Client.DescriptorsInUse
import Telemetry.Proofs.Client.EventAges
import Telemetry.Proofs.Client.Events
import Telemetry.Proofs.Client.FirstCall
import Telemetry.Proofs.Client.Foreseen
import Telemetry.Proofs.Client.InsertionOrder
import Telemetry.Proofs.Client.Loading
import Telemetry.Proofs.Client.NameConflicts
import Telemetry.Proofs.Client.Operations
import Telemetry.Proofs.Client.Outcomes
import Telemetry.Proofs.Client.Queries
import Telemetry.Proofs.Client.ReadingChanges
import Telemetry.Proofs.Client.Readings
import Telemetry.Proofs.Client.References
import Telemetry.Proofs.Client.Runs
import Telemetry.Proofs.Client.UpdatedEvents
import Telemetry.Proofs.Client.ValueDescriptors
import Telemetry.Proofs.Client.WellTyped
import Telemetry.Proofs.Client.Yields
import Telemetry.Proofs.Entity
import Telemetry.Proofs.Entity.Reencoding
import Telemetry.Proofs.Filter
import Telemetry.Proofs.Json.Decoder
import Telemetry.Proofs.Json.Equality
import Telemetry.Proofs.Json.Rewriting
import Telemetry.Proofs.Memory.Batches
import Telemetry.Proofs.Memory.Catalogue
import Telemetry.Proofs.Memory.IdLookup
import Telemetry.Proofs.Memory.NameUniqueness
import Telemetry.Proofs.Memory.Selection
import Telemetry.Proofs.Memory.Writes
import Telemetry.Proofs.ObjectId.Distinctness
import Telemetry.Proofs.ObjectId.Encoding
import Telemetry.Proofs.ObjectId.Order
import Telemetry.Proofs.ObjectId.Text
import Telemetry.Proofs.OrderedMap
import Telemetry.Proofs.Settings.Override
import Telemetry.Proofs.Sql.Assembly
import Telemetry.Proofs.Sql.ClosedPool
import Telemetry.Proofs.Sql.ConditionText
import Telemetry.Proofs.Sql.Exchange
import Telemetry.Proofs.Sql.FailStop
import Telemetry.Proofs.Sql.Failure
import Telemetry.Proofs.Sql.Insertion
import Telemetry.Proofs.Sql.Limits
import Telemetry.Proofs.Sql.Meaning
import Telemetry.Proofs.Sql.Parameters
import Telemetry.Proofs.Sql.Reading
import Telemetry.Proofs.Sql.Templates
import Telemetry.Proofs.Sql.Updates
import Telemetry.Proofs.Sql.Writable
import Telemetry.Proofs.Sql.WriteOrder
import Telemetry.Proofs.Text.Numerals
import Telemetry.Settings.Database
import Telemetry.Settings.Loading
import Telemetry.Settings.Override
import Telemetry.Settings.Record
import Telemetry.Sql.Condition
import Telemetry.Sql.Server
import Telemetry.Sql.Statement
import Telemetry.Sql.Store
import Telemetry.Sql.Table
import Telemetry.StoreError
import Telemetry.Text.Blank
import Telemetry.Text.CodePoint
import Telemetry.Text.Hex
import Telemetry.Text.Hidden
import Telemetry.Text.Natural
import Telemetry.Text.Positional
import Telemetry.Text.Quoted
import Telemetry.Text.Ranges
import Telemetry.Text.Word
import Telemetry.Toml.Json
import Telemetry.Toml.Reader
import Telemetry.Toml.Scalar
import Telemetry.Toml.Tree
