import IdentityMap.Binary64.Basic
import IdentityMap.Binary64.BitText
import IdentityMap.Binary64.Rounding
import IdentityMap.Binary64.Shortest
import IdentityMap.Cache.CacheSet
import IdentityMap.Cache.IdentityCache
import IdentityMap.Cache.Instance
import IdentityMap.Cache.Merging
import IdentityMap.Calendar.Basic
import IdentityMap.Calendar.Pattern
import IdentityMap.Database.Affinity
import IdentityMap.Database.Basic
import IdentityMap.Database.Catalog
import IdentityMap.Database.Plan
import IdentityMap.Database.Refusal
import IdentityMap.Database.Scan
import IdentityMap.Database.Stored
import IdentityMap.Database.Table
import IdentityMap.Distinct
import IdentityMap.Draft
import IdentityMap.Error
import IdentityMap.Gateway
import IdentityMap.Mapping.Catalog
import IdentityMap.Mapping.Table
import IdentityMap.OrderedMap
import IdentityMap.Policy
import IdentityMap.Proofs.Cache.Batch
import IdentityMap.Proofs.Cache.Changes
import IdentityMap.Proofs.Cache.Lineage
import IdentityMap.Proofs.Cache.Merges
import IdentityMap.Proofs.Cache.Representation
import IdentityMap.Proofs.Cache.Response
import IdentityMap.Proofs.Cache.Settled
import IdentityMap.Proofs.Cache.Snapshot
import IdentityMap.Proofs.Cache.Step
import IdentityMap.Proofs.Calendar.Written
import IdentityMap.Proofs.Coherence.Mirror
import IdentityMap.Proofs.Coherence.Persist
import IdentityMap.Proofs.Coherence.RoundTrip
import IdentityMap.Proofs.Coherence.Schema
import IdentityMap.Proofs.Coherence.Session
import IdentityMap.Proofs.Coherence.Tables
import IdentityMap.Proofs.Coherence.Writes
import IdentityMap.Proofs.CompleteRecords
import IdentityMap.Proofs.Declaration
import IdentityMap.Proofs.Gateway
import IdentityMap.Proofs.Keys
import IdentityMap.Proofs.Mapping
import IdentityMap.Proofs.OrderedMapLookup
import IdentityMap.Proofs.Rearranged
import IdentityMap.Proofs.Rows
import IdentityMap.Proofs.Sends
import IdentityMap.Proofs.Session.Accounts
import IdentityMap.Proofs.Session.Batch
import IdentityMap.Proofs.Session.Course
import IdentityMap.Proofs.Session.Delete
import IdentityMap.Proofs.Session.Evolution
import IdentityMap.Proofs.Session.Lookup
import IdentityMap.Proofs.Session.Pairing
import IdentityMap.Proofs.Session.Persist
import IdentityMap.Proofs.Session.Refresh
import IdentityMap.Proofs.Session.Registration
import IdentityMap.Proofs.Session.Request
import IdentityMap.Proofs.Session.Sequence
import IdentityMap.Proofs.Session.Sound
import IdentityMap.Proofs.SettingsFile
import IdentityMap.Proofs.SnakeCase
import IdentityMap.Proofs.Sql.Binding
import IdentityMap.Proofs.Sql.CommandText
import IdentityMap.Proofs.Sql.Definitions
import IdentityMap.Proofs.Sql.Indexes
import IdentityMap.Proofs.Sql.Memory
import IdentityMap.Proofs.Sql.Names
import IdentityMap.Proofs.Sql.ObjectTest
import IdentityMap.Proofs.Sql.Placeholders
import IdentityMap.Proofs.Sql.Spelling
import IdentityMap.Proofs.Sql.Tables
import IdentityMap.Proofs.Sql.Together
import IdentityMap.Proofs.Sql.Tokens
import IdentityMap.Proofs.Store.Announcements
import IdentityMap.Proofs.Store.AtRest
import IdentityMap.Proofs.Store.Audience
import IdentityMap.Proofs.Store.Batch
import IdentityMap.Proofs.Store.BatchSlots
import IdentityMap.Proofs.Store.BulkInsert
import IdentityMap.Proofs.Store.Coherence
import IdentityMap.Proofs.Store.Counters
import IdentityMap.Proofs.Store.Deletion
import IdentityMap.Proofs.Store.Events
import IdentityMap.Proofs.Store.Failure
import IdentityMap.Proofs.Store.Groups
import IdentityMap.Proofs.Store.Identity
import IdentityMap.Proofs.Store.KeyLists
import IdentityMap.Proofs.Store.KeyedLookup
import IdentityMap.Proofs.Store.Leftover
import IdentityMap.Proofs.Store.Operation
import IdentityMap.Proofs.Store.Outcomes
import IdentityMap.Proofs.Store.Overwrite
import IdentityMap.Proofs.Store.PersistedInstance
import IdentityMap.Proofs.Store.RefreshTwice
import IdentityMap.Proofs.Store.Registration
import IdentityMap.Proofs.Store.Reread
import IdentityMap.Proofs.Store.Retry
import IdentityMap.Proofs.Store.Schedule
import IdentityMap.Proofs.Store.Sequence
import IdentityMap.Proofs.Store.SlotRuns
import IdentityMap.Proofs.Store.Slots
import IdentityMap.Proofs.Store.TriggerFailures
import IdentityMap.Proofs.Store.Typewise
import IdentityMap.Proofs.Store.WholeTable
import IdentityMap.Proofs.TableErrors
import IdentityMap.Proofs.Toml.Lines
import IdentityMap.Proofs.Trigger.Dispatch
import IdentityMap.Proofs.Trigger.Registrations
import IdentityMap.Proofs.Value.Decoding
import IdentityMap.Proofs.Value.Stored
import IdentityMap.Proofs.Work
import IdentityMap.Proofs.WorkerPool
import IdentityMap.Row
import IdentityMap.RowStore
import IdentityMap.RowStore.Scripted
import IdentityMap.Schema.Declaration
import IdentityMap.Schema.EntityType
import IdentityMap.Schema.ScalarType
import IdentityMap.Session.Basic
import IdentityMap.Session.Delete
import IdentityMap.Session.Lookup
import IdentityMap.Session.Persist
import IdentityMap.Settings.Basic
import IdentityMap.Settings.File
import IdentityMap.Sql.Command
import IdentityMap.Sql.CommandText
import IdentityMap.Sql.Dialect
import IdentityMap.Sql.Dialects
import IdentityMap.Sql.Statement
import IdentityMap.Sql.Token
import IdentityMap.Store
import IdentityMap.Text.Blank
import IdentityMap.Text.Hexadecimal
import IdentityMap.Text.Listed
import IdentityMap.Text.Quoted
import IdentityMap.Text.SnakeCase
import IdentityMap.Text.Unprinted
import IdentityMap.Toml.Codec
import IdentityMap.Toml.Document
import IdentityMap.Toml.Node
import IdentityMap.Toml.Scalar
import IdentityMap.Toml.Strings
import IdentityMap.Trigger.Dispatcher
import IdentityMap.Trigger.Event
import IdentityMap.Trigger.Scripted
import IdentityMap.Value.Basic
import IdentityMap.Value.Key
import IdentityMap.Value.Record
import IdentityMap.Value.Tagged
import IdentityMap.WorkerPool
