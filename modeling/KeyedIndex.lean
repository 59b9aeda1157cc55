import KeyedIndex.Entity
import KeyedIndex.Config.Value
import KeyedIndex.Config.Layer
import KeyedIndex.Config.File
import KeyedIndex.Config.Toml.Document
import KeyedIndex.Config.Toml.Draft
import KeyedIndex.Config.Toml.Scalar
import KeyedIndex.Config.Toml.Token
import KeyedIndex.Config.Yaml.Block
import KeyedIndex.Config.Yaml.Document
import KeyedIndex.Config.Yaml.Token
import KeyedIndex.Config.Yaml.Outline
import KeyedIndex.Config.Yaml.Plain
import KeyedIndex.Config.Yaml.Quoted
import KeyedIndex.Config.Yaml.Scalar
import KeyedIndex.Config.Yaml.Tag
import KeyedIndex.Document.Basic
import KeyedIndex.Engine.Snapshot
import KeyedIndex.Entries
import KeyedIndex.Error
import KeyedIndex.Group.Basic
import KeyedIndex.Group.Json
import KeyedIndex.Group.Schema
import KeyedIndex.Index.Basic
import KeyedIndex.Index.Files
import KeyedIndex.Index.Shared
import KeyedIndex.Json.Decode
import KeyedIndex.Json.Doc
import KeyedIndex.Json.Numeral
import KeyedIndex.Json.Printer
import KeyedIndex.Json.Token
import KeyedIndex.Number.Float
import KeyedIndex.Number.Integer
import KeyedIndex.Predicate.Basic
import KeyedIndex.Proofs.Cache
import KeyedIndex.Proofs.Config.KeyPath
import KeyedIndex.Proofs.Config.Layers
import KeyedIndex.Proofs.Document.Bundle
import KeyedIndex.Proofs.Document.Codec
import KeyedIndex.Proofs.Group.Answers
import KeyedIndex.Proofs.Group.Json
import KeyedIndex.Proofs.Group.Leaves
import KeyedIndex.Proofs.Group.Names
import KeyedIndex.Proofs.Group.Parts
import KeyedIndex.Proofs.Index.Accounts
import KeyedIndex.Proofs.Index.Answers
import KeyedIndex.Proofs.Index.Closing
import KeyedIndex.Proofs.Index.Commits
import KeyedIndex.Proofs.Index.Filling
import KeyedIndex.Proofs.Index.Interleaving
import KeyedIndex.Proofs.Index.Lookup
import KeyedIndex.Proofs.Index.Opening
import KeyedIndex.Proofs.Index.Places
import KeyedIndex.Proofs.Index.Runs
import KeyedIndex.Proofs.Index.Session
import KeyedIndex.Proofs.Index.Snapshots
import KeyedIndex.Proofs.Json.Scan
import KeyedIndex.Proofs.Json.Tree
import KeyedIndex.Proofs.Number.Integer
import KeyedIndex.Proofs.Number.Numeral
import KeyedIndex.Proofs.Predicate.Cost
import KeyedIndex.Proofs.Predicate.ShortCircuit
import KeyedIndex.Proofs.Predicate.Truth
import KeyedIndex.Proofs.Query.Clauses
import KeyedIndex.Proofs.Query.Faults
import KeyedIndex.Proofs.Query.Meaning
import KeyedIndex.Proofs.Query.Written
import KeyedIndex.Proofs.Schema.Columns
import KeyedIndex.Proofs.Schema.Compatibility
import KeyedIndex.Proofs.Search.Buffer
import KeyedIndex.Proofs.Search.Collection
import KeyedIndex.Proofs.Search.Least
import KeyedIndex.Proofs.Search.Order
import KeyedIndex.Proofs.Search.Pages
import KeyedIndex.Proofs.Search.Ranking
import KeyedIndex.Proofs.Search.Segment
import KeyedIndex.Proofs.Search.Window
import KeyedIndex.Proofs.Settings.IndexPath
import KeyedIndex.Proofs.Settings.Load
import KeyedIndex.Proofs.Storage.Failures
import KeyedIndex.Proofs.Storage.Folders
import KeyedIndex.Proofs.Storage.IndexFile
import KeyedIndex.Proofs.Storage.Listing
import KeyedIndex.Proofs.Storage.Paths
import KeyedIndex.Proofs.Storage.Readiness
import KeyedIndex.Proofs.Storage.Retirement
import KeyedIndex.Proofs.Storage.StateFile
import KeyedIndex.Proofs.Storage.StateMap
import KeyedIndex.Proofs.Storage.Tree
import KeyedIndex.Proofs.Success
import KeyedIndex.Proofs.Text.Lowercase
import KeyedIndex.Proofs.Text.Order
import KeyedIndex.Proofs.Text.Runs
import KeyedIndex.Proofs.Text.Sigma
import KeyedIndex.Proofs.Time.Range
import KeyedIndex.Proofs.Writer.Batching
import KeyedIndex.Proofs.Writer.Changes
import KeyedIndex.Proofs.Writer.Effects
import KeyedIndex.Proofs.Writer.Refusals
import KeyedIndex.Proofs.Writer.Shared
import KeyedIndex.Query.Basic
import KeyedIndex.Query.Compiler
import KeyedIndex.Schema.Basic
import KeyedIndex.Schema.Layout
import KeyedIndex.Search.Hits
import KeyedIndex.Search.Rank
import KeyedIndex.Settings.Basic
import KeyedIndex.Settings.Load
import KeyedIndex.Storage.Disk
import KeyedIndex.Storage.IndexFile
import KeyedIndex.Storage.SharedVersions
import KeyedIndex.Storage.Versions
import KeyedIndex.Text.Basic
import KeyedIndex.Text.Quoted
import KeyedIndex.Text.Lowercase
import KeyedIndex.Text.Words
import KeyedIndex.Time.Instant
import KeyedIndex.Writer.Batch
import KeyedIndex.Writer.Shared
