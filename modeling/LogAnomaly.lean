import LogAnomaly.Arithmetic
import LogAnomaly.Ascending
import LogAnomaly.Cluster.Basic
import LogAnomaly.Cluster.Clusterer
import LogAnomaly.Cluster.Component
import LogAnomaly.Cluster.EditDistance
import LogAnomaly.Cluster.Error
import LogAnomaly.Cluster.Fingerprint
import LogAnomaly.Cluster.Placeholder
import LogAnomaly.Cluster.Preparation
import LogAnomaly.Cluster.Shared
import LogAnomaly.Cluster.Tokens
import LogAnomaly.Cluster.Tolerance
import LogAnomaly.Command.Arguments
import LogAnomaly.Command.Failure
import LogAnomaly.Command.LogLine
import LogAnomaly.Command.Path
import LogAnomaly.Command.Run
import LogAnomaly.Command.Workspace
import LogAnomaly.Command.World
import LogAnomaly.Config.Basic
import LogAnomaly.Config.Document
import LogAnomaly.Config.EnvFile
import LogAnomaly.Config.Environment
import LogAnomaly.Config.Error
import LogAnomaly.Config.Range
import LogAnomaly.Decimal.Binary64
import LogAnomaly.Decimal.Parse
import LogAnomaly.Decimal.Shortest
import LogAnomaly.Decimal.Written
import LogAnomaly.Information.Binary
import LogAnomaly.Information.CommonSamples
import LogAnomaly.Information.Document
import LogAnomaly.Information.Matrix
import LogAnomaly.Information.Occupancy
import LogAnomaly.Information.SquareMatrix
import LogAnomaly.Interval.Basic
import LogAnomaly.Interval.Document
import LogAnomaly.Json.Ascii
import LogAnomaly.Json.Basic
import LogAnomaly.Json.Decode
import LogAnomaly.Json.Printer
import LogAnomaly.Json.Reader
import LogAnomaly.Main
import LogAnomaly.Partition.Basic
import LogAnomaly.Partition.Evaluate
import LogAnomaly.Partition.Filter
import LogAnomaly.Partition.Objective
import LogAnomaly.Partition.Run
import LogAnomaly.Partition.Search
import LogAnomaly.Proofs.Ascending
import LogAnomaly.Proofs.Cluster.CatchUp
import LogAnomaly.Proofs.Cluster.Clusterer
import LogAnomaly.Proofs.Cluster.Component
import LogAnomaly.Proofs.Cluster.Counter
import LogAnomaly.Proofs.Cluster.Detached
import LogAnomaly.Proofs.Cluster.Edges
import LogAnomaly.Proofs.Cluster.EditDistance
import LogAnomaly.Proofs.Cluster.Edits
import LogAnomaly.Proofs.Cluster.Failed
import LogAnomaly.Proofs.Cluster.Fingerprint
import LogAnomaly.Proofs.Cluster.Independent
import LogAnomaly.Proofs.Cluster.Joined
import LogAnomaly.Proofs.Cluster.Linked
import LogAnomaly.Proofs.Cluster.MagicWords
import LogAnomaly.Proofs.Cluster.Normalized
import LogAnomaly.Proofs.Cluster.Overlap
import LogAnomaly.Proofs.Cluster.Pairs
import LogAnomaly.Proofs.Cluster.Recency
import LogAnomaly.Proofs.Cluster.Transaction
import LogAnomaly.Proofs.Config.Loaded
import LogAnomaly.Proofs.Config.Ranges
import LogAnomaly.Proofs.Config.Reading
import LogAnomaly.Proofs.Information.CommonSamples
import LogAnomaly.Proofs.Information.Contingency
import LogAnomaly.Proofs.Information.Matrix
import LogAnomaly.Proofs.Information.Merged
import LogAnomaly.Proofs.Information.Rearranged
import LogAnomaly.Proofs.Information.Samples
import LogAnomaly.Proofs.Interval.Collapsed
import LogAnomaly.Proofs.Interval.Gathered
import LogAnomaly.Proofs.Interval.Trace
import LogAnomaly.Proofs.Json.Floats
import LogAnomaly.Proofs.Json.Numbers
import LogAnomaly.Proofs.Json.Records
import LogAnomaly.Proofs.Json.Strings
import LogAnomaly.Proofs.Json.Values
import LogAnomaly.Proofs.Partition.Climb
import LogAnomaly.Proofs.Partition.Cover
import LogAnomaly.Proofs.Partition.Decisions
import LogAnomaly.Proofs.Partition.Evaluate
import LogAnomaly.Proofs.Partition.Labels
import LogAnomaly.Proofs.Partition.Longer
import LogAnomaly.Proofs.Partition.Search
import LogAnomaly.Proofs.Partition.Sums
import LogAnomaly.Proofs.Partition.Tables
import LogAnomaly.Proofs.Partition.Verdicts
import LogAnomaly.Proofs.Partition.Worth
import LogAnomaly.Proofs.Scoring.Cache
import LogAnomaly.Proofs.Scoring.Lines
import LogAnomaly.Proofs.Scoring.Presence
import LogAnomaly.Proofs.Scoring.Representatives
import LogAnomaly.Proofs.Scoring.Tally
import LogAnomaly.Proofs.Store.Atomic
import LogAnomaly.Proofs.Store.Directory
import LogAnomaly.Proofs.Store.Document
import LogAnomaly.Proofs.Store.Lawful
import LogAnomaly.Proofs.Store.Script
import LogAnomaly.Proofs.Store.Steady
import LogAnomaly.Proofs.Store.Stored
import LogAnomaly.Proofs.Store.Waiting
import LogAnomaly.Proofs.Text.Blank
import LogAnomaly.Proofs.Text.Case
import LogAnomaly.Proofs.Text.Digits
import LogAnomaly.Proofs.Time.Order
import LogAnomaly.Proofs.Time.Parts
import LogAnomaly.Proofs.Time.Written
import LogAnomaly.Proofs.Training.Answers
import LogAnomaly.Proofs.Training.Coherent
import LogAnomaly.Proofs.Training.Document
import LogAnomaly.Proofs.Training.Rearranged
import LogAnomaly.Proofs.Uuid
import LogAnomaly.Proofs.Writers.Answers
import LogAnomaly.Proofs.Writers.Apart
import LogAnomaly.Proofs.Writers.Days
import LogAnomaly.Proofs.Writers.Fleet
import LogAnomaly.Proofs.Writers.Ids
import LogAnomaly.Proofs.Writers.MissedDays
import LogAnomaly.Proofs.Writers.Overview
import LogAnomaly.Proofs.Writers.Retry
import LogAnomaly.Proofs.Writers.Turn
import LogAnomaly.Random.Block
import LogAnomaly.Random.Stream
import LogAnomaly.Scoring.Basic
import LogAnomaly.Scoring.Document
import LogAnomaly.Scoring.Scorer
import LogAnomaly.Store.Any
import LogAnomaly.Store.Backoff
import LogAnomaly.Store.Basic
import LogAnomaly.Store.Document
import LogAnomaly.Store.File
import LogAnomaly.Store.Memory
import LogAnomaly.Store.Registry
import LogAnomaly.Store.Unreliable
import LogAnomaly.Text.Blank
import LogAnomaly.Text.Case
import LogAnomaly.Text.CodeRange
import LogAnomaly.Text.Digit
import LogAnomaly.Text.Pieces
import LogAnomaly.Text.Printable
import LogAnomaly.Text.Quoted
import LogAnomaly.Text.Word
import LogAnomaly.Time.Day
import LogAnomaly.Time.Instant
import LogAnomaly.Time.Reader
import LogAnomaly.Training.Document
import LogAnomaly.Training.Error
import LogAnomaly.Training.Model
import LogAnomaly.Training.StartingPoint
import LogAnomaly.Training.Trainer
import LogAnomaly.Uuid
import LogAnomaly.Word
