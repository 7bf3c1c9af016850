import Retrial.Case
import Retrial.Collection.Counter
import Retrial.Collection.Dict
import Retrial.Command.Basic
import Retrial.Command.Option
import Retrial.Command.Reply
import Retrial.Decimal.Binary
import Retrial.Decimal.Shortest
import Retrial.Digest.Sha256
import Retrial.Disk.Basic
import Retrial.Disk.Path
import Retrial.Execution
import Retrial.ExecutionId
import Retrial.Failure.Basic
import Retrial.Failure.Kind
import Retrial.Failure.Signature
import Retrial.Json.Leaf
import Retrial.Json.Number
import Retrial.Json.Reader
import Retrial.Json.Record
import Retrial.Json.Skip
import Retrial.Json.Value
import Retrial.Pattern.Basic
import Retrial.Pattern.Book
import Retrial.Pattern.Store
import Retrial.Problem
import Retrial.Proofs.Collection.Dict
import Retrial.Proofs.Csv.Reader
import Retrial.Proofs.Decimal.Shortest
import Retrial.Proofs.Decimal.Text
import Retrial.Proofs.Disk.Beside
import Retrial.Proofs.Disk.Change
import Retrial.Proofs.Disk.Folder
import Retrial.Proofs.Disk.Place
import Retrial.Proofs.Disk.Tree
import Retrial.Proofs.Double.Arithmetic
import Retrial.Proofs.Double.Packing
import Retrial.Proofs.Double.Rounding
import Retrial.Proofs.Double.Unit
import Retrial.Proofs.Failure.Classify
import Retrial.Proofs.Failure.Joins
import Retrial.Proofs.Failure.Lookalikes
import Retrial.Proofs.Failure.Numbers
import Retrial.Proofs.Failure.Replace
import Retrial.Proofs.Failure.Shape
import Retrial.Proofs.Failure.Stability
import Retrial.Proofs.Failure.Tokens
import Retrial.Proofs.Json.Brackets
import Retrial.Proofs.Json.Conversion
import Retrial.Proofs.Json.Decimals
import Retrial.Proofs.Json.Digits
import Retrial.Proofs.Json.Leaves
import Retrial.Proofs.Json.Origins
import Retrial.Proofs.Json.Reals
import Retrial.Proofs.Json.Skipping
import Retrial.Proofs.Json.Spelling
import Retrial.Proofs.Pattern.Agreement
import Retrial.Proofs.Pattern.Averages
import Retrial.Proofs.Pattern.Calls
import Retrial.Proofs.Pattern.Durability
import Retrial.Proofs.Pattern.Footprint
import Retrial.Proofs.Pattern.Growth
import Retrial.Proofs.Pattern.Order
import Retrial.Proofs.Pattern.Record
import Retrial.Proofs.Pattern.Reload
import Retrial.Proofs.Pattern.Sound
import Retrial.Proofs.Pattern.Tally
import Retrial.Proofs.Pool.Account
import Retrial.Proofs.Pool.Delivery
import Retrial.Proofs.Pool.Grouping
import Retrial.Proofs.Pool.Isolation
import Retrial.Proofs.Pool.Machine
import Retrial.Proofs.Pool.Partition
import Retrial.Proofs.Pool.Permits
import Retrial.Proofs.Pool.Schedule
import Retrial.Proofs.Report.Bars
import Retrial.Proofs.Report.Listing
import Retrial.Proofs.Result.Record
import Retrial.Proofs.Result.Totals
import Retrial.Proofs.Result.Verdict
import Retrial.Proofs.Retry.Average
import Retrial.Proofs.Retry.Backoff
import Retrial.Proofs.Run.Alone
import Retrial.Proofs.Run.Budget
import Retrial.Proofs.Run.Calls
import Retrial.Proofs.Run.Closings
import Retrial.Proofs.Run.Contexts
import Retrial.Proofs.Run.Course
import Retrial.Proofs.Run.Decisions
import Retrial.Proofs.Run.Exhaustion
import Retrial.Proofs.Run.Feedback
import Retrial.Proofs.Run.Findings
import Retrial.Proofs.Run.Frame
import Retrial.Proofs.Run.Isolation
import Retrial.Proofs.Run.Local
import Retrial.Proofs.Run.Occurrences
import Retrial.Proofs.Run.Registrations
import Retrial.Proofs.Run.Rounds
import Retrial.Proofs.Run.Scope
import Retrial.Proofs.Run.Trace
import Retrial.Proofs.Runner.Containment
import Retrial.Proofs.Runner.Listing
import Retrial.Proofs.Runner.Memory
import Retrial.Proofs.Runner.Parallel
import Retrial.Proofs.Runner.Repeats
import Retrial.Proofs.Runner.Restart
import Retrial.Proofs.Settings.Draft
import Retrial.Proofs.Settings.File
import Retrial.Proofs.Settings.Layers
import Retrial.Proofs.Settings.Record
import Retrial.Proofs.Statistics.Balance
import Retrial.Proofs.Statistics.Counts
import Retrial.Proofs.Statistics.Ranking
import Retrial.Proofs.Statistics.Window
import Retrial.Proofs.Storage.Changes
import Retrial.Proofs.Storage.Kept
import Retrial.Proofs.Text.Lowercase
import Retrial.Proofs.Time.Calendar
import Retrial.Proofs.Time.Order
import Retrial.Proofs.Time.Text
import Retrial.Proofs.Time.Valid
import Retrial.Report.Basic
import Retrial.Result.Basic
import Retrial.Result.Status
import Retrial.Result.Summary
import Retrial.Retry.Average
import Retrial.Retry.Policy
import Retrial.Run.Attempt
import Retrial.Run.Context
import Retrial.Run.Pool
import Retrial.Run.Proc
import Retrial.Run.Rehearsal
import Retrial.Run.Surroundings
import Retrial.Run.World
import Retrial.Runner
import Retrial.Settings.App
import Retrial.Settings.Block
import Retrial.Settings.Engine
import Retrial.Settings.File
import Retrial.Settings.Flags
import Retrial.Settings.LogLevel
import Retrial.Settings.Overrides
import Retrial.Statistics
import Retrial.Storage.Basic
import Retrial.Storage.Export
import Retrial.Text.CaseTable
import Retrial.Text.CharClass
import Retrial.Text.ClassTable
import Retrial.Text.Field
import Retrial.Text.Glyph
import Retrial.Text.Lowercase
import Retrial.Time.Calendar
import Retrial.Time.Instant
import Retrial.Time.Text
import Retrial.Yaml.Char
import Retrial.Yaml.Cursor
import Retrial.Yaml.Node
import Retrial.Yaml.Number
import Retrial.Yaml.Read
import Retrial.Yaml.ScalarText
import Retrial.Yaml.Scanner
import Retrial.Yaml.Token
import Retrial.Yaml.Write
import Retrial.Main
