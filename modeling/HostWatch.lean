import HostWatch.Agent.Output
import HostWatch.Agent.Sections
import HostWatch.Builtin
import HostWatch.Builtin.Load
import HostWatch.Builtin.Memory
import HostWatch.Builtin.Uptime
import HostWatch.Check.Call
import HostWatch.Check.Cluster
import HostWatch.Check.Crash
import HostWatch.Check.Data
import HostWatch.Check.Invoke
import HostWatch.Check.Locks
import HostWatch.Check.Plugin
import HostWatch.Check.Schedule
import HostWatch.CheckOutput
import HostWatch.CommandLine
import HostWatch.Config
import HostWatch.Config.File
import HostWatch.Decimal.Binary
import HostWatch.Decimal.Bits
import HostWatch.Decimal.Exponent
import HostWatch.Decimal.Integer
import HostWatch.Decimal.Plain
import HostWatch.Decimal.Reader
import HostWatch.Decimal.Shortest
import HostWatch.Disk
import HostWatch.Document
import HostWatch.Document.Decode
import HostWatch.Document.Reader
import HostWatch.Document.Token
import HostWatch.Environment
import HostWatch.Error
import HostWatch.ExitSpec
import HostWatch.Fetch
import HostWatch.Fetch.Read
import HostWatch.Fetch.Words
import HostWatch.HostReport
import HostWatch.HostResult
import HostWatch.Instant
import HostWatch.Inventory.Plugin
import HostWatch.Inventory.Tree
import HostWatch.Levels
import HostWatch.Main
import HostWatch.Metric
import HostWatch.Monitor
import HostWatch.Name
import HostWatch.Parameters
import HostWatch.Path
import HostWatch.Pattern
import HostWatch.Pattern.Bracket
import HostWatch.Pattern.Escape
import HostWatch.Pattern.Flags
import HostWatch.Pattern.Named
import HostWatch.Pattern.Reader
import HostWatch.Pattern.Size
import HostWatch.PatternLanguage
import HostWatch.Period
import HostWatch.Programs
import HostWatch.Programs.Concatenate
import HostWatch.Programs.Condition
import HostWatch.Programs.Escape
import HostWatch.Programs.Format
import HostWatch.Programs.Mention
import HostWatch.Programs.Numeral
import HostWatch.Programs.Shell
import HostWatch.Programs.Shell.Arithmetic
import HostWatch.Programs.Shell.Builtin
import HostWatch.Programs.Shell.Expand
import HostWatch.Programs.Shell.Reader
import HostWatch.Programs.Shell.State
import HostWatch.Programs.Shell.Syntax
import HostWatch.Programs.Shell.Token
import HostWatch.Proofs.Agent.Blocks
import HostWatch.Proofs.Agent.Grouping
import HostWatch.Proofs.Agent.LineBreaks
import HostWatch.Proofs.Agent.Lines
import HostWatch.Proofs.Agent.Merging
import HostWatch.Proofs.Agent.RoundTrip
import HostWatch.Proofs.Agent.Splitting
import HostWatch.Proofs.Builtin.Memory
import HostWatch.Proofs.Check.Abort
import HostWatch.Proofs.Check.Commit
import HostWatch.Proofs.Check.Containment
import HostWatch.Proofs.Check.Interleaving
import HostWatch.Proofs.Check.Invocation
import HostWatch.Proofs.Check.LoneNode
import HostWatch.Proofs.Check.MergedSections
import HostWatch.Proofs.Check.NodeChoice
import HostWatch.Proofs.Check.Nodes
import HostWatch.Proofs.Check.OwnHost
import HostWatch.Proofs.Check.Resolution
import HostWatch.Proofs.Check.Schedule
import HostWatch.Proofs.Check.Service
import HostWatch.Proofs.Check.ServiceData
import HostWatch.Proofs.Check.Sources
import HostWatch.Proofs.Check.Steps
import HostWatch.Proofs.Check.Workers
import HostWatch.Proofs.Debug
import HostWatch.Proofs.Decimal.Integer
import HostWatch.Proofs.Disk
import HostWatch.Proofs.Document
import HostWatch.Proofs.Document.Reader
import HostWatch.Proofs.Document.Token
import HostWatch.Proofs.Fallible
import HostWatch.Proofs.Fetch
import HostWatch.Proofs.Headline
import HostWatch.Proofs.HostReport
import HostWatch.Proofs.Independence
import HostWatch.Proofs.Inventory.Content
import HostWatch.Proofs.Inventory.Tree
import HostWatch.Proofs.Inventory.Update
import HostWatch.Proofs.MissingData
import HostWatch.Proofs.MissingData.Exceptions
import HostWatch.Proofs.Parameters
import HostWatch.Proofs.Parameters.ReadBack
import HostWatch.Proofs.ParsingErrors
import HostWatch.Proofs.Pattern.Grouping
import HostWatch.Proofs.Pattern.Matching
import HostWatch.Proofs.Pattern.Parenthesis
import HostWatch.Proofs.Pattern.Parenthesis.Bracket
import HostWatch.Proofs.Pattern.Parenthesis.Step
import HostWatch.Proofs.Pattern.Remainder
import HostWatch.Proofs.Pattern.Run
import HostWatch.Proofs.PatternLanguage
import HostWatch.Proofs.Period
import HostWatch.Proofs.Period.BuiltIn
import HostWatch.Proofs.Restart
import HostWatch.Proofs.Run
import HostWatch.Proofs.Section.Provider
import HostWatch.Proofs.Section.Resolution
import HostWatch.Proofs.Section.Supersession
import HostWatch.Proofs.ServiceResult
import HostWatch.Proofs.SortedMap
import HostWatch.Proofs.Text.Lines
import HostWatch.Proofs.Text.Search
import HostWatch.Proofs.TimeRange
import HostWatch.Proofs.Value.ReadBack
import HostWatch.Proofs.ValueStore
import HostWatch.Proofs.ValueStore.Rate
import HostWatch.Proofs.ValueStore.Stored
import HostWatch.Rehearsal
import HostWatch.Rehearsal.Plugins
import HostWatch.Rehearsal.Script
import HostWatch.Rehearsal.Sources
import HostWatch.Run
import HostWatch.Section.Plugin
import HostWatch.Section.Provider
import HostWatch.Service
import HostWatch.ServiceResult
import HostWatch.SortedMap
import HostWatch.Source
import HostWatch.State
import HostWatch.Text.Blank
import HostWatch.Text.Category
import HostWatch.Text.CodeSet
import HostWatch.Text.Folding
import HostWatch.Text.Letter
import HostWatch.Text.Property
import HostWatch.Text.Quoted
import HostWatch.Text.Script
import HostWatch.Text.Split
import HostWatch.Text.Unprintable
import HostWatch.Text.Utf8
import HostWatch.Text.WordChar
import HostWatch.Value
import HostWatch.Value.Lenient
import HostWatch.Value.Writer
import HostWatch.ValueStore
import HostWatch.ValueStore.Stored
