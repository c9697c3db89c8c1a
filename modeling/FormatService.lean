import FormatService.Text.Basic
import FormatService.Text.Blank
import FormatService.Text.Unseen
import FormatService.Text.Quoted
import FormatService.Path
import FormatService.Tool
import FormatService.ProjectRoot
import FormatService.ToolCache
import FormatService.LogLevel
import FormatService.Table
import FormatService.Edit.Script
import FormatService.Edit.Common
import FormatService.Edit.MiddleSnake
import FormatService.Edit.Merge
import FormatService.Edit.Align
import FormatService.Edit.Semantic
import FormatService.Edit.Difference
import FormatService.Edit.Change
import FormatService.Document
import FormatService.Text.Alphanumeric
import FormatService.Number.Binary64
import FormatService.Number.Shortest
import FormatService.Json.Number
import FormatService.Json.Token
import FormatService.Json.Value
import FormatService.Json.Reader
import FormatService.Json.Printer
import FormatService.Settings.Basic
import FormatService.Settings.Decode
import FormatService.Settings.Print
import FormatService.Text.Search
import FormatService.Host
import FormatService.MemoryHost
import FormatService.Settings.Lookup
import FormatService.Coordinator.Basic
import FormatService.Coordinator.Rebuild
import FormatService.Coordinator.Format
import FormatService.Session.Observation
import FormatService.Session.Steps
import FormatService.Text.Plain
import FormatService.Text.Similar
import FormatService.CommandLine.Grammar
import FormatService.CommandLine.Shape
import FormatService.CommandLine.Usage
import FormatService.CommandLine.Halt
import FormatService.CommandLine.Reading
import FormatService.CommandLine.Invocation
import FormatService.Execution
import FormatService.Text.Utf8
import FormatService.Machine.FileTree
import FormatService.Regex.Basic
import FormatService.Regex.Grammar
import FormatService.LineEditor.Command
import FormatService.LineEditor.Replacement
import FormatService.LineEditor.Grammar
import FormatService.LineEditor.Evaluation
import FormatService.Utility.Options
import FormatService.Utility.Basic
import FormatService.Utility.Concatenate
import FormatService.Utility.Count
import FormatService.Utility.Edit
import FormatService.Utility.Run
import FormatService.Machine.Launch
import FormatService.Shell.Command
import FormatService.Shell.Source
import FormatService.Shell.Word
import FormatService.Shell.Token
import FormatService.Shell.Grammar
import FormatService.Shell.Pattern
import FormatService.Shell.Arithmetic
import FormatService.Shell.Signal
import FormatService.Shell.State
import FormatService.Shell.Field
import FormatService.Shell.Parameter
import FormatService.Shell.Expansion
import FormatService.Shell.Print
import FormatService.Shell.Condition
import FormatService.Shell.Lookup
import FormatService.Shell.Builtin.Basic
import FormatService.Shell.Builtin.Leaving
import FormatService.Shell.Builtin.Variable
import FormatService.Shell.Builtin.Output
import FormatService.Shell.Builtin.Option
import FormatService.Shell.Builtin.Directory
import FormatService.Shell.Builtin.Process
import FormatService.Shell.Builtin.Table
import FormatService.Shell.Process
import FormatService.Shell.Evaluation
import FormatService.Machine.Basic
import FormatService.Machine.Program
import FormatService.Machine.Snapshot
import FormatService.Main
import FormatService.Proofs.Text.Boundary
import FormatService.Proofs.Edit.Difference
import FormatService.Proofs.Edit.Change
import FormatService.Proofs.Edit.RoundTrip
import FormatService.Proofs.Edit.Inverse
import FormatService.Proofs.Text.Bytes
import FormatService.Proofs.Edit.Anchor
import FormatService.Proofs.Edit.Application
import FormatService.Proofs.Document.Timeline
import FormatService.Proofs.Coordinator.Rebuild
import FormatService.Proofs.Host.Request
import FormatService.Proofs.Host.Steady
import FormatService.Proofs.Coordinator.Request
import FormatService.Proofs.Coordinator.Format
import FormatService.Proofs.Coordinator.Rebuilt
import FormatService.Proofs.Execution.Start
import FormatService.Proofs.Execution.File
import FormatService.Proofs.Execution.InPlace
import FormatService.Proofs.Execution.Independence
import FormatService.Proofs.Session.Advance
import FormatService.Proofs.ToolCache
import FormatService.Proofs.Session.Chronicle
import FormatService.Proofs.Session.Move
import FormatService.Proofs.Session.Listener
import FormatService.Proofs.Session.Slot
import FormatService.Proofs.Session.Sleep
import FormatService.Proofs.Session.Turn
import FormatService.Proofs.Session.Settling
import FormatService.Proofs.Session.Provenance
import FormatService.Proofs.Session.Shift
import FormatService.Proofs.Session.AppliedPaths
import FormatService.Proofs.Session.AdoptedRoots
import FormatService.Proofs.Session.Convergence
import FormatService.Proofs.Session.Barred
import FormatService.Proofs.Session.Tracking
import FormatService.Proofs.Session.Flight
import FormatService.Proofs.Session.Disposal
import FormatService.Proofs.Coordinator.Completion
import FormatService.Proofs.Session.Ledger
import FormatService.Proofs.Session.Course
import FormatService.Proofs.Coordinator.Attribution
import FormatService.Proofs.Execution.Accounts
import FormatService.Proofs.LogLevel.Coordinator
import FormatService.Proofs.LogLevel.Session
import FormatService.Proofs.LogLevel.Execution
import FormatService.Proofs.Execution.RemoteProject
import FormatService.Proofs.LogLevel.Host
import FormatService.Proofs.ProjectRoot.Deepest
import FormatService.Proofs.CommandLine.Given
import FormatService.Proofs.ToolCache.Contents
import FormatService.Proofs.CommandLine.Level
import FormatService.Proofs.CommandLine.Request
import FormatService.Proofs.CommandLine.Safety
import FormatService.Proofs.CommandLine.Flags
import FormatService.Proofs.CommandLine.Written
import FormatService.Proofs.CommandLine.Line
import FormatService.Proofs.Except
import FormatService.Proofs.Path.Canonical
import FormatService.Proofs.Json.Occurrence
import FormatService.Proofs.Settings.Decode
import FormatService.Proofs.Json.Spelling
import FormatService.Proofs.Settings.RoundTrip
import FormatService.Proofs.Settings.Lookup
import FormatService.Proofs.Execution.Overflow
import FormatService.Proofs.Table
