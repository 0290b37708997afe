import PipeShell.Argv.Basic
import PipeShell.Argv.CString
import PipeShell.Editor.Basic
import PipeShell.Editor.Editing
import PipeShell.Editor.History
import PipeShell.Editor.Keys
import PipeShell.Editor.Line
import PipeShell.Errno
import PipeShell.Host.Act
import PipeShell.Host.ByteText
import PipeShell.Host.Console
import PipeShell.Host.Environment
import PipeShell.Host.Executable
import PipeShell.Host.FileSystem
import PipeShell.Host.FileSystem.Change
import PipeShell.Host.Machine
import PipeShell.Host.Number.Conversion
import PipeShell.Host.Number.Floating
import PipeShell.Host.Number.Integer
import PipeShell.Host.Program
import PipeShell.Host.Script.Arithmetic
import PipeShell.Host.Script.Builtin.Commands
import PipeShell.Host.Script.Builtin.Jobs
import PipeShell.Host.Script.Builtin.Operands
import PipeShell.Host.Script.Builtin.Places
import PipeShell.Host.Script.Builtin.Print
import PipeShell.Host.Script.Builtin.Read
import PipeShell.Host.Script.Builtin.Test
import PipeShell.Host.Script.Builtin.Variables
import PipeShell.Host.Script.Evaluate
import PipeShell.Host.Script.Expansion
import PipeShell.Host.Script.Field
import PipeShell.Host.Script.Interpreter
import PipeShell.Host.Script.Job
import PipeShell.Host.Script.Lookup
import PipeShell.Host.Script.Pattern
import PipeShell.Host.Script.Reader.Command
import PipeShell.Host.Script.Reader.Word
import PipeShell.Host.Script.Redirect
import PipeShell.Host.Script.Scope
import PipeShell.Host.Script.Source
import PipeShell.Host.Script.Syntax
import PipeShell.Host.Signals
import PipeShell.Host.Tool.All
import PipeShell.Host.Tool.Amount
import PipeShell.Host.Tool.Basic
import PipeShell.Host.Tool.Characters
import PipeShell.Host.Tool.Checking
import PipeShell.Host.Tool.Collation
import PipeShell.Host.Tool.Columns
import PipeShell.Host.Tool.Concatenate
import PipeShell.Host.Tool.Condition
import PipeShell.Host.Tool.Copying
import PipeShell.Host.Tool.Count
import PipeShell.Host.Tool.Date
import PipeShell.Host.Tool.Digest
import PipeShell.Host.Tool.Dump
import PipeShell.Host.Tool.Encoding
import PipeShell.Host.Tool.Expression
import PipeShell.Host.Tool.Identity
import PipeShell.Host.Tool.Layout
import PipeShell.Host.Tool.Listing
import PipeShell.Host.Tool.Making
import PipeShell.Host.Tool.Mode
import PipeShell.Host.Tool.Names
import PipeShell.Host.Tool.Numbering
import PipeShell.Host.Tool.Options
import PipeShell.Host.Tool.Parts
import PipeShell.Host.Tool.Print
import PipeShell.Host.Tool.Quoting
import PipeShell.Host.Tool.Regular
import PipeShell.Host.Tool.Runs
import PipeShell.Host.Tool.Sequence
import PipeShell.Host.Tool.Sort
import PipeShell.Host.Tool.Starting
import PipeShell.Host.Tool.Touching
import PipeShell.Host.World
import PipeShell.Input
import PipeShell.Interaction
import PipeShell.Launch.Basic
import PipeShell.Launch.Child
import PipeShell.Launch.Descriptors
import PipeShell.Launch.Launching
import PipeShell.Launch.Program
import PipeShell.Limits
import PipeShell.Line.Reader
import PipeShell.Line.Stages
import PipeShell.Log
import PipeShell.Log.Filter
import PipeShell.Main
import PipeShell.Power
import PipeShell.Proofs.Editor.Calls
import PipeShell.Proofs.Host.Ending
import PipeShell.Proofs.Host.History
import PipeShell.Proofs.Launch.Calls
import PipeShell.Proofs.Launch.Children
import PipeShell.Proofs.Launch.Ledger
import PipeShell.Proofs.Launch.Pipeline
import PipeShell.Proofs.Launch.Settled
import PipeShell.Proofs.Launch.Statuses
import PipeShell.Proofs.Launch.Tables
import PipeShell.Proofs.Launch.Terminations
import PipeShell.Proofs.Launch.Validity
import PipeShell.Proofs.Line.Runs
import PipeShell.Proofs.Output.Delivery
import PipeShell.Proofs.Output.Discipline
import PipeShell.Proofs.Output.Limit
import PipeShell.Proofs.Partners
import PipeShell.Proofs.Rehearsal
import PipeShell.Proofs.Settings.Flags
import PipeShell.Proofs.Shell.Arguments
import PipeShell.Proofs.Shell.Consumption
import PipeShell.Proofs.Shell.Directory
import PipeShell.Proofs.Shell.EmptyStages
import PipeShell.Proofs.Shell.Flushing
import PipeShell.Proofs.Shell.Indifference
import PipeShell.Proofs.Shell.Interruption
import PipeShell.Proofs.Shell.Launched
import PipeShell.Proofs.Shell.OutputFailure
import PipeShell.Proofs.Shell.Performing
import PipeShell.Proofs.Shell.Planning
import PipeShell.Proofs.Shell.Reading
import PipeShell.Proofs.Shell.Refusal
import PipeShell.Proofs.Shell.Remembering
import PipeShell.Proofs.Shell.Rendering
import PipeShell.Proofs.Shell.Stepping
import PipeShell.Proofs.Shell.Transparency
import PipeShell.Proofs.Shell.Truncation
import PipeShell.Proofs.Shell.Widening
import PipeShell.Proofs.Site
import PipeShell.Proofs.Transcript
import PipeShell.Rehearsal
import PipeShell.Settings.Basic
import PipeShell.Settings.Number
import PipeShell.Shell.Builtin
import PipeShell.Shell.Plan
import PipeShell.Shell.Session
import PipeShell.Shell.Step
import PipeShell.Signal
import PipeShell.Text.Blank
import PipeShell.Text.Grapheme
import PipeShell.Text.Pattern
import PipeShell.Text.Property
import PipeShell.Text.Quoted
import PipeShell.Text.Utf8
