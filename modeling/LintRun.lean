import LintRun.Command
import LintRun.CommandLine.Arguments
import LintRun.CommandLine.Run
import LintRun.Config.Basic
import LintRun.Config.Reading
import LintRun.Count
import LintRun.Dialogue.Basic
import LintRun.Dialogue.Schedule
import LintRun.Diff.Basic
import LintRun.Diff.Findings
import LintRun.Diff.Header
import LintRun.Diff.Parser
import LintRun.Extension
import LintRun.Failure
import LintRun.FileTree.Basic
import LintRun.FileTree.Discovery
import LintRun.FileTree.Resolve
import LintRun.FileTree.Snapshot
import LintRun.Finding
import LintRun.Format.Basic
import LintRun.Format.Document
import LintRun.Format.Json
import LintRun.Format.Records
import LintRun.Format.Yaml
import LintRun.Job
import LintRun.Json.Basic
import LintRun.Json.Parser
import LintRun.Json.Printer
import LintRun.Main
import LintRun.Notice
import LintRun.Path
import LintRun.ProblemLine
import LintRun.Proofs.Count
import LintRun.Proofs.Dialogue.Exchange
import LintRun.Proofs.Dialogue.Schedule
import LintRun.Proofs.Diff.Header
import LintRun.Proofs.Diff.Printing
import LintRun.Proofs.Diff.Progress
import LintRun.Proofs.Diff.RoundTrip
import LintRun.Proofs.List
import LintRun.Proofs.Log
import LintRun.Proofs.Run.Attempt
import LintRun.Proofs.Run.Exclusion
import LintRun.Proofs.Run.Log
import LintRun.Proofs.Run.Outcomes
import LintRun.Proofs.Run.Protocol
import LintRun.Proofs.Text.Blank
import LintRun.Proofs.Text.Line
import LintRun.Registry
import LintRun.Report.Json
import LintRun.Report.Pretty
import LintRun.Run.Basic
import LintRun.Run.Report
import LintRun.Shell.Builtin
import LintRun.Shell.Calculation
import LintRun.Shell.Condition
import LintRun.Shell.Escape
import LintRun.Shell.Expansion
import LintRun.Shell.Field
import LintRun.Shell.Filter
import LintRun.Shell.Form
import LintRun.Shell.Machine
import LintRun.Shell.Parser
import LintRun.Shell.Pattern
import LintRun.Shell.Program
import LintRun.Shell.Redirection
import LintRun.Shell.Run
import LintRun.Shell.Scope
import LintRun.Shell.Source
import LintRun.Shell.Syntax
import LintRun.Shell.Words
import LintRun.Shell.World
import LintRun.Table
import LintRun.Text.Blank
import LintRun.Text.Decimal
import LintRun.Text.Line
import LintRun.Text.Printable
import LintRun.Text.Quoted
import LintRun.Text.Ranges
import LintRun.Text.Split
import LintRun.Text.Style
import LintRun.Text.Utf8
import LintRun.Text.Word
import LintRun.Tool.Basic
import LintRun.Tool.Command
import LintRun.Tool.InterfaceReport
import LintRun.Tool.Output
import LintRun.Tool.ScriptReport
import LintRun.Trace
import LintRun.Yaml.Node
import LintRun.Yaml.Node.Parser
import LintRun.Yaml.Spot
import LintRun.Yaml.Token
import LintRun.Yaml.Token.Block
import LintRun.Yaml.Token.Folding
import LintRun.Yaml.Token.Lexer
import LintRun.Yaml.Token.Name
import LintRun.Yaml.Token.Plain
import LintRun.Yaml.Token.Quoted
import LintRun.Proofs.Command
import LintRun.Proofs.Extension
import LintRun.Proofs.Config.Validation
import LintRun.Proofs.Tool.Command
import LintRun.Proofs.Run.Success
import LintRun.Proofs.Report.Agreement
import LintRun.Proofs.Tool.Trim
import LintRun.Proofs.Tool.Files
import LintRun.Proofs.Registry
import LintRun.Proofs.Config.Jobs
import LintRun.Proofs.Run.Plan
import LintRun.Proofs.CommandLine.Preparation
import LintRun.Proofs.Diff.Accounting
import LintRun.Proofs.Diff.Form
import LintRun.Proofs.Diff.Moves
import LintRun.Proofs.Diff.Faults
import LintRun.Proofs.Diff.Truncation
import LintRun.Proofs.Diff.Concatenation
import LintRun.Proofs.Diff.Marks
import LintRun.Proofs.Diff.Span
import LintRun.Proofs.ProblemLine
import LintRun.Proofs.Tool.Problems
import LintRun.Proofs.Text.Octets
import LintRun.Proofs.FileTree.Listing
import LintRun.Proofs.Relative
import LintRun.Proofs.Reported
import LintRun.Proofs.Tool.Reports
import LintRun.Proofs.Format
import LintRun.Proofs.Tool.Normal
import LintRun.Proofs.Tool.Blank
import LintRun.Proofs.Command.Parts
import LintRun.Proofs.Config.Settings
import LintRun.Proofs.Tool.Prefix
import LintRun.Proofs.Report.Styles
