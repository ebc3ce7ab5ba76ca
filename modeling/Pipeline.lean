import Pipeline.Action.Cache
import Pipeline.Action.Manifest
import Pipeline.Action.Resolver
import Pipeline.Action.Unit
import Pipeline.ActionRef
import Pipeline.Cancellation
import Pipeline.Command.Basic
import Pipeline.Command.Values
import Pipeline.CommandLine.Arguments
import Pipeline.CommandLine.Commands
import Pipeline.CommandLine.Snapshot
import Pipeline.CommandLine.Style
import Pipeline.CommandLine.Watch
import Pipeline.Concurrency.Admission
import Pipeline.Concurrency.Key
import Pipeline.Decimal.Reader
import Pipeline.Decimal.Shortest
import Pipeline.Describe.Action
import Pipeline.Describe.Error
import Pipeline.Describe.Result
import Pipeline.Describe.Settings
import Pipeline.Describe.Workflow
import Pipeline.Dict
import Pipeline.Double
import Pipeline.Error
import Pipeline.Execution.Instance
import Pipeline.Execution.Steps
import Pipeline.Execution.Work
import Pipeline.Expression.Error
import Pipeline.Expression.Eval
import Pipeline.Expression.Function
import Pipeline.Expression.Lexer
import Pipeline.Expression.Parser
import Pipeline.Expression.Syntax
import Pipeline.Expression.Template
import Pipeline.Expression.Token
import Pipeline.Expression.Value
import Pipeline.Files.Discovery
import Pipeline.Files.Path
import Pipeline.Files.Tree
import Pipeline.Json.Basic
import Pipeline.Json.Reader
import Pipeline.Json.Writer
import Pipeline.Launch
import Pipeline.Main
import Pipeline.Matrix
import Pipeline.Outcome
import Pipeline.Outcome.Report
import Pipeline.Plan
import Pipeline.Progress
import Pipeline.Rehearsal.Rule
import Pipeline.Rehearsal.Session
import Pipeline.RunInfo
import Pipeline.Scope
import Pipeline.Script.Arithmetic
import Pipeline.Script.Builtin
import Pipeline.Script.Calculate
import Pipeline.Script.Call
import Pipeline.Script.Compare
import Pipeline.Script.Condition
import Pipeline.Script.Dates
import Pipeline.Script.Digest
import Pipeline.Script.Edit
import Pipeline.Script.Expand
import Pipeline.Script.FileTools
import Pipeline.Script.Find
import Pipeline.Script.Format
import Pipeline.Script.Indented.Evaluate
import Pipeline.Script.Indented.Expression
import Pipeline.Script.Indented.Run
import Pipeline.Script.Indented.Token
import Pipeline.Script.Indented.Value
import Pipeline.Script.LineTools
import Pipeline.Script.Machine
import Pipeline.Script.Messages
import Pipeline.Script.Octets
import Pipeline.Script.Options
import Pipeline.Script.Parameters
import Pipeline.Script.Pattern
import Pipeline.Script.Reader.Commands
import Pipeline.Script.Reader.Quoted
import Pipeline.Script.Reader.Simple
import Pipeline.Script.Reader.Tests
import Pipeline.Script.Reader.Words
import Pipeline.Script.Redirect
import Pipeline.Script.Regex
import Pipeline.Script.Run
import Pipeline.Script.Search
import Pipeline.Script.Syntax
import Pipeline.Script.Terms
import Pipeline.Script.Tools
import Pipeline.Script.Variables
import Pipeline.Session.Lane
import Pipeline.Session.Moves
import Pipeline.Session.Turns
import Pipeline.Settings
import Pipeline.Shell
import Pipeline.Status
import Pipeline.Text.Blank
import Pipeline.Text.Case
import Pipeline.Text.CaseTable
import Pipeline.Text.Letter
import Pipeline.Text.Lines
import Pipeline.Toml.Reader
import Pipeline.Toml.Scalar
import Pipeline.Toml.Value
import Pipeline.Trigger
import Pipeline.Workflow.Check
import Pipeline.Workflow.Definition
import Pipeline.Workflow.Document
import Pipeline.Workflow.Load
import Pipeline.Yaml.Core
import Pipeline.Yaml.Cursor
import Pipeline.Yaml.Decode
import Pipeline.Yaml.Directive
import Pipeline.Yaml.Event
import Pipeline.Yaml.Lexer
import Pipeline.Yaml.Node
import Pipeline.Yaml.Scalar
import Pipeline.Yaml.Token
import Pipeline.Proofs.Admission.Effect
import Pipeline.Proofs.Admission.WellFormed
import Pipeline.Proofs.Admission.History
import Pipeline.Proofs.Admission.Exclusion
import Pipeline.Proofs.Admission.Waiting
import Pipeline.Proofs.Session.Accounts
import Pipeline.Proofs.Session.Slots
import Pipeline.Proofs.Concurrency.Key
import Pipeline.Proofs.Execution.Steady
import Pipeline.Proofs.Session.Standing
import Pipeline.Proofs.Session.Calls
import Pipeline.Proofs.Session.Lanes
import Pipeline.Proofs.Session.Agreement
import Pipeline.Proofs.Session.Causes
import Pipeline.Proofs.Session.Dormant
import Pipeline.Proofs.Session.Parallelism
import Pipeline.Proofs.Session.Forwarding
import Pipeline.Proofs.Execution.Course
import Pipeline.Proofs.Execution.Rows
import Pipeline.Proofs.Execution.Visits
import Pipeline.Proofs.Execution.Layers
import Pipeline.Proofs.Execution.Brackets
import Pipeline.Proofs.Action.Lookup
import Pipeline.Proofs.Expression.Conditions
import Pipeline.Proofs.Workflow.Loaded
import Pipeline.Proofs.Action.Readable
import Pipeline.Proofs.Action.References
import Pipeline.Proofs.Action.Places
import Pipeline.Proofs.Action.Readings
import Pipeline.Proofs.Action.Unfolding
import Pipeline.Proofs.Action.Walk
import Pipeline.Proofs.Action.Recall
import Pipeline.Proofs.Action.Requests
import Pipeline.Proofs.Action.Soundness
import Pipeline.Proofs.Execution.Flags
import Pipeline.Proofs.Execution.Failures
import Pipeline.Proofs.Execution.Interruption
import Pipeline.Proofs.Execution.Coverage
import Pipeline.Proofs.Session.Courses
import Pipeline.Proofs.Session.Report
import Pipeline.Proofs.Session.Stories
import Pipeline.Proofs.Action.Identifiers
import Pipeline.Proofs.Expression.Grammar
import Pipeline.Proofs.Expression.Parsing
import Pipeline.Proofs.Expression.Templates
import Pipeline.Proofs.Expression.Status
import Pipeline.Proofs.Json.Equality
import Pipeline.Proofs.Command.Values
import Pipeline.Proofs.Matrix.Product
import Pipeline.Proofs.Expression.Rendering
import Pipeline.Proofs.Workflow.Checks
import Pipeline.Proofs.Matrix.Additions
import Pipeline.Proofs.Matrix.Distinct
import Pipeline.Proofs.Trigger.Patterns
import Pipeline.Proofs.Trigger.Decision
import Pipeline.Proofs.Workflow.Conditions
import Pipeline.Proofs.Expression.Comparison
import Pipeline.Proofs.Execution.Inputs
import Pipeline.Proofs.Action.Manifests
import Pipeline.Proofs.Files.Paths
import Pipeline.Proofs.Files.Trees
import Pipeline.Proofs.Files.Naming
import Pipeline.Proofs.Expression.Formatting
import Pipeline.Proofs.Action.Rereading
import Pipeline.Proofs.Action.Containment
import Pipeline.Proofs.Expression.Writing
import Pipeline.Proofs.Script.Octets
import Pipeline.Proofs.Command.Streams
