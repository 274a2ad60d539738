import MacroTrace.Blank
import MacroTrace.Builtin
import MacroTrace.CommandLine
import MacroTrace.Config
import MacroTrace.Document.Basic
import MacroTrace.Document.Misfit
import MacroTrace.Document.Record
import MacroTrace.Failure
import MacroTrace.Json.Number
import MacroTrace.Json.Reader
import MacroTrace.Json.Writer
import MacroTrace.Level
import MacroTrace.LineBuffer
import MacroTrace.Load
import MacroTrace.Location
import MacroTrace.Main
import MacroTrace.Numeral
import MacroTrace.Numeric.Binary64
import MacroTrace.Presentation
import MacroTrace.Program
import MacroTrace.Proofs.FileContents
import MacroTrace.Proofs.Operation
import MacroTrace.Proofs.PortLog
import MacroTrace.Quotes
import MacroTrace.Replay
import MacroTrace.Report
import MacroTrace.Script
import MacroTrace.Session
import MacroTrace.Storage.FileStore
import MacroTrace.Storage.Path
import MacroTrace.Storage.SystemError
import MacroTrace.Stream.FileWriter
import MacroTrace.Stream.Landing
import MacroTrace.Stream.Outputs
import MacroTrace.Stream.Port
import MacroTrace.Text.Alphanumeric
import MacroTrace.Text.BreakClass
import MacroTrace.Text.BreakPlace
import MacroTrace.Text.CharRanges
import MacroTrace.Text.Columns
import MacroTrace.Text.Escape
import MacroTrace.Text.Extending
import MacroTrace.Text.Invisible
import MacroTrace.Text.Quoted
import MacroTrace.Text.Utf8
import MacroTrace.Text.Wrap
import MacroTrace.Trace.Call
import MacroTrace.Trace.Template
import MacroTrace.Trace.Tracer
import MacroTrace.Yaml.Cursor
import MacroTrace.Yaml.Node
import MacroTrace.Yaml.Scalar
import MacroTrace.Yaml.Schema
import MacroTrace.Yaml.Token
import MacroTrace.Proofs.DebugOutput
import MacroTrace.Proofs.TraceText
import MacroTrace.Proofs.TraceLines
import MacroTrace.Proofs.Complaint
import MacroTrace.Proofs.Outcome
import MacroTrace.Proofs.ArrivalOrder
import MacroTrace.Proofs.Utterance
import MacroTrace.Proofs.Chronology
import MacroTrace.Proofs.Destination
import MacroTrace.Proofs.Interjection
import MacroTrace.Proofs.Suppression
import MacroTrace.Proofs.FailedChange
import MacroTrace.Proofs.ExitCode
import MacroTrace.Proofs.LastFlush
import MacroTrace.Proofs.SessionRun
import MacroTrace.Proofs.Abort
import MacroTrace.Proofs.Setup
import MacroTrace.Proofs.TemplateKinds
import MacroTrace.Proofs.Agreements
import MacroTrace.Proofs.NestedCalls
import MacroTrace.Proofs.Verdicts
import MacroTrace.Proofs.EncodedText
import MacroTrace.Proofs.Directives
import MacroTrace.Proofs.Uncoloured
import MacroTrace.Proofs.Colours
import MacroTrace.Proofs.JsonScalars
import MacroTrace.Proofs.JsonText
import MacroTrace.Proofs.RecordFields
import MacroTrace.Proofs.StepForms
import MacroTrace.Proofs.ScriptText
import MacroTrace.Proofs.ArgumentChecks
import MacroTrace.Proofs.NumericArguments
import MacroTrace.Proofs.UnknownBuiltins
import MacroTrace.Proofs.WholeReports
import MacroTrace.Proofs.JsonWriting
import MacroTrace.Proofs.FieldValues
import MacroTrace.Proofs.NumberRange
import MacroTrace.Proofs.FlagStrings
import MacroTrace.Proofs.BuiltinTable
import MacroTrace.Proofs.ConfigText
import MacroTrace.Proofs.WrappedText
import MacroTrace.Proofs.ObligingStreams
import MacroTrace.Proofs.ReplayOutcome
