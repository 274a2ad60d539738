import MacroTrace.Numeral
import MacroTrace.Report
import MacroTrace.Trace.Tracer
/-!
# Sessions

A `Session` is everything that a run of a macro processor keeps for its diagnostics: the settings,
the position in the input, the tracer with the outputs, and the reporter. The operations here are
those that the processor calls: changing settings, redirecting and writing debug output, tracing
calls, reporting, and checking the arguments of builtins.
-/

namespace MacroTrace

/-- The name that a program goes by until it is given another. -/
def defaultProgram : String := "m4"

/-- The state of the diagnostics of one run. -/
structure Session where
  /-- The name of the program. -/
  program : String := defaultProgram
  /-- The debug level. -/
  level : Level := .none
  /-- The largest number of characters shown of an argument or an expansion; zero for no limit. -/
  limit : UInt64 := 0
  /-- The quotes. -/
  quotes : Quotes := .standard
  /-- What counts as blank. -/
  blanks : Blanks := .standard
  /-- The position in the input. -/
  location : Location := {}
  /-- The tracer, with everything that is written to. -/
  tracer : Tracer
  /-- What has been reported. -/
  reporter : Reporter := {}

/-- An operation on a session. -/
abbrev Act (α : Type) := EStateM Stop Session α

namespace Session

/-- A fresh session that writes to the given outputs. -/
def start (outputs : Outputs) : Session := { tracer := { outputs } }

/-- What trace lines depend on. -/
def traceSettings (s : Session) : TraceSettings :=
  { program := s.program, level := s.level, limit := s.limit, quotes := s.quotes
    location := s.location }

/-- Does something to the tracer. -/
def onTracer {ε α : Type} (action : EStateM ε Tracer α) : EStateM ε Session α := fun s =>
  match action s.tracer with
  | .ok a tracer => .ok a { s with tracer }
  | .error e tracer => .error e { s with tracer }

/-- Does something to the outputs. -/
def onOutputs {ε α : Type} (action : EStateM ε Outputs α) : EStateM ε Session α :=
  onTracer (Tracer.onOutputs action)

/-- The outputs. -/
def outputs (s : Session) : Outputs := s.tracer.outputs

/-- Applies a function to the ports. -/
def mapPorts (f : Ports → Ports) (s : Session) : Session :=
  { s with tracer.outputs.ports := f s.tracer.outputs.ports }

/-- Gives a failing operation another kind of failure. -/
def mapError {ε δ σ α : Type} (f : ε → δ) (action : EStateM ε σ α) : EStateM δ σ α := fun s =>
  match action s with
  | .ok a s => .ok a s
  | .error e s => .error (f e) s

/-- Lets a failure of the system stop the operation, with what was being done. -/
def whileDoing {α : Type} (doing : String) (action : EStateM SystemError Session α) : Act α :=
  mapError (fun cause => .failure (.system doing cause)) action

/-! ## Settings -/

/-- Sets the debug level. A line that is pending is thrown away. -/
def setLevel (level : Level) : Act Unit := do
  modify fun s => { s with level }
  onTracer Tracer.reset

/-- Sets the debug level from a flag string. A bad string changes nothing. -/
def decodeLevel (flags : Option String) : Act Level := do
  match Level.decode flags with
  | .ok level =>
    setLevel level
    return level
  | .error cause => throw (.failure (.badFlag cause))

/-! ## Debug output -/

/-- Redirects debug output. A file that cannot be opened changes nothing. -/
def setDebugOutput (selector : Option String) : Act Unit := fun s =>
  match s.outputs.redirect (.ofSelector selector) with
  | .ok outputs => .ok () { s with tracer.outputs := outputs }
  | .error failure => .error (.failure failure) s

/-- Flushes everything that is written to, up to the first that fails. -/
def flushAll : EStateM SystemError Session Unit := onOutputs Outputs.flushAll

/-- Writes the start of a debug message. -/
def writeMessageHeader : EStateM SystemError Session Unit := do
  let s ← get
  onOutputs (Outputs.writeText (messageHeader s.program s.level s.location))

/-- Writes a debug message on a line of its own. -/
def debugMessage (text : String) : EStateM SystemError Session Unit := do
  writeMessageHeader
  onOutputs (Outputs.writeText text)
  onOutputs (Outputs.writeText "\n")

/-- Writes to standard output. -/
def writeOut (text : String) : EStateM SystemError Session Unit :=
  onOutputs (Outputs.onPorts (Ports.ask .out (.write (Utf8.encode text))))

/-! ## Tracing -/

/-- Traces a call that has just been met. -/
def tracePrepre (call : Call) : Act Unit := do
  onTracer (Tracer.prepre (← get).traceSettings call)

/-- Shows that the program ends itself, and ends it. -/
def internalError (message : String) : Act Unit := fun s =>
  .error .abort (s.mapPorts (sendAlarm s.program message))

/-- Traces a call whose arguments are known. An argument that the table does not know ends the
program, after everything that can be flushed has been. -/
def tracePre (builtins : Registry) (call : Call) : Act Unit := do
  let settings := (← get).traceSettings
  try onTracer (Tracer.pre settings builtins call)
  catch
    | .failure (.unknownBuiltin id) =>
      try mapError (fun _ => Stop.abort) flushAll catch _ => pure ()
      internalError
        s!"{(Failure.unknownBuiltin id).message} (trace_pre, macro `{call.name}')"
    | other => throw other

/-- Traces a call whose expansion is known. -/
def tracePost (call : Call) (expansion : Option String) : Act Unit := do
  onTracer (Tracer.post (← get).traceSettings call expansion)

/-! ## Reporting -/

/-- Reports an error at a position; a line of zero is no position. -/
def errorAt (status : ExitStatus) (errnum : Int32) (file : String) (line : UInt32)
    (message : String) : Act Unit := fun s =>
  let d : Diagnostic :=
    { severity := .error, program := s.program, errnum, message
      position := if line = 0 then none else some (file, line) }
  let (verdict, reporter) := s.reporter.noteError status
  let s := { s.mapPorts d.send with reporter }
  match verdict with
  | .ok () => .ok () s
  | .error stop => .error stop s

/-- Reports a warning at a position, unless warnings are suppressed; a line of zero is no
position. -/
def warnAt (errnum : Int32) (file : String) (line : UInt32) (message : String) :
    Act Unit := fun s =>
  if s.reporter.suppressWarnings then .ok () s
  else
    let d : Diagnostic :=
      { severity := .warning, program := s.program, errnum, message
        position := if line = 0 then none else some (file, line) }
    let (verdict, reporter) := s.reporter.noteWarning
    let s := { s.mapPorts d.send with reporter }
    match verdict with
    | .ok () => .ok () s
    | .error stop => .error stop s

/-- The position that reports are about; line zero for none. -/
def reportPosition : Act (String × UInt32) := do
  match (← get).location.reportable with
  | .ok position => return position.getD ("", 0)
  | .error line => throw (.panic (.strayLine line))

/-- Reports an error at the current position. -/
def error (status : ExitStatus) (errnum : Int32) (message : String) : Act Unit := do
  let (file, line) ← reportPosition
  errorAt status errnum file line message

/-- Reports a warning at the current position, unless warnings are suppressed. -/
def warn (errnum : Int32) (message : String) : Act Unit := do
  let (file, line) ← reportPosition
  warnAt errnum file line message

/-! ## Checks of arguments -/

/-- Warns about a builtin's number of arguments. `count` includes the name of the builtin, `least`
and `most` do not. The answer is whether the call may be taken to expand to nothing: there are too
few arguments, and the builtin has no side effect. -/
def checkArgCount (name : String) (count least : UInt64) (most : Option UInt64)
    (sideEffect : Bool) : Act Bool := do
  let supplied := count.toNat - 1
  if supplied < least.toNat then
    warn 0 s!"{name}: too few arguments: {supplied} < {least.toNat}"
    return !sideEffect
  else
    match most with
    | some most =>
      if most.toNat < supplied then
        warn 0 s!"{name}: extra arguments ignored: {supplied} > {most.toNat}"
    | none => pure ()
    return false

/-- The value of a numeric argument. A blank text is zero, with a warning; a text that is no numeral
has no value, with a warning too. -/
def numericArg (name text : String) : Act (Option Int) := do
  let blanks := (← get).blanks
  let trimmed := Numeral.skipBlanks blanks text.toList
  if trimmed.isEmpty then
    warn 0 s!"{name}: empty string treated as 0"
    return some 0
  else
    match Numeral.read? blanks trimmed with
    | some value => return some value
    | none =>
      warn 0 s!"{name}: non-numeric argument `{text}'"
      return none

/-- Arguments as one text, each in the current quotes if `isQuoted` is set. -/
def dumpArgs (s : Session) (args : List Argument) (separator : String) (isQuoted : Bool) :
    String :=
  joinArguments s.quotes args separator isQuoted

end Session

end MacroTrace
