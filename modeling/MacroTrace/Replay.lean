import MacroTrace.CommandLine
import MacroTrace.Load
import MacroTrace.Session
/-!
# Replays

A replay feeds the steps of a script to a session, one after the other, until a step stops it or
none is left. What is left to say is how it ended. `replay` is the whole of it: the configuration
and the script are loaded, the session is set up, and the steps are run.
-/

namespace MacroTrace

/-- How a replay ended. -/
inductive Ending
  /-- Every step was taken, and the run has this status. -/
  | finished (status : ExitStatus)
  /-- A step asked for the end of the run with this status. -/
  | exited (status : ExitStatus)
  /-- Something failed that was no matter for a report. -/
  | failed (cause : Failure)
  /-- A caller broke an agreement. -/
  | panicked (breach : Breach)
  /-- The program ended on the spot. -/
  | aborted
deriving DecidableEq, Repr

/-! ## Setting up

What is done to set up a session is done to the outputs, and stays when a later part of it fails. -/

/-- What comes of an operation, without the state that it leaves behind. -/
def resultOf {ε σ α : Type} (action : EStateM ε σ α) (s : σ) : Except ε α :=
  match action s with
  | .ok a _ => .ok a
  | .error e _ => .error e

theorem eq_ok_of_resultOf {ε σ α : Type} {action : EStateM ε σ α} {s : σ} {a : α}
    (h : resultOf action s = .ok a) : ∃ s', action s = .ok a s' := by
  unfold resultOf at h
  split at h
  · rename_i s' ha
    cases h
    exact ⟨s', ha⟩
  · cases h

theorem eq_error_of_resultOf {ε σ α : Type} {action : EStateM ε σ α} {s : σ} {e : ε}
    (h : resultOf action s = .error e) : ∃ s', action s = .error e s' := by
  unfold resultOf at h
  split at h
  · cases h
  · rename_i s' ha
    cases h
    exact ⟨s', ha⟩

namespace Outputs

/-- Reads something from the files, which stay as they are. -/
def reading {α : Type} (load : FileStore → Except Failure α) : EStateM Failure Outputs α := fun o =>
  match load o.store with
  | .ok a => .ok a o
  | .error cause => .error cause o

/-- Redirects debug output. A file that is created for this stays. -/
def lead (target : DebugTarget) : EStateM Failure Outputs Unit := fun o =>
  match o.redirect target with
  | .ok o => .ok () o
  | .error cause => .error cause o

theorem resultOf_reading_bind {α β : Type} (load : FileStore → Except Failure α)
    (next : α → EStateM Failure Outputs β) (o : Outputs) :
    resultOf (reading load >>= next) o = load o.store >>= fun a => resultOf (next a) o := by
  unfold resultOf reading
  simp only [bind, EStateM.bind]
  cases load o.store <;> rfl

theorem resultOf_lead_bind {β : Type} (target : DebugTarget)
    (next : Unit → EStateM Failure Outputs β) (o : Outputs) :
    resultOf (lead target >>= next) o = o.redirect target >>= resultOf (next ()) := by
  unfold resultOf lead
  simp only [bind, EStateM.bind]
  cases o.redirect target <;> rfl

end Outputs

namespace Session

/-- A session with the settings of a configuration, of whose flags `level` is the level. -/
def withSettings (config : Config) (level : Level) (outputs : Outputs) : Session :=
  { start outputs with
    program := config.programName
    level
    limit := config.maxDebugArgLength
    quotes := ⟨config.leftQuote, config.rightQuote⟩
    reporter :=
      { suppressWarnings := config.suppressWarnings, fatalWarnings := config.fatalWarnings } }

/-- Sets up a session with the settings of a configuration. A bad flag string is found before the
debug file is opened. -/
def configure (config : Config) : EStateM Failure Outputs Session := do
  let level ← match config.debugFlags with
    | some flags => Outputs.reading fun _ => (Level.decode (some flags)).mapError .badFlag
    | none => pure .none
  match config.debugFile with
  | some path => Outputs.lead (.ofSelector (some path))
  | none => pure ()
  return withSettings config level (← get)

/-- The session that is set up with the settings of a configuration. -/
def ofConfig (config : Config) (outputs : Outputs) : Except Failure Session :=
  resultOf (configure config) outputs

/-- A session is set up in two parts, the second of which changes the outputs. -/
theorem ofConfig_eq (config : Config) (outputs : Outputs) : ofConfig config outputs = do
    let level ← match config.debugFlags with
      | some flags => (Level.decode (some flags)).mapError .badFlag
      | none => pure .none
    let outputs ← match config.debugFile with
      | some path => outputs.redirect (.ofSelector (some path))
      | none => pure outputs
    return withSettings config level outputs := by
  unfold ofConfig configure
  cases config.debugFlags with
  | none =>
    cases config.debugFile with
    | none => rfl
    | some path => exact Outputs.resultOf_lead_bind _ _ outputs
  | some flags =>
    refine (Outputs.resultOf_reading_bind _ _ outputs).trans (bind_congr fun level => ?_)
    cases config.debugFile with
    | none => rfl
    | some path => exact Outputs.resultOf_lead_bind _ _ outputs

/-! ## Steps -/

/-- Moves to a position in the input; one with a line but no file makes no sense in a script. -/
def moveTo (position : Location) : Act Unit := do
  if position.isStray then
    throw (.failure (.script (some s!"location line {position.line.toNat} given without a file")))
  modify fun s => { s with location := position }

/-- Changes the debug level; bad flags are warned about. -/
def changeLevel (flags : Option String) : Act Unit := do
  match Level.decode flags with
  | .ok level => setLevel level
  | .error cause => warn 0 s!"debugmode: bad debug flags: `{cause.flags}'"

/-- Redirects debug output; a file that cannot be opened is reported as an error. -/
def changeDebugFile (selector : Option String) : Act Unit := fun s =>
  match s.outputs.redirect (.ofSelector selector) with
  | .ok outputs => .ok () { s with tracer.outputs := outputs }
  | .error failure =>
    let errnum := (failure.cause?.bind SystemError.number?).getD 0
    let name := selector.getD ""
    error .success errnum s!"debugfile: cannot set debug file `{name}'" s

/-- Writes what the processor itself has to print. -/
def print (text : String) : Act Unit := whileDoing "writing standard output" (writeOut text)

/-- Traces a call. -/
def traceCall (builtins : Registry) (phase : Phase) (traced : TracedCall) : Act Unit :=
  match phase with
  | .prepre => tracePrepre traced.call
  | .pre => tracePre builtins traced.call
  | .post => tracePost traced.call traced.result

/-- Takes one step. -/
def takeStep (builtins : Registry) : Step → Act Unit
  | .location position => moveTo position
  | .debugMode flags => changeLevel flags
  | .debugFile selector => changeDebugFile selector
  | .trace phase traced => traceCall builtins phase traced
  | .message text => whileDoing "writing debug message" (debugMessage text)
  | .output text => print text
  | .error report => error report.status report.errnum report.text
  | .warn report => warn report.errnum report.text
  | .argc check => do
    let empty ← checkArgCount check.name check.count check.least check.most check.sideEffect
    print s!"{empty}\n"
  | .numeric check => do
    match ← numericArg check.name check.text with
    | some value => print s!"{value}\n"
    | none => pure ()
  | .dumpArgs dump => do
    print ((← get).dumpArgs dump.args dump.separator dump.isQuoted ++ "\n")
  | .flush => whileDoing "flushing output" flushAll

/-- Takes steps one after the other. -/
def takeSteps (builtins : Registry) : List Step → Act Unit
  | [] => pure ()
  | step :: rest => do
    takeStep builtins step
    takeSteps builtins rest

/-- The session after everything has been flushed, as far as that works. -/
def afterFlush (s : Session) : Session :=
  match flushAll s with
  | .ok () s => s
  | .error _ s => s

/-- Takes all steps and flushes everything. When a step asks for the end of the run, everything is
flushed as far as that works. -/
def replaySteps (steps : List Step) (s : Session) : Ending × Session :=
  match takeSteps Registry.standard steps s with
  | .error (.exit status) s => (.exited status, s.afterFlush)
  | .error (.failure cause) s => (.failed cause, s)
  | .error (.panic breach) s => (.panicked breach, s)
  | .error .abort s => (.aborted, s)
  | .ok () s =>
    match flushAll s with
    | .ok () s => (.finished s.reporter.status, s)
    | .error cause s => (.failed (.system "flushing output" cause), s)

end Session

/-- Sets up the session that a command line asks for, and reads the steps that it is to take. -/
def setUp (c : CommandLine) : EStateM Failure Outputs (Session × List Step) := do
  let config ← match c.config with
    | some path => Outputs.reading (Config.load · path)
    | none => pure {}
  let steps ← Outputs.reading (Script.load · c.script)
  return (← Session.configure (c.applyTo config), steps)

/-- The session that a command line asks for, and the steps that it is to take. -/
def prepare (c : CommandLine) (outputs : Outputs) : Except Failure (Session × List Step) :=
  resultOf (setUp c) outputs

/-- All that a command line names is read from the files as they are at first. -/
theorem prepare_eq (c : CommandLine) (outputs : Outputs) : prepare c outputs = do
    let config ← match c.config with
      | some path => Config.load outputs.store path
      | none => pure {}
    let steps ← Script.load outputs.store c.script
    return (← Session.ofConfig (c.applyTo config) outputs, steps) := by
  have hrest : ∀ config : Config, resultOf (do
      let steps ← Outputs.reading (Script.load · c.script)
      return (← Session.configure (c.applyTo config), steps)) outputs = do
        let steps ← Script.load outputs.store c.script
        return (← Session.ofConfig (c.applyTo config) outputs, steps) := by
    intro config
    refine (Outputs.resultOf_reading_bind _ _ outputs).trans (bind_congr fun steps => ?_)
    unfold Session.ofConfig resultOf
    simp only [bind, EStateM.bind]
    cases Session.configure (c.applyTo config) outputs <;> rfl
  unfold prepare setUp
  cases c.config with
  | none => exact hrest {}
  | some path =>
    exact (Outputs.resultOf_reading_bind _ _ outputs).trans (bind_congr fun config => hrest config)

/-- Replays what a command line asks for: how it ended, and the outputs then. -/
def replay (c : CommandLine) (outputs : Outputs) : Ending × Outputs :=
  match setUp c outputs with
  | .error cause outputs => (.failed cause, outputs)
  | .ok (session, steps) _ =>
    let (ending, session) := session.replaySteps steps
    (ending, session.outputs)

end MacroTrace
