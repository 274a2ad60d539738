import MacroTrace.Stream.Outputs
import MacroTrace.Trace.Call
import MacroTrace.Trace.Template
/-!
# The tracer

A macro call is traced in three phases: `prepre` when the call is met, `pre` when its arguments are
known, and `post` when its expansion is. What a phase has to say is appended to the pending line,
and the line is written as a whole: always after `prepre` and `post`, and after `pre` if calls are
traced on lines of their own. No debug message written in between can tear a line apart. A line
leaves the tracer when it is written, even when the write fails.
-/

namespace MacroTrace

/-- What a trace line depends on besides the call. -/
structure TraceSettings where
  /-- The name of the program. -/
  program : String := "m4"
  /-- The debug level. -/
  level : Level := .none
  /-- The largest number of characters shown of an argument or an expansion; zero for no limit. -/
  limit : UInt64 := 0
  /-- The quotes. -/
  quotes : Quotes := .standard
  /-- The position in the input. -/
  location : Location := {}
deriving DecidableEq, Repr

/-- A template with its arguments. -/
structure Phrase where
  /-- The template. -/
  template : String
  /-- The arguments. -/
  args : List TemplateArg := []
deriving DecidableEq, Repr

namespace TraceSettings

/-- The settings that templates depend on. -/
def options (t : TraceSettings) : TemplateOptions := ⟨t.level, t.limit, t.quotes⟩

/-- The start of a line about a call. -/
def header (t : TraceSettings) (call : Call) : List Phrase :=
  [⟨"%strace:", [.text t.program]⟩]
    ++ (if t.level.has .file then [⟨"%s:", [.text (t.location.file.getD "")]⟩] else [])
    ++ (if t.level.has .line then [⟨"%d:", [.ofNumber t.location.line]⟩] else [])
    ++ [⟨" -%d- ", [.ofCount call.depth]⟩]
    ++ (if t.level.has .callId then [⟨"id %d: ", [.ofNumber call.id]⟩] else [])

/-- A call whose arguments are not known yet. -/
def prepre (t : TraceSettings) (call : Call) : List Phrase :=
  t.header call ++ [⟨"%s ...", [.text call.name]⟩]

/-- An argument of a call; fails with the builtin that the table does not know. -/
def argument (builtins : Registry) : Argument → Except BuiltinId Phrase
  | .text value => .ok ⟨"%l%S%r", [.text value]⟩
  | .builtin id =>
    match builtins.name? id with
    | some name => .ok ⟨"<%s>", [.text name]⟩
    | none => .error id

/-- A call with its expansion. -/
def post (t : TraceSettings) (call : Call) (expansion : Option String) : List Phrase :=
  (if t.level.has .call then
    t.header call
      ++ [⟨"%s%s", [.text call.name, .text (if call.args.isEmpty then "" else "(...)")]⟩]
   else [])
    ++ match expansion with
      | some text => if t.level.has .expansion then [⟨" -> %l%S%r", [.text text]⟩] else []
      | none => []

end TraceSettings

/-- The pending line and what it is written to in the end. -/
structure Tracer where
  /-- The line that has not been written yet. -/
  pending : LineBuffer := .empty
  /-- What the program writes to. -/
  outputs : Outputs

namespace Tracer

/-- Does something to the outputs. -/
def onOutputs {ε α : Type} (action : EStateM ε Outputs α) : EStateM ε Tracer α := fun t =>
  match action t.outputs with
  | .ok a outputs => .ok a { t with outputs }
  | .error e outputs => .error e { t with outputs }

/-- Throws the pending line away. -/
def reset : EStateM Stop Tracer Unit := modify fun t => { t with pending := t.pending.clear }

/-- Appends one phrase to the pending line. -/
def say (o : TemplateOptions) (phrase : Phrase) : EStateM Stop Tracer Unit := fun t =>
  match t.pending.format o phrase.template phrase.args with
  | .ok pending => .ok () { t with pending }
  | .error breach => .error (.panic breach) t

/-- Appends phrases to the pending line. -/
def sayAll (o : TemplateOptions) : List Phrase → EStateM Stop Tracer Unit
  | [] => pure ()
  | phrase :: rest => do
    say o phrase
    sayAll o rest

/-- Writes the pending line. It is pending no longer, whether or not the write succeeds. -/
def finishLine : EStateM Stop Tracer Unit := fun t =>
  let (line, pending) := t.pending.take
  match Outputs.write (line ++ Utf8.encode "\n") t.outputs with
  | .ok () outputs => .ok () { pending, outputs }
  | .error cause outputs =>
    .error (.failure (.system "writing trace output" cause)) { pending, outputs }

/-- Traces a call that has just been met. -/
def prepre (settings : TraceSettings) (call : Call) : EStateM Stop Tracer Unit := do
  sayAll settings.options (settings.prepre call)
  finishLine

/-- Appends an argument of a call. If it is a builtin that the table does not know, the line that has
been begun is thrown away. -/
def sayArgument (o : TemplateOptions) (builtins : Registry) (arg : Argument) :
    EStateM Stop Tracer Unit :=
  match TraceSettings.argument builtins arg with
  | .ok phrase => say o phrase
  | .error id => do
    reset
    throw (.failure (.unknownBuiltin id))

/-- Appends arguments of a call, with a comma in front of each but the first of all. -/
def sayArguments (o : TemplateOptions) (builtins : Registry) :
    List Argument → (isFirst : Bool) → EStateM Stop Tracer Unit
  | [], _ => pure ()
  | arg :: rest, isFirst => do
    sayAll o (if isFirst then [] else [⟨", ", []⟩])
    sayArgument o builtins arg
    sayArguments o builtins rest false

/-- Appends the arguments of a call in brackets, if there are any and they are to be shown. -/
def sayBrackets (settings : TraceSettings) (builtins : Registry) (call : Call) :
    EStateM Stop Tracer Unit :=
  if !call.args.isEmpty && settings.level.has .args then do
    say settings.options ⟨"(", []⟩
    sayArguments settings.options builtins call.args true
    say settings.options ⟨")", []⟩
  else pure ()

/-- Traces a call whose arguments are known. If one of them is unknown to the table, nothing is
left pending. -/
def pre (settings : TraceSettings) (builtins : Registry) (call : Call) :
    EStateM Stop Tracer Unit := do
  sayAll settings.options (settings.header call)
  say settings.options ⟨"%s", [.text call.name]⟩
  sayBrackets settings builtins call
  if settings.level.has .call then
    say settings.options ⟨" -> ???", []⟩
    finishLine

/-- Traces a call whose expansion is known. -/
def post (settings : TraceSettings) (call : Call) (expansion : Option String) :
    EStateM Stop Tracer Unit := do
  sayAll settings.options (settings.post call expansion)
  finishLine

end Tracer

end MacroTrace
