import MacroTrace.Program
/-!
# The command

The replay itself knows no files but those of a `FileStore`. So the command first takes down what it
needs to know of the real ones: what the configuration and the script say, and which of the paths
that are written to lead to one file. After the replay it carries out what came of it.
-/

namespace MacroTrace

namespace Command

/-- What the command says about itself. -/
def helpText : String :=
  "Replays a script of macro-processor events through the tracing and diagnostics layer.\n\n"
    ++ "Usage: mtrace [OPTIONS] <SCRIPT>\n\n"
    ++ "Arguments:\n"
    ++ "  <SCRIPT>  The replay script (YAML, or JSON with a .json extension)\n\n"
    ++ "Options:\n"
    ++ "  -d, --debug[=<FLAGS>]    Debug flags to start with; none select the default set aeq\n"
    ++ "  -o, --debugfile <FILE>   Send debug output to FILE; an empty name discards it\n"
    ++ "  -l, --arglength <NUM>    Truncate arguments and expansions to NUM characters\n"
    ++ "  -Q, --quiet              Suppress all warnings [aliases: --silent]\n"
    ++ "  -E, --fatal-warnings     Treat warnings as fatal errors\n"
    ++ "      --config <FILE>      Configuration file (YAML or JSON)\n"
    ++ "      --color <WHEN>       When to colour diagnostics: auto, always or never\n"
    ++ "  -h, --help               Print help\n"
    ++ "  -V, --version            Print version\n"

/-- The version of the command. -/
def versionText : String := "mtrace 0.1.0\n"

/-- What is wrong with a command line. -/
def usageText : UsageError → String
  | .unknownArgument => "unexpected argument found"
  | .missingRequiredArgument => "the script was not provided"
  | .invalidValue => "invalid or missing value for an argument"
  | .valueValidation => "a value is not a number"
  | .argumentConflict => "an argument cannot be used multiple times"
  | .tooManyValues => "unexpected value for an option that takes none"
  | .displayHelp => helpText
  | .displayVersion => versionText

/-- The path of the directory that a path is in. -/
def parentOf (path : String) : String :=
  let r := Path.route path
  (if r.absolute then "/" else "./") ++ "/".intercalate r.names.dropLast

/-- A store with a file under its real path, and the path it was asked for leading to it. -/
def place (s : FileStore) (path real : String) (contents : Bytes) :
    Except SystemError FileStore := do
  let s ← s.makeDirectory (parentOf real)
  let s ← if (s.find real).isOk then pure s else s.writeFile real contents
  let s ← if (s.find path).isOk then pure s else s.makeDirectory (parentOf path)
  if (s.find path).isOk then pure s else s.makeLink path real

/-- Takes down the file that a path leads to, and its contents if they are wanted. Of a file that is
not there yet only the directory is taken down. -/
def note (s : FileStore) (path : String) (wantsContents : Bool) : IO FileStore := do
  if path.isEmpty || (s.find path).isOk then return s
  try
    let real ← IO.FS.realPath path
    if ← real.isDir then return (s.makeDirectory path).toOption.getD s
    let contents ← if wantsContents then IO.FS.readBinFile real else pure .empty
    return (place s path real.toString contents.toList).toOption.getD s
  catch _ =>
    try
      let above ← IO.FS.realPath (parentOf path)
      if ← above.isDir then return (s.makeDirectory (parentOf path)).toOption.getD s
      return s
    catch _ => return s

/-- The paths that debug output can be sent to in the course of a replay. -/
def debugPaths (c : CommandLine) (s : FileStore) : List String :=
  let config := match c.config with
    | some path => (Config.load s path).toOption.getD {}
    | none => {}
  let first := (c.applyTo config).debugFile.toList
  let later := ((Script.load s c.script).toOption.getD []).filterMap fun
    | .debugFile selector => selector
    | _ => none
  (first ++ later).eraseDups

/-- Where a descriptor of this process leads. -/
def descriptorSink (s : FileStore) (descriptor : Nat) : IO (Sink × FileStore) := do
  try
    let real ← IO.FS.realPath s!"/proc/self/fd/{descriptor}"
    if ← real.pathExists then return (.file real.toString, ← note s real.toString false)
    return (.pipe, s)
  catch _ => return (.pipe, s)

/-- Carries out what went through the ports. What the system refuses has been reckoned with. -/
def perform (log : List Event) : IO Unit := do
  let out ← IO.getStdout
  let err ← IO.getStderr
  for event in log do
    try
      match event with
      | .wrote .out bytes => out.write ⟨bytes.toArray⟩
      | .wrote .err bytes => err.write ⟨bytes.toArray⟩
      | .flushed .out => out.flush
      | .flushed .err => err.flush
    catch _ => pure ()

/-- Appends to a real file what has been appended to it in the store. -/
def appendNew (before after : FileStore) (path : String) : IO Unit := do
  match after.readBytes path with
  | .error _ => return
  | .ok contents =>
    let known := (before.readBytes path).toOption
    let new := contents.drop (known.getD []).length
    if known.isNone || !new.isEmpty then
      let file ← IO.FS.Handle.mk path .append
      file.write ⟨new.toArray⟩

/-- Replays what a command line asks for, on the real streams and files. -/
def run (c : CommandLine) : IO UInt32 := do
  let home := (← IO.currentDir).toString
  let s := FileStore.initial 0
  let s := (s.makeDirectory home).toOption.getD s
  let s := { s with home := (s.find home).toOption.getD s.home }
  let mut s ← note s c.script true
  if let some path := c.config then s ← note s path true
  let paths := debugPaths c s
  for path in paths do
    s ← note s path false
  let (out, withOut) ← descriptorSink s 1
  let (err, before) ← descriptorSink withOut 2
  let colours := Program.coloured c.colour (← (← IO.getStderr).isTty)
  let (ending, last) := replay c (Program.initialOutputs out err colours before)
  let after := if ending = .aborted then last.store else last.closedStore
  let (ended, ports) := Program.conclude colours ending last.ports
  perform last.ports.screen
  for path in paths do
    appendNew before after path
  perform (ports.screen.drop last.ports.screen.length ++ [.flushed .out])
  return match ended with
    | .exited code => code.toUInt32
    | .killed signal => UInt32.ofNat (128 + signal)

/-- Answers a command line. -/
def answer (args : List String) : IO UInt32 := do
  match CommandLine.ofArguments args with
  | .ok c => run c
  | .error usage =>
    let text := usageText usage
    if usage.status = .success then (← IO.getStdout).putStr text
    else (← IO.getStderr).putStr s!"error: {text}\n\nFor more information, try --help.\n"
    return usage.status.code.toUInt32

end Command

end MacroTrace

/-- Runs the command. -/
def main (args : List String) : IO UInt32 :=
  MacroTrace.Command.answer args
