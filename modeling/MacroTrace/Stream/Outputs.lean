import MacroTrace.Failure
import MacroTrace.Stream.FileWriter
import MacroTrace.Stream.Port
/-!
# Debug output

Debug output goes to one destination at a time: standard error at first, later possibly a file or
nowhere. Two ways to one file would lose the order in which text was produced. So whenever the
destination is not standard output itself, its identity is compared with that of standard output,
and standard output takes its place if both are known and agree. `Outputs` holds everything that text can be
written to, with the destination in force.
-/

namespace MacroTrace

/-- Where debug output can be asked to go. -/
inductive DebugTarget
  /-- To standard error. -/
  | stderr
  /-- Nowhere. -/
  | discard
  /-- To the end of a file. -/
  | file (path : String)
deriving DecidableEq, Repr

/-- The target that a selector names: no selector is standard error, the empty one discards, and
any other is a path. -/
def DebugTarget.ofSelector : Option String → DebugTarget
  | none => stderr
  | some path => if path.isEmpty then discard else file path

/-- Where debug output goes. -/
inductive Destination
  /-- To standard error. -/
  | stderr
  /-- To standard output. -/
  | stdout
  /-- To a file. -/
  | file (writer : FileWriter)
  /-- Nowhere. -/
  | discard
deriving DecidableEq, Repr

namespace Destination

/-- The name of a kind of destination. -/
def name : Destination → String
  | stderr => "stderr"
  | stdout => "stdout"
  | file _ => "file"
  | discard => "discard"

/-- The path of the file, if the destination is one. -/
def path? : Destination → Option String
  | file writer => some writer.path
  | _ => none

/-- Leaves a destination. Only a file needs to be closed. -/
def close (d : Destination) (s : FileStore) : FileStore :=
  match d with
  | file writer => writer.close s
  | _ => s

/-- What goes wrong when a destination is left, as the journal tells it. -/
def closingFault? (d : Destination) (s : FileStore) : Option String :=
  match d with
  | file writer =>
    match (writer.flush s).1 with
    | .ok () => none
    | .error cause => some s!"error closing debug file {writer.path}: {cause.text}"
  | _ => none

end Destination

/-- Everything that the program writes to. -/
structure Outputs where
  /-- The standard streams. -/
  ports : Ports := {}
  /-- The files. -/
  store : FileStore
  /-- The identity of standard output, if it is known. -/
  outIdentity : Option Identity := none
  /-- The identity of standard error, if it is known. -/
  errIdentity : Option Identity := none
  /-- Where debug output goes. -/
  active : Destination := .stderr

namespace Outputs

/-- The identity of what debug output goes to, if it is known and of interest. -/
def activeIdentity (o : Outputs) : Option Identity :=
  match o.active with
  | .stderr => o.errIdentity
  | .file writer => o.store.identity? writer.node
  | .stdout | .discard => none

/-- Whether debug output would reach what standard output reaches by another way. -/
def isShadowed (o : Outputs) : Bool :=
  match o.outIdentity, o.activeIdentity with
  | some a, some b => a = b
  | _, _ => false

/-- The ports once the destination is closed: the journal tells of bytes that were lost. -/
def closedPorts (o : Outputs) : Ports :=
  match o.active.closingFault? o.store with
  | some fault => o.ports.note .warning "mtrace::debug::stream" fault
  | none => o.ports

/-- Closes the destination in force and makes `next` the one in its place. -/
def replace (o : Outputs) (next : Destination) : Outputs :=
  { o with active := next, store := o.active.close o.store, ports := o.closedPorts }

/-- Makes `next` the destination; standard output takes the place of a destination that would reach
the same. -/
def adopt (o : Outputs) (next : Destination) : Outputs :=
  let o := o.replace next
  if o.isShadowed then o.replace .stdout else o

/-- Outputs whose debug output has not been redirected yet. -/
def start (ports : Ports) (store : FileStore) (outIdentity errIdentity : Option Identity) :
    Outputs :=
  adopt { ports, store, outIdentity, errIdentity, active := .discard } .stderr

/-- Redirects debug output. A file that cannot be opened leaves everything as it was. -/
def redirect (o : Outputs) (target : DebugTarget) : Except Failure Outputs :=
  match target with
  | .stderr => .ok (o.adopt .stderr)
  | .discard => .ok (o.adopt .discard)
  | .file path =>
    match o.store.openAppend path with
    | .ok (node, store) => .ok ({ o with store }.adopt (.file { path, node }))
    | .error cause => .error (.debugFile path cause)

/-- Carries out requests to the standard streams. -/
def onPorts {α : Type} (action : EStateM SystemError Ports α) : EStateM SystemError Outputs α :=
  fun o =>
    match action o.ports with
    | .ok a ports => .ok a { o with ports }
    | .error cause ports => .error cause { o with ports }

/-- Does something with the writer of the debug file, if debug output goes to a file. -/
def onFile (action : FileWriter → FileStore → Except SystemError Unit × FileWriter × FileStore) :
    EStateM SystemError Outputs Unit :=
  fun o =>
    match o.active with
    | .file writer =>
      match action writer o.store with
      | (.ok (), writer, store) => .ok () { o with active := .file writer, store }
      | (.error cause, writer, store) => .error cause { o with active := .file writer, store }
    | _ => .ok () o

/-- Writes debug output. -/
def write (bytes : Bytes) : EStateM SystemError Outputs Unit := do
  match (← get).active with
  | .stderr => onPorts (Ports.ask .err (.write bytes))
  | .stdout => onPorts (Ports.ask .out (.write bytes))
  | .file _ => onFile (·.write bytes)
  | .discard => pure ()

/-- Writes a text as debug output. -/
def writeText (text : String) : EStateM SystemError Outputs Unit :=
  write (Utf8.encode text)

/-- Flushes standard output, standard error and the debug file, up to the first that fails. -/
def flushAll : EStateM SystemError Outputs Unit := do
  onPorts (Ports.ask .out .flush)
  onPorts (Ports.ask .err .flush)
  onFile (·.flush)

/-- The files as they are once the destination is left for good. Nothing tells of bytes that are lost
then. -/
def closedStore (o : Outputs) : FileStore := o.active.close o.store

end Outputs

/-- The start of a one-line debug message. -/
def messageHeader (program : String) (level : Level) (location : Location) : String :=
  program ++ " debug: "
    ++ (if level.has .file then location.file.getD "" ++ ": " else "")
    ++ (if level.has .line then s!"{location.line.toNat}: " else "")

end MacroTrace
