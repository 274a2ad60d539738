import MacroTrace.Presentation
import MacroTrace.Replay
import MacroTrace.Stream.Landing
/-!
# The program as the system sees it

The program is started with arguments, and with standard streams that lead to files or to pipes. It
ends with an exit code, or it is killed by a signal when it ends itself. `Program.run` tells how it
ends, and what then stands in the files and has come through the pipes.

Standard error may lead to the debug file, or the standard streams to one file by two ways. A stream
writes at a position of its own then, while debug output is appended. The two do not know of each
other, so the one may overwrite the other, and what stands in the file depends on the order of their
writes. `SharedFile` keeps track of that.
-/

namespace MacroTrace

/-- Where a standard stream of the program leads. -/
inductive Sink
  /-- To a pipe. -/
  | pipe
  /-- To a file, which is empty at the start. -/
  | file (path : String)
deriving DecidableEq, Repr

/-- How the program ended. -/
inductive ProcessEnd
  /-- With this exit code. -/
  | exited (code : UInt8)
  /-- By this signal. -/
  | killed (signal : Nat)
deriving DecidableEq, Repr

/-- What is left of the program. -/
structure Outcome where
  /-- How it ended. -/
  ended : ProcessEnd
  /-- What came through the pipe of standard output. -/
  out : Bytes
  /-- What came through the pipe of standard error. -/
  err : Bytes
  /-- The files. -/
  store : FileStore

/-- A file that both standard streams may lead to, each at a position of its own. -/
structure SharedFile where
  /-- What is in the file. -/
  contents : Bytes := []
  /-- The position of standard output. -/
  outPosition : Nat := 0
  /-- The position of standard error. -/
  errPosition : Nat := 0
deriving DecidableEq, Repr

namespace SharedFile

/-- The file after bytes have been appended. -/
def append (f : SharedFile) (bytes : Bytes) : SharedFile :=
  { f with contents := f.contents ++ bytes }

/-- The contents after bytes have been written at a position. -/
def overwritten (contents : Bytes) (position : Nat) (bytes : Bytes) : Bytes :=
  contents.take position ++ bytes ++ contents.drop (position + bytes.length)

/-- The file after a standard stream has written bytes. -/
def write (f : SharedFile) (port : Port) (bytes : Bytes) : SharedFile :=
  match port with
  | .out =>
    { f with
      contents := overwritten f.contents f.outPosition bytes
      outPosition := f.outPosition + bytes.length }
  | .err =>
    { f with
      contents := overwritten f.contents f.errPosition bytes
      errPosition := f.errPosition + bytes.length }

/-- The file after all that has come to it by both standard streams. -/
def ofArrivals (arrivals : List Arrival) : SharedFile :=
  arrivals.foldl (fun f arrival => f.write arrival.port arrival.bytes) {}

end SharedFile

/-- The signal by which the program ends itself. -/
def abortSignal : Nat := 6

/-- The exit code that the system makes of a status: its last eight bits. -/
def ExitStatus.code (status : ExitStatus) : UInt8 := UInt8.ofInt status.toInt

namespace Program

/-- The exit code when a caller has broken an agreement. -/
def panicCode : UInt8 := 101

/-- The end of the program that belongs to the ending of a replay. -/
def endOf : Ending → ProcessEnd
  | .finished status | .exited status => .exited status.code
  | .failed _ => .exited ExitStatus.failure.code
  | .panicked _ => .exited panicCode
  | .aborted => .killed abortSignal

/-- Whether the program shows colours on standard error. -/
def coloured (choice : ColourChoice) (isTerminal : Bool) : Bool :=
  match choice with
  | .auto => isTerminal
  | .always => true
  | .never => false

/-- Creates the file that a standard stream leads to, or empties it. -/
def openSink (sink : Sink) (s : FileStore) : Except SystemError FileStore :=
  match sink with
  | .pipe => .ok s
  | .file path =>
    match s.openAppend path with
    | .ok (node, opened) => if s.isFull node then .ok opened else s.writeFile path []
    | .error cause => .error cause

/-- The identity of what a standard stream leads to. A pipe leads to nothing that there is another
way to. -/
def sinkIdentity (sink : Sink) (s : FileStore) : Option Identity :=
  match sink with
  | .pipe => none
  | .file path => s.identityOf? path

/-- How a standard stream behaves that leads to a sink. -/
def sinkBehaviour (sink : Sink) (policy : BufferPolicy) (colours : Bool) (s : FileStore) :
    Behaviour :=
  match sink with
  | .pipe => .willing
  | .file path =>
    match s.find path with
    | .ok node => if s.isFull node then .full policy colours else .willing
    | .error _ => .willing

/-- The ports that the program starts with. -/
def initialPorts (out err : Sink) (colours : Bool) (s : FileStore) : Ports where
  out := { behaviour := sinkBehaviour out .byLine false s }
  err := { behaviour := sinkBehaviour err .immediate colours s, colours }

/-- The outputs that the program starts with. -/
def initialOutputs (out err : Sink) (colours : Bool) (s : FileStore) : Outputs :=
  .start (initialPorts out err colours s) s (sinkIdentity out s) (sinkIdentity err s)

/-- The outputs at the start and after each step, as far as a replay gets. -/
def moments (s : Session) : List Step → List Outputs
  | [] => [s.outputs]
  | step :: rest =>
    s.outputs :: match s.takeStep Registry.standard step with
      | .ok () s => moments s rest
      | .error _ s => [s.outputs]

/-- What a file has been given between two moments: by standard error, and as debug output. -/
def progress (node : Nat) (before after : Outputs) : Bytes × Bytes :=
  let contents (o : Outputs) := (o.store.contents node).toOption.getD []
  ((after.ports.screen.drop before.ports.screen.length).flatMap (Event.bytesTo .err),
    (contents after).drop (contents before).length)

/-- What is in the end in a file that standard error leads to and debug output may go to as well.
No step does both, except that a program that is about to end itself appends first. -/
def sharedContents (node : Nat) (isAborted : Bool) (moments : List Outputs) : Bytes :=
  let parts := List.zipWith (progress node) moments moments.tail
  let file := parts.foldl (fun f (written, appended) =>
      if isAborted then (f.append appended).write .err written
      else (f.write .err written).append appended)
    ({} : SharedFile)
  file.contents

/-- The store with other contents for the file that a standard stream leads to. -/
def fill (sink : Sink) (contents : Bytes) (s : FileStore) : FileStore :=
  match sink with
  | .pipe => s
  | .file path => (s.writeFile path contents).toOption.getD s

/-- What has come through the pipe of a standard stream. -/
def piped (sink : Sink) (bytes : Bytes) : Bytes :=
  match sink with
  | .pipe => bytes
  | .file _ => []

/-- How the program ends after a replay. It shows on standard error what kept it from its work, if
anything did; that it cannot even show this breaks an agreement. -/
def conclude (colours : Bool) (ending : Ending) (ports : Ports) : ProcessEnd × Ports :=
  match ending with
  | .failed cause =>
    match Ports.ask .err (.write (Utf8.encode (cause.presentation colours))) ports with
    | .ok () ports => (endOf ending, ports)
    | .error _ ports => (.exited panicCode, ports)
  | _ => (endOf ending, ports)

/-- Runs the program: it replays what the command line asks for, and shows what kept it from its
work, if anything did. -/
def run (c : CommandLine) (out err : Sink) (isTerminal : Bool) (s : FileStore) :
    Except SystemError Outcome := do
  let s ← openSink err (← openSink out s)
  let colours := coloured c.colour isTerminal
  let outputs := initialOutputs out err colours s
  let (ending, last) := replay c outputs
  let steps : List Outputs := match prepare c outputs with
    | .ok (session, steps) => moments session steps
    | .error _ => [outputs]
  let isAborted := ending = .aborted
  let closed := if isAborted then last else { last with store := last.closedStore }
  let (ended, ports) := conclude colours ending closed.ports
  let arrivals :=
    if isAborted then (land .byLine [] ports.screen).1 else landAll .byLine ports.screen
  let throughOut := Arrival.through .out arrivals
  let throughErr := Arrival.through .err arrivals
  let store :=
    if out = err then fill out (Arrival.together arrivals) closed.store
    else if outputs.outIdentity.isSome && outputs.outIdentity = outputs.errIdentity then
      fill out (SharedFile.ofArrivals arrivals).contents closed.store
    else
      fillErr (fill out throughOut closed.store) isAborted
        (steps ++ [last, closed, { closed with ports }])
  return { ended, out := piped out throughOut, err := piped err throughErr, store }
where
  /-- The store with the file filled that standard error leads to. -/
  fillErr (s : FileStore) (isAborted : Bool) (moments : List Outputs) : FileStore :=
    match err with
    | .pipe => s
    | .file path =>
      match s.find path with
      | .ok node => fill err (sharedContents node isAborted moments) s
      | .error _ => s

end Program

end MacroTrace
