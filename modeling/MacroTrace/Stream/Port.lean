import MacroTrace.Storage.SystemError
import MacroTrace.Text.Utf8
/-!
# The standard streams

The program writes to two ports, standard output and standard error. What a port does with a
request is its `Behaviour`: it may carry out any request or refuse it, and a refused write may still
have gone through in part. All that went through is kept in one log for both ports, in the order in
which it happened.

A port may or may not know how to show colours; one that does not carries out a request for a colour
by doing nothing.

The program also keeps a log about itself, its journal, of failures that no report is made of. The
lines of the journal show at standard error as well, but by another way than through its port, so
that no port ever answers for them (`Ports.screen`).
-/

namespace MacroTrace

/-- One of the two standard streams. -/
inductive Port
  /-- Standard output. -/
  | out
  /-- Standard error. -/
  | err
deriving DecidableEq, Repr

/-- A manner of showing text. -/
inductive Style
  /-- Bold and yellow. -/
  | caution
  /-- Bold and red. -/
  | alarm
deriving DecidableEq, Repr

namespace Style

/-- The escape sequence that ends every style. -/
def plain : String := "\x1b[0m"

/-- The escape sequences that set a style, whatever was set before. -/
def escapes : Style → String
  | caution => plain ++ "\x1b[1m\x1b[33m"
  | alarm => plain ++ "\x1b[1m\x1b[31m"

end Style

/-- What a port can be asked for. -/
inductive Request
  /-- To take bytes. -/
  | write (bytes : Bytes)
  /-- To hand on all it has taken. -/
  | flush
  /-- To show what follows in a style. -/
  | paint (style : Style)
  /-- To show what follows without a style. -/
  | unpaint
deriving DecidableEq, Repr

/-- How a port answers a request. -/
inductive Reply
  /-- It is carried out. -/
  | done
  /-- It fails; of a write, at most `taken` bytes have gone through. -/
  | refused (taken : Nat) (cause : SystemError)
deriving DecidableEq, Repr

namespace Request

/-- The bytes that a request brings to a port, which may or may not show colours. -/
def bytes (colours : Bool) : Request → Bytes
  | write bytes => bytes
  | flush => []
  | paint style => if colours then Utf8.encode style.escapes else []
  | unpaint => if colours then Utf8.encode Style.plain else []

/-- Whether a request asks for nothing at all. -/
def isVoid : Request → Bool
  | write bytes => bytes.isEmpty
  | _ => false

end Request

/-- What a port answers to a request, in view of its earlier requests and answers, the last of which
comes first. -/
abbrev Behaviour := List (Request × Reply) → Request → Reply

namespace Behaviour

/-- Carries out everything. -/
def willing : Behaviour := fun _ _ => .done

/-- Refuses everything for one reason. -/
def refusing (cause : SystemError) : Behaviour := fun _ _ => .refused 0 cause

end Behaviour

/-- A port as the program meets it. -/
structure PortState where
  /-- What it answers. -/
  behaviour : Behaviour := .willing
  /-- The requests it has answered, the last of them first. -/
  past : List (Request × Reply) := []
  /-- Whether it shows styles, by escape sequences. -/
  colours : Bool := false

/-- Something that went through. -/
inductive Event
  /-- Bytes arrived at a port. -/
  | wrote (port : Port) (bytes : Bytes)
  /-- A port handed on all it had. -/
  | flushed (port : Port)
deriving DecidableEq, Repr

/-- How serious the matter of an entry of the journal is. -/
inductive JournalLevel
  /-- Something failed. -/
  | error
  /-- Something looks wrong. -/
  | warning
deriving DecidableEq, Repr

/-- The level as a line of the journal shows it. -/
def JournalLevel.label : JournalLevel → String
  | error => "ERROR"
  | warning => "WARN "

/-- An entry of the journal. -/
structure JournalEntry where
  /-- How much had gone through the ports before. -/
  position : Nat
  /-- How serious the matter is. -/
  level : JournalLevel
  /-- The part of the program that the entry comes from. -/
  origin : String
  /-- What there is to say. -/
  message : String
deriving DecidableEq, Repr

/-- The entry as it is shown. All lines of the message but the first are set in. -/
def JournalEntry.line (e : JournalEntry) : String :=
  let lines := (e.message.toList.splitOn '\n').map String.ofList
  "[" ++ e.level.label ++ " " ++ e.origin ++ "] " ++ "\n    ".intercalate lines ++ "\n"

/-- Both ports, and what has gone through so far. -/
structure Ports where
  /-- Standard output. -/
  out : PortState := {}
  /-- Standard error. -/
  err : PortState := {}
  /-- What went through, oldest first. -/
  log : Array Event := #[]
  /-- The journal, oldest entry first. -/
  journal : Array JournalEntry := #[]

namespace Ports

/-- The state of one port. -/
def state (s : Ports) : Port → PortState
  | .out => s.out
  | .err => s.err

/-- Replaces the state of one port. -/
def setState (s : Ports) (p : Port) (state : PortState) : Ports :=
  match p with
  | .out => { s with out := state }
  | .err => { s with err := state }

/-- From now on a port answers as `behaviour` says. -/
def setBehaviour (s : Ports) (p : Port) (behaviour : Behaviour) : Ports :=
  s.setState p { s.state p with behaviour }

/-- What goes through when a port carries a request out. -/
def effect (p : Port) (colours : Bool) : Request → Event
  | .flush => .flushed p
  | request => .wrote p (request.bytes colours)

/-- What goes through when a port refuses a request. -/
def residue (p : Port) (taken : Nat) : Request → Event
  | .write bytes => .wrote p (bytes.take taken)
  | _ => .wrote p []

/-- Puts a request to a port. A write of nothing is never put to it. -/
def ask (p : Port) (request : Request) : EStateM SystemError Ports Unit := fun s =>
  if request.isVoid then .ok () s
  else
    let port := s.state p
    let reply := port.behaviour port.past request
    let s := s.setState p { port with past := (request, reply) :: port.past }
    match reply with
    | .done => .ok () { s with log := s.log.push (effect p port.colours request) }
    | .refused taken cause => .error cause { s with log := s.log.push (residue p taken request) }

/-- Puts requests to a port, up to the first one that it refuses. -/
def askAll (p : Port) : List Request → EStateM SystemError Ports Unit
  | [] => pure ()
  | request :: rest => do
    ask p request
    askAll p rest

/-- Adds an entry to the journal. -/
def note (s : Ports) (level : JournalLevel) (origin message : String) : Ports :=
  { s with journal := s.journal.push { position := s.log.size, level, origin, message } }

/-- The lines of the journal that were added when `position` events had gone through. -/
def journalAt (s : Ports) (position : Nat) : List Event :=
  (s.journal.toList.filter (·.position = position)).map fun e => .wrote .err (Utf8.encode e.line)

/-- All that shows: what has gone through, with the lines of the journal in between. -/
def screen (s : Ports) : List Event :=
  (List.range (s.log.size + 1)).flatMap fun n => s.journalAt n ++ s.log[n]?.toList

/-- The state after an attempt whose failure is of no account. -/
def after (attempt : EStateM SystemError Ports Unit) (s : Ports) : Ports :=
  match attempt s with
  | .ok _ s => s
  | .error _ s => s

end Ports

/-- The bytes that an event brings to a port. -/
def Event.bytesTo (p : Port) : Event → Bytes
  | .wrote q bytes => if q = p then bytes else []
  | .flushed _ => []

/-- Sums up a log: writes that brought nothing are left out, and writes to one port that follow
each other become one. -/
def Event.summary : List Event → List Event
  | [] => []
  | .flushed p :: rest => .flushed p :: summary rest
  | .wrote p bytes :: rest =>
    if bytes.isEmpty then summary rest
    else match summary rest with
      | .wrote q more :: later =>
        if p = q then .wrote p (bytes ++ more) :: later
        else .wrote p bytes :: .wrote q more :: later
      | later => .wrote p bytes :: later

end MacroTrace
