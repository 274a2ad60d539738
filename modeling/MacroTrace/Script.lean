import MacroTrace.Document.Record
import MacroTrace.Failure
import MacroTrace.Trace.Call
/-!
# Scripts

A script is a list of steps, each of which is one event that a macro processor would tell its
diagnostics about. In a document a step is a table whose key `op` tells the kind of step, the other
keys being the fields of that kind; or a list whose first item is the kind, the others being its
fields in order.
-/

namespace MacroTrace

/-- The phase of a call that a step traces. -/
inductive Phase
  /-- The call has been met. -/
  | prepre
  /-- Its arguments are known. -/
  | pre
  /-- Its expansion is known. -/
  | post
deriving DecidableEq, Repr

/-- A call with its expansion, if that is known. -/
structure TracedCall where
  /-- The call. -/
  call : Call
  /-- The expansion; only the last phase looks at it. -/
  result : Option String := none
deriving DecidableEq, Repr

/-- An error to report. -/
structure ErrorReport where
  /-- The status with which it asks the run to end; success to go on. -/
  status : ExitStatus := .success
  /-- The number of the system's error behind it, or zero. -/
  errnum : Int32 := 0
  /-- What there is to say. -/
  text : String
deriving DecidableEq, Repr

/-- A warning to report. -/
structure WarningReport where
  /-- The number of the system's error behind it, or zero. -/
  errnum : Int32 := 0
  /-- What there is to say. -/
  text : String
deriving DecidableEq, Repr

/-- A check of a builtin's number of arguments. -/
structure CountCheck where
  /-- The builtin. -/
  name : String
  /-- The number of arguments, the name of the builtin among them. -/
  count : UInt64
  /-- The smallest right number, the name not counted. -/
  least : UInt64
  /-- The largest right number, if there is one. -/
  most : Option UInt64 := none
  /-- Whether the builtin has a side effect. -/
  sideEffect : Bool := false
deriving DecidableEq, Repr

/-- A check of a numeric argument. -/
structure NumberCheck where
  /-- The builtin. -/
  name : String
  /-- The argument. -/
  text : String
deriving DecidableEq, Repr

/-- Arguments to print. -/
structure ArgumentDump where
  /-- The arguments. -/
  args : List Argument := []
  /-- What is put between them. -/
  separator : String := ","
  /-- Whether each is put in quotes. -/
  isQuoted : Bool := false
deriving DecidableEq, Repr

/-- One event of a script. -/
inductive Step
  /-- The position in the input changes. -/
  | location (position : Location)
  /-- The debug level changes; no flags ask for the standard level. -/
  | debugMode (flags : Option String)
  /-- Debug output is redirected. -/
  | debugFile (selector : Option String)
  /-- A call is traced. -/
  | trace (phase : Phase) (traced : TracedCall)
  /-- A debug message is written. -/
  | message (text : String)
  /-- Text is written to standard output. -/
  | output (text : String)
  /-- An error is reported. -/
  | error (report : ErrorReport)
  /-- A warning is reported. -/
  | warn (report : WarningReport)
  /-- The number of a builtin's arguments is checked, and the answer printed. -/
  | argc (check : CountCheck)
  /-- A numeric argument is checked, and its value printed if it has one. -/
  | numeric (check : NumberCheck)
  /-- Arguments are printed. -/
  | dumpArgs (dump : ArgumentDump)
  /-- Everything is flushed. -/
  | flush
deriving DecidableEq, Repr

namespace Step

open Document

/-! ## Arguments of calls -/

/-- The names of the kinds of argument. -/
def argumentKinds : List String := ["text", "builtin"]

/-- The position among `kinds` of the one that a key names, by name or by position. -/
def kindIndex (kinds : List String) : Document → Except Misfit Nat
  | .text name =>
    match kinds.idxOf? name with
    | some index => .ok index
    | none => .error (.unknownVariant name kinds)
  | .int index =>
    if 0 ≤ index && index < kinds.length then .ok index.toNat
    else .error (.wrongValue (Document.int index).described
      s!"variant index 0 <= i < {kinds.length}")
  | d => d.mismatch "variant identifier"

/-- Reads an argument: a table with the kind as its only key. -/
def argument : Document → Except Misfit Argument
  | .table [(kind, value)] => do
    match ← kindIndex argumentKinds kind with
    | 0 => return .text (← value.asText)
    | _ => return .builtin ⟨← value.asNumber⟩
  | .table _ => .error (.wrongValue "map" "map with a single key")
  | .text kind => do
    let _ ← kindIndex argumentKinds (.text kind)
    throw (.wrongType "unit variant" "newtype variant")
  | d => d.mismatch "string or map"

/-! ## Fields of the kinds of step -/

/-- The fields of a location. -/
def locationFields : List (Field Document Location) :=
  [⟨"file", false, fun v l => return { l with file := ← asOption asText v }⟩,
   ⟨"line", false, fun v l => return { l with line := ← asNumber v }⟩]

/-- The field of a record that is one text which may be missing. -/
def optionField (name : String) : List (Field Document (Option String)) :=
  [⟨name, false, fun v _ => asOption asText v⟩]

/-- The field of a record that is one text. -/
def textField : List (Field Document String) :=
  [⟨"text", true, fun v _ => asText v⟩]

/-- The fields of a traced call. -/
def callFields : List (Field Document TracedCall) :=
  [⟨"id", true, fun v t => return { t with call.id := ← asNumber v }⟩,
   ⟨"name", true, fun v t => return { t with call.name := ← asText v }⟩,
   ⟨"depth", false, fun v t => return { t with call.depth := ← asCount v }⟩,
   ⟨"args", false, fun v t => return { t with call.args := ← asList argument v }⟩,
   ⟨"result", false, fun v t => return { t with result := ← asOption asText v }⟩]

/-- The fields of an error. -/
def errorFields : List (Field Document ErrorReport) :=
  [⟨"status", false, fun v e => return { e with status := ← asSigned v }⟩,
   ⟨"errnum", false, fun v e => return { e with errnum := ← asSigned v }⟩,
   ⟨"text", true, fun v e => return { e with text := ← asText v }⟩]

/-- The fields of a warning. -/
def warningFields : List (Field Document WarningReport) :=
  [⟨"errnum", false, fun v w => return { w with errnum := ← asSigned v }⟩,
   ⟨"text", true, fun v w => return { w with text := ← asText v }⟩]

/-- The fields of a check of a number of arguments. -/
def countFields : List (Field Document CountCheck) :=
  [⟨"name", true, fun v c => return { c with name := ← asText v }⟩,
   ⟨"argc", true, fun v c => return { c with count := ← asCount v }⟩,
   ⟨"min", true, fun v c => return { c with least := ← asCount v }⟩,
   ⟨"max", false, fun v c => return { c with most := ← asOption asCount v }⟩,
   ⟨"side_effect", false, fun v c => return { c with sideEffect := ← asBool v }⟩]

/-- The fields of a check of a numeric argument. -/
def numberFields : List (Field Document NumberCheck) :=
  [⟨"name", true, fun v c => return { c with name := ← asText v }⟩,
   ⟨"text", true, fun v c => return { c with text := ← asText v }⟩]

/-- The fields of arguments to print. -/
def dumpFields : List (Field Document ArgumentDump) :=
  [⟨"args", false, fun v d => return { d with args := ← asList argument v }⟩,
   ⟨"separator", false, fun v d => return { d with separator := ← asText v }⟩,
   ⟨"quoted", false, fun v d => return { d with isQuoted := ← asBool v }⟩]

/-! ## Kinds of step -/

/-- A kind of step: its name, and how its fields are read. -/
structure Kind where
  /-- The name, as the value of `op`. -/
  name : String
  /-- Reads the fields. -/
  read : Document → Except Misfit Step

/-- The kind of step with the given fields. -/
def Kind.ofFields {α : Type} (name variant : String) (fields : List (Field Document α))
    (default : α) (step : α → Step) : Kind :=
  ⟨name, fun d => return step (← asRecord s!"struct variant Step::{variant}" fields default d)⟩

/-- A kind of step that traces a call. -/
def Kind.ofPhase (name : String) (phase : Phase) : Kind :=
  ⟨name, fun d =>
    return .trace phase (← asRecord "struct CallStep" callFields { call := { name := "" } } d)⟩

/-- The kind of step without fields. What a table gives besides is ignored. -/
def Kind.bare (name : String) (step : Step) : Kind :=
  ⟨name, fun
    | .list [] => return step
    | .list items => throw (.wrongLength items.length (Record.sequenceExpected 0))
    | _ => return step⟩

/-- Every kind of step. -/
def kinds : List Kind :=
  [.ofFields "location" "Location" locationFields {} .location,
   .ofFields "debugmode" "DebugMode" (optionField "flags") none .debugMode,
   .ofFields "debugfile" "DebugFile" (optionField "path") none .debugFile,
   .ofPhase "prepre" .prepre,
   .ofPhase "pre" .pre,
   .ofPhase "post" .post,
   .ofFields "message" "Message" textField "" .message,
   .ofFields "output" "Output" textField "" .output,
   .ofFields "error" "Error" errorFields { text := "" } .error,
   .ofFields "warn" "Warn" warningFields { text := "" } .warn,
   .ofFields "argc" "Argc" countFields { name := "", count := 0, least := 0 } .argc,
   .ofFields "numeric" "Numeric" numberFields { name := "", text := "" } .numeric,
   .ofFields "dumpargs" "DumpArgs" dumpFields {} .dumpArgs,
   .bare "flush" .flush]

/-- The names of the kinds of step. -/
def kindNames : List String := kinds.map (·.name)

/-- The kind of step of a name. -/
def kindNamed (name : String) : Except Misfit Kind :=
  match kinds.find? (·.name == name) with
  | some kind => .ok kind
  | none => .error (.unknownVariant name kindNames)

/-- The key that tells the kind of a step. -/
def kindKey : String := "op"

/-- Splits the entries of a table into the value under `op` and all others. -/
def splitKind {σ κ : Type} (isKind : σ → Bool) (kind : σ → Except Misfit κ) :
    List (σ × σ) → Option κ → Except Misfit (Option κ × List (σ × σ))
  | [], found => .ok (found, [])
  | (key, value) :: rest, found => do
    if isKind key then
      if found.isSome then throw (.duplicateField kindKey)
      splitKind isKind kind rest (some (← kind value))
    else
      let (found, others) ← splitKind isKind kind rest found
      return (found, (key, value) :: others)

/-- The kind of step that a value names. -/
def kindOf : Document → Except Misfit Kind
  | .text name => kindNamed name
  | d => d.mismatch "variant identifier"

/-- Whether a key is the one that tells the kind of a step. -/
def isKindKey : Document → Bool
  | .text name => name == kindKey
  | _ => false

/-- Reads a step. -/
def ofDocument : Document → Except Misfit Step
  | .table entries => do
    let (kind, fields) ← splitKind isKindKey kindOf entries none
    match kind with
    | some kind => kind.read (.table fields)
    | none => throw (.missingField kindKey)
  | .list [] => throw (.missingField kindKey)
  | .list (kind :: fields) => do (← kindOf kind).read (.list fields)
  | d => d.mismatch "internally tagged enum Step"

/-- Reads the steps of a script. -/
def listOfDocument : Document → Except Misfit (List Step) :=
  asList ofDocument

end Step

end MacroTrace
