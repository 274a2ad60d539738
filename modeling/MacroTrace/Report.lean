import MacroTrace.Failure
import MacroTrace.Stream.Port
/-!
# Reports

Errors and warnings, and what they mean for the run. The `Reporter` alone decides on that:

* an error marks the run as failed, and ends it if its status says so, or if warnings are fatal;
* a warning is dropped if warnings are suppressed; otherwise it ends the run if warnings are fatal,
  but never marks it as failed.

The decision does not depend on how writing the report goes: a `Diagnostic` is written as far as
standard error takes it, after standard output has been flushed.
-/

namespace MacroTrace

/-- How bad the matter of a report is. -/
inductive Severity
  /-- Something failed. -/
  | error
  /-- Something looks wrong. -/
  | warning
deriving DecidableEq, Repr

/-- What is put in front of every warning. -/
def warningMarker : String := "Warning: "

/-- What is put in front of the report that the program ends itself. -/
def alarmMarker : String := "INTERNAL ERROR: "

/-- A report in all its parts. -/
structure Diagnostic where
  /-- How bad the matter is. -/
  severity : Severity
  /-- The name of the program. -/
  program : String
  /-- The position in the input, if there is one to show. -/
  position : Option (String × UInt32)
  /-- What there is to say. -/
  message : String
  /-- The number of the system's error behind it; zero if there is none. -/
  errnum : Int32
deriving DecidableEq, Repr

namespace Diagnostic

/-- The start of the report: the program and the position. -/
def header (d : Diagnostic) : String :=
  match d.position with
  | some (file, line) => s!"{d.program}:{file}:{line.toNat}: "
  | none => s!"{d.program}: "

/-- The system's error, as it stands at the end of the report. -/
def trailer (d : Diagnostic) : String :=
  if d.errnum = 0 then "" else s!": {describe d.errnum}"

/-- The whole report, without styles. -/
def text (d : Diagnostic) : String :=
  d.header ++ (if d.severity = .warning then warningMarker else "") ++ d.message ++ d.trailer
    ++ "\n"

/-- What standard error is asked for to show the report. -/
def requests (d : Diagnostic) : List Request :=
  [.write (Utf8.encode d.header)]
    ++ (if d.severity = .warning then
          [.paint .caution, .write (Utf8.encode warningMarker), .unpaint]
        else [])
    ++ [.write (Utf8.encode d.message)]
    ++ (if d.errnum = 0 then [] else [.write (Utf8.encode d.trailer)])
    ++ [.write (Utf8.encode "\n"), .flush]

/-- Shows the report, as far as the ports allow. The journal tells of it if it cannot be shown. -/
def send (d : Diagnostic) (s : Ports) : Ports :=
  match Ports.askAll .err d.requests (Ports.after (Ports.ask .out .flush) s) with
  | .ok () s => s
  | .error cause s => s.note .error "mtrace::report" s!"cannot write diagnostic: {cause.text}"

end Diagnostic

/-- What standard error is asked for when the program is about to end itself. -/
def alarmRequests (program message : String) : List Request :=
  [.write (Utf8.encode (program ++ ": ")), .paint .alarm, .write (Utf8.encode alarmMarker),
    .unpaint, .write (Utf8.encode (message ++ "\n")), .flush]

/-- Shows that the program is about to end itself, as far as the ports allow; the journal tells of
it first. -/
def sendAlarm (program message : String) (s : Ports) : Ports :=
  let s := s.note .error "mtrace::report" s!"internal contract violation: {message}"
  Ports.after (Ports.askAll .err (alarmRequests program message))
    (Ports.after (Ports.ask .out .flush) s)

/-- What is known about the run: the switches, and what has been reported so far. -/
structure Reporter where
  /-- The status with which the run ends if nothing ends it earlier. -/
  status : ExitStatus := .success
  /-- Whether warnings are dropped. -/
  suppressWarnings : Bool := false
  /-- Whether warnings end the run. -/
  fatalWarnings : Bool := false
  /-- How many errors have been reported. -/
  errors : UInt64 := 0
  /-- How many warnings have been reported; dropped ones do not count. -/
  warnings : UInt64 := 0
deriving DecidableEq, Repr

/-- Adds one to a count, if there is a larger one. -/
def countOne (n : UInt64) : Except Breach UInt64 :=
  if n.toNat + 1 < UInt64.size then .ok (n + 1) else .error .overflow

namespace Reporter

/-- How a report with this status goes on: it ends the run unless the status is success. -/
def verdict (status : ExitStatus) : Except Stop Unit :=
  if status = .success then .ok () else .error (.exit status)

/-- The status an error is taken to have: success becomes failure if warnings are fatal. -/
def errorStatus (r : Reporter) (status : ExitStatus) : ExitStatus :=
  if status = .success && r.fatalWarnings then .failure else status

/-- The status a warning is taken to have. -/
def warningStatus (r : Reporter) : ExitStatus :=
  if r.fatalWarnings then .failure else .success

/-- Takes note of an error, and tells how the run goes on. -/
def noteError (r : Reporter) (status : ExitStatus) : Except Stop Unit × Reporter :=
  match countOne r.errors with
  | .error breach => (.error (.panic breach), r)
  | .ok errors => (verdict (r.errorStatus status), { r with errors, status := .failure })

/-- Takes note of a warning that is not dropped, and tells how the run goes on. -/
def noteWarning (r : Reporter) : Except Stop Unit × Reporter :=
  match countOne r.warnings with
  | .error breach => (.error (.panic breach), r)
  | .ok warnings => (verdict r.warningStatus, { r with warnings })

end Reporter

end MacroTrace
