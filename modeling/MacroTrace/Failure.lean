import MacroTrace.Builtin
import MacroTrace.Level
import MacroTrace.Location
import MacroTrace.Storage.SystemError
/-!
# Failures and other ways to stop

A `Failure` is an answer that a caller can go on from. Apart from these, an operation can ask for
the end of the run with an exit status (`Stop.exit`), can find that a caller broke an agreement
(`Stop.panic`), or can find that the table of builtins contradicts the call it was to trace, which
ends the program at once (`Stop.abort`).
-/

namespace MacroTrace

/-- A failure that a caller can go on from. -/
inductive Failure
  /-- A flag string with a letter that stands for nothing. -/
  | badFlag (cause : BadFlag)
  /-- The debug file could not be opened. -/
  | debugFile (path : String) (cause : SystemError)
  /-- An argument names a builtin that the table does not know. -/
  | unknownBuiltin (id : BuiltinId)
  /-- An operation on a file or a stream failed. -/
  | system (doing : String) (cause : SystemError)
  /-- The configuration is unusable. A text that is not well-formed has no account of its fault. -/
  | config (account : Option String)
  /-- The script is unusable. A text that is not well-formed has no account of its fault. -/
  | script (account : Option String)
deriving DecidableEq, Repr

namespace Failure

/-- The failure in words, unless it has no account. -/
def message? : Failure → Option String
  | badFlag cause =>
    some s!"bad debug flag `{cause.flag}` at position {cause.position} in `{cause.flags}`"
  | debugFile path _ => some s!"cannot set debug file `{path}`"
  | unknownBuiltin id => some s!"builtin {id.text} not found in builtin table"
  | system doing _ => some doing
  | config account => account.map fun account => s!"configuration error: {account}"
  | script account => account.map fun account => s!"script error: {account}"

/-- The failure in words. -/
def message (f : Failure) : String := f.message?.getD
  (match f with
    | config _ => "configuration error: the document is not well-formed"
    | _ => "script error: the document is not well-formed")

/-- The failure of the system that lies behind, if there is one. -/
def cause? : Failure → Option SystemError
  | debugFile _ cause => some cause
  | system _ cause => some cause
  | _ => none

/-- The short code by which a kind of failure goes. -/
def code : Failure → String
  | badFlag _ => "mtrace::debug::flag"
  | debugFile _ _ => "mtrace::debug::file"
  | unknownBuiltin _ => "mtrace::internal::builtin"
  | system _ _ => "mtrace::io"
  | config _ => "mtrace::config"
  | script _ => "mtrace::script"

/-- Advice for a kind of failure. -/
def help? : Failure → Option String
  | badFlag _ => some "valid flags are a, e, q, t, l, f, p, c, i, x and V"
  | script _ => some "each step needs an `op` field"
  | _ => none

end Failure

/-- An agreement that a caller broke. -/
inductive Breach
  /-- A location has a line but no file. -/
  | strayLine (line : UInt32)
  /-- An integer was due, and this came instead. -/
  | notAnInteger (found : String)
  /-- A string was due, and this came instead. -/
  | notAString (found : String)
  /-- A count went past the largest number. -/
  | overflow
deriving DecidableEq, Repr

/-- The breach in words. -/
def Breach.message : Breach → String
  | strayLine line => s!"line {line.toNat} without a file"
  | notAnInteger found => s!"%d expects an integer, got {found}"
  | notAString found => s!"%s/%S expects a string, got {found}"
  | overflow => "attempt to add with overflow"

/-- An exit status. -/
abbrev ExitStatus := Int32

namespace ExitStatus

/-- The status of a run without errors. -/
def success : ExitStatus := 0

/-- The status of a run with errors. -/
def failure : ExitStatus := 1

/-- The status in words. -/
def text (status : ExitStatus) : String := toString status.toInt

/-- The request to end the run with a status, in words. -/
def exitText (status : ExitStatus) : String :=
  s!"terminating with exit status {status.text}"

end ExitStatus

/-- Why an operation did not come to its end. -/
inductive Stop
  /-- It failed in a way that the caller can go on from. -/
  | failure (cause : Failure)
  /-- The run is to end with this status. -/
  | exit (status : ExitStatus)
  /-- A caller broke an agreement. -/
  | panic (breach : Breach)
  /-- The program came to an end on the spot. -/
  | abort
deriving DecidableEq, Repr

end MacroTrace
