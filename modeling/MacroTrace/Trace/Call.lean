import MacroTrace.Builtin
import MacroTrace.Quotes
/-!
# Macro calls

A macro call as the tracer is told about it, and the phases in which it is traced.
-/

namespace MacroTrace

/-- One argument of a macro call. -/
inductive Argument
  /-- A text. -/
  | text (value : String)
  /-- A builtin. -/
  | builtin (id : BuiltinId)
deriving DecidableEq, Repr

/-- The argument's value as text; a builtin has none. -/
def Argument.asText : Argument → String
  | text value => value
  | builtin _ => ""

/-- A macro call. -/
structure Call where
  /-- The number of the call. -/
  id : UInt32 := 1
  /-- The name of the macro. -/
  name : String
  /-- How deep the call is nested. -/
  depth : UInt64 := 1
  /-- The arguments. -/
  args : List Argument := []
deriving DecidableEq, Repr

/-- Arguments as one text: their values, with quotes around each if `isQuoted` is set and
`separator` between them. -/
def joinArguments (quotes : Quotes) (args : List Argument) (separator : String)
    (isQuoted : Bool) : String :=
  separator.intercalate (args.map fun arg => quotes.wrapIf isQuoted arg.asText)

end MacroTrace
