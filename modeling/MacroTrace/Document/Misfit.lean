import MacroTrace.Document.Basic
import MacroTrace.Text.Quoted
/-!
# Misfits

A document is well-formed and yet does not say what it was read for: a field is unknown, missing or
given twice, or a value is of the wrong type or out of range. A `Misfit` is the first such fault in
the order of reading, and `Misfit.message` its account.
-/

namespace MacroTrace

/-- Why a document does not fit. -/
inductive Misfit
  /-- A field that is none of the known ones. -/
  | unknownField (name : String) (known : List String)
  /-- A field that has to be there is not. -/
  | missingField (name : String)
  /-- A field is given twice. -/
  | duplicateField (name : String)
  /-- A name that is none of the known variants. -/
  | unknownVariant (name : String) (known : List String)
  /-- A value of the wrong type. -/
  | wrongType (found expected : String)
  /-- A value that is out of range. -/
  | wrongValue (found expected : String)
  /-- A list of the wrong length. -/
  | wrongLength (length : Nat) (expected : String)
  /-- A list with more items than there are fields. -/
  | surplus
deriving DecidableEq, Repr

namespace Misfit

/-- Names in a list of what would have been right. -/
def oneOf (names : List String) : String :=
  match names with
  | [] => "there are no fields"
  | [a] => s!"expected `{a}`"
  | [a, b] => s!"expected `{a}` or `{b}`"
  | names => "expected one of " ++ ", ".intercalate (names.map fun n => s!"`{n}`")

/-- The misfit in words. -/
def message : Misfit → String
  | unknownField name known => s!"unknown field `{name}`, {oneOf known}"
  | missingField name => s!"missing field `{name}`"
  | duplicateField name => s!"duplicate field `{name}`"
  | unknownVariant name known => s!"unknown variant `{name}`, {oneOf known}"
  | wrongType found expected => s!"invalid type: {found}, expected {expected}"
  | wrongValue found expected => s!"invalid value: {found}, expected {expected}"
  | wrongLength length expected => s!"invalid length {length}, expected {expected}"
  | surplus => "trailing characters"

end Misfit

/-- What a message calls a value that should not have been there. -/
def Document.described : Document → String
  | .null => "null"
  | .bool value => s!"boolean `{value}`"
  | .int value => s!"integer `{value}`"
  | .float shown => s!"floating point `{shown}`"
  | .text value => s!"string {quoted value}"
  | .list _ => "sequence"
  | .table _ => "map"

end MacroTrace
