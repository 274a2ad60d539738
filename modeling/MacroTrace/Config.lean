import MacroTrace.Document.Record
import MacroTrace.Quotes
/-!
# Configuration

What a run can be told before it starts. Every setting has a default; a configuration document gives
only those that differ.
-/

namespace MacroTrace

/-- The settings of a run. -/
structure Config where
  /-- The name of the program. -/
  programName : String := "m4"
  /-- The debug flags to start with. -/
  debugFlags : Option String := none
  /-- Where debug output goes at the start: a path, or the empty text to discard it. -/
  debugFile : Option String := none
  /-- The largest number of characters shown of an argument or an expansion; zero for no limit. -/
  maxDebugArgLength : UInt64 := 0
  /-- Whether warnings are dropped. -/
  suppressWarnings : Bool := false
  /-- Whether warnings end the run. -/
  fatalWarnings : Bool := false
  /-- The left quote. -/
  leftQuote : String := Quotes.standard.left
  /-- The right quote. -/
  rightQuote : String := Quotes.standard.right
deriving DecidableEq, Repr, Inhabited

namespace Config

/-- How the values of settings are read from a notation. -/
structure Reading (σ : Type) where
  /-- A text. -/
  text : σ → Except Misfit String
  /-- A text that may be missing. -/
  textOption : σ → Except Misfit (Option String)
  /-- A count. -/
  count : σ → Except Misfit UInt64
  /-- A truth value. -/
  bool : σ → Except Misfit Bool

/-- The settings under the names that documents give them. -/
def fields {σ : Type} (r : Reading σ) : List (Field σ Config) :=
  [⟨"program_name", false, fun v c => return { c with programName := ← r.text v }⟩,
   ⟨"debug_flags", false, fun v c => return { c with debugFlags := ← r.textOption v }⟩,
   ⟨"debug_file", false, fun v c => return { c with debugFile := ← r.textOption v }⟩,
   ⟨"max_debug_arg_length", false, fun v c => return { c with maxDebugArgLength := ← r.count v }⟩,
   ⟨"suppress_warnings", false, fun v c => return { c with suppressWarnings := ← r.bool v }⟩,
   ⟨"fatal_warnings", false, fun v c => return { c with fatalWarnings := ← r.bool v }⟩,
   ⟨"left_quote", false, fun v c => return { c with leftQuote := ← r.text v }⟩,
   ⟨"right_quote", false, fun v c => return { c with rightQuote := ← r.text v }⟩]

/-- How a document gives the values of settings. -/
def documentReading : Reading Document where
  text := Document.asText
  textOption := Document.asOption Document.asText
  count := Document.asCount
  bool := Document.asBool

/-- Reads a configuration from a document. A list gives the settings in order, and need not give
all of them. -/
def ofDocument : Document → Except Misfit Config
  | .table entries =>
    let fields := fields documentReading
    Record.ofEntries fields (Document.asField fields) entries {}
  | .list items => do
    let fields := fields documentReading
    let (rest, config) ← Record.putItems "struct DiagConfig" fields.length fields 0 items {}
    if rest.isEmpty then return config else throw .surplus
  | d => d.mismatch "struct DiagConfig"

end Config

end MacroTrace
