import MacroTrace.Json.Reader
import MacroTrace.Storage.FileStore
import MacroTrace.Yaml.Schema
/-!
# Loading configurations and scripts

A configuration or a script is written in JSON or in YAML; the name of the file tells in which. A
YAML text of nothing but blanks stands for the default configuration, or for no steps.
-/

namespace MacroTrace

/-- A format of documents. -/
inductive DocumentFormat
  /-- JSON. -/
  | json
  /-- YAML. -/
  | yaml
deriving DecidableEq, Repr

/-- Why a text could not be read as what it was to be. -/
inductive Unreadable
  /-- It is not well-formed, or no account is given of why it does not fit. -/
  | malformed
  /-- It does not fit. -/
  | misfit (cause : Misfit)
deriving DecidableEq, Repr

/-- The account of why a text could not be read, with what it starts with. -/
def Unreadable.account? (start : String) : Unreadable → Option String
  | malformed => none
  | misfit cause => some (start ++ cause.message)

/-- Whether a character counts as white space. -/
def isWhite (c : Char) : Bool :=
  let n := c.toNat
  (9 ≤ n && n ≤ 13) || n = 0x20 || n = 0x85 || n = 0xA0 || n = 0x1680 || (0x2000 ≤ n && n ≤ 0x200A)
    || n = 0x2028 || n = 0x2029 || n = 0x202F || n = 0x205F || n = 0x3000

/-- Whether a text is nothing but white space. -/
def isWhiteText (text : String) : Bool := text.toList.all isWhite

/-- Reads a JSON text by way of the document that it holds. -/
def readJson {α : Type} (ofDocument : Document → Except Misfit α) (text : String) :
    Except Unreadable α :=
  match Json.read? text with
  | none => .error .malformed
  | some d => (ofDocument d).mapError .misfit

/-- Reads a YAML text, of which blanks alone stand for the default. -/
def readYaml {α : Type} (read? : String → Option α) (default : α) (text : String) :
    Except Unreadable α :=
  if isWhiteText text then .ok default
  else match read? text with
    | some a => .ok a
    | none => .error .malformed

namespace Config

/-- Reads a configuration. -/
def read (f : DocumentFormat) (text : String) : Except Unreadable Config :=
  match f with
  | .json => readJson ofDocument text
  | .yaml => readYaml Yaml.config? {} text

/-- Reads a configuration that stands in no file. -/
def ofText (f : DocumentFormat) (text : String) : Except Failure Config :=
  (read f text).mapError fun u => .config (u.account? "")

/-- The format of a configuration file. -/
def format? (path : String) : Option DocumentFormat :=
  match Path.extension? path with
  | some "yaml" | some "yml" => some .yaml
  | some "json" => some .json
  | _ => none

/-- Loads a configuration. -/
def load (s : FileStore) (path : String) : Except Failure Config := do
  match format? path with
  | none => throw (.config
      (some s!"{path}: unsupported configuration format (expected .yaml, .yml or .json)"))
  | some f =>
    let text ← (s.readText path).mapError (.system s!"reading {path}")
    (read f text).mapError fun u => .config (u.account? s!"{path}: ")

end Config

namespace Script

/-- Reads the steps of a script. -/
def read (f : DocumentFormat) (text : String) : Except Unreadable (List Step) :=
  match f with
  | .json => readJson Step.listOfDocument text
  | .yaml => readYaml Yaml.script? [] text

/-- The format of a script file. -/
def formatOf (path : String) : DocumentFormat :=
  if Path.extension? path = some "json" then .json else .yaml

/-- Loads a script. -/
def load (s : FileStore) (path : String) : Except Failure (List Step) := do
  let text ← (s.readText path).mapError (.system s!"reading {path}")
  (read (formatOf path) text).mapError fun u => .script (u.account? s!"{path}: ")

end Script

end MacroTrace
