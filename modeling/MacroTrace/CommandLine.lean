import MacroTrace.Config
import MacroTrace.Failure
/-!
# The command line

What the program is called with. Arguments are taken from left to right. One that starts with two
dashes is an option by its long name, one that starts with a single dash is options by their
letters, and any other is the value of the option in front of it if that still needs one, or else
the script. Behind `--` everything is taken as it stands.

The value of an option is only looked at when the next argument is settled. So of two faults it need
not be the first one in the text that is reported; `Reader` keeps what is still to be looked at.
-/

namespace MacroTrace

/-- When reports are shown in colours. -/
inductive ColourChoice
  /-- If standard error is a terminal. -/
  | auto
  /-- Always. -/
  | always
  /-- Never. -/
  | never
deriving DecidableEq, Repr

namespace ColourChoice

/-- The word for a choice. -/
def word : ColourChoice → String
  | auto => "auto"
  | always => "always"
  | never => "never"

/-- The choice that a word stands for. -/
def ofWord? (w : String) : Option ColourChoice := [auto, always, never].find? (·.word == w)

end ColourChoice

/-- What the program was called with. -/
structure CommandLine where
  /-- The script. -/
  script : String
  /-- The debug flags to start with; empty for the standard level. -/
  debug : Option String := none
  /-- Where debug output goes at the start. -/
  debugFile : Option String := none
  /-- The largest number of characters shown of an argument. -/
  argLength : Option UInt64 := none
  /-- Whether warnings are suppressed. -/
  quiet : Bool := false
  /-- Whether warnings are fatal. -/
  fatalWarnings : Bool := false
  /-- The configuration. -/
  config : Option String := none
  /-- When to show colours. -/
  colour : ColourChoice := .auto
deriving DecidableEq, Repr

/-- Why the program does not run as called. -/
inductive UsageError
  /-- No such option, or an argument too many. -/
  | unknownArgument
  /-- There is no script. -/
  | missingRequiredArgument
  /-- A value is missing, empty where it must not be, or none of the words that are possible. -/
  | invalidValue
  /-- A value is not a number. -/
  | valueValidation
  /-- An option is given twice. -/
  | argumentConflict
  /-- An option that takes no value is given one. -/
  | tooManyValues
  /-- The help text was asked for. -/
  | displayHelp
  /-- The version was asked for. -/
  | displayVersion
deriving DecidableEq, Repr

/-- The exit status that goes with a refusal to run. -/
def UsageError.status : UsageError → ExitStatus
  | displayHelp | displayVersion => 0
  | _ => 2

namespace CommandLine

/-- What an argument can be for. -/
inductive Slot
  /-- The script. -/
  | script
  /-- The debug flags. -/
  | debug
  /-- The debug file. -/
  | debugFile
  /-- The length limit. -/
  | argLength
  /-- The suppression of warnings. -/
  | quiet
  /-- Fatal warnings. -/
  | fatalWarnings
  /-- The configuration. -/
  | config
  /-- Colours. -/
  | colour
  /-- The help text. -/
  | help
  /-- The version. -/
  | version
deriving DecidableEq, Repr

namespace Slot

/-- The options by their long names. -/
def longNames : List (String × Slot) :=
  [("debug", debug), ("debugfile", debugFile), ("arglength", argLength), ("quiet", quiet),
   ("silent", quiet), ("fatal-warnings", fatalWarnings), ("config", config), ("color", colour),
   ("help", help), ("version", version)]

/-- The options by their letters. -/
def letters : List (Char × Slot) :=
  [('d', debug), ('o', debugFile), ('l', argLength), ('Q', quiet), ('E', fatalWarnings),
   ('h', help), ('V', version)]

/-- The option of a long name. -/
def ofLong? (name : String) : Option Slot := (longNames.find? (·.1 == name)).map (·.2)

/-- The option of a letter. -/
def ofLetter? (c : Char) : Option Slot := (letters.find? (·.1 == c)).map (·.2)

/-- Whether an option takes a value. -/
def takesValue : Slot → Bool
  | quiet | fatalWarnings | help | version => false
  | _ => true

/-- Whether the value of an option has to follow an equals sign, and may be left out. -/
def needsEquals : Slot → Bool
  | debug => true
  | _ => false

end Slot

/-- The state of reading a command line. -/
structure Reader where
  /-- The script, once it is settled. -/
  script : Option String := none
  /-- The debug flags. -/
  debug : Option String := none
  /-- The debug file. -/
  debugFile : Option String := none
  /-- The length limit. -/
  argLength : Option UInt64 := none
  /-- Whether warnings are suppressed. -/
  quiet : Bool := false
  /-- Whether warnings are fatal. -/
  fatalWarnings : Bool := false
  /-- The configuration. -/
  config : Option String := none
  /-- Colours. -/
  colour : Option ColourChoice := none
  /-- What has been given without having been looked at, with its value if that has come. -/
  pending : Option (Slot × Option String) := none
  /-- Whether the script has been given. -/
  hasScript : Bool := false
deriving DecidableEq, Repr

/-- A number without a sign, or with a plus sign, that fits into 64 bits. -/
def count? (text : String) : Option UInt64 :=
  let digits := match text.toList with
    | '+' :: rest => rest
    | digits => digits
  if digits.isEmpty || !digits.all Char.isDigit then none
  else
    let n := digits.foldl (fun n d => n * 10 + (d.toNat - '0'.toNat)) 0
    if n < UInt64.size then some (UInt64.ofNat n) else none

/-- A path, which must not be empty. -/
def path (text : String) : Except UsageError String :=
  if text.isEmpty then .error .invalidValue else .ok text

/-- A length limit. -/
def limit (text : String) : Except UsageError UInt64 :=
  (count? text).elim (.error .valueValidation) .ok

/-- A choice of colours. -/
def choice (text : String) : Except UsageError ColourChoice :=
  (ColourChoice.ofWord? text).elim (.error .invalidValue) .ok

namespace Reader

/-- Settles something that may be given once. -/
def once {α : Type} (before : Option α) (value : Except UsageError α) :
    Except UsageError (Option α) :=
  if before.isSome then .error .argumentConflict else value.map some

/-- Settles an option that is on or off, and may be given once. -/
def flag (before : Bool) : Except UsageError Bool :=
  if before then .error .argumentConflict else .ok true

/-- Settles an option or the script. Only the debug flags may be without a value, and are then
empty. -/
def put (r : Reader) (slot : Slot) (value : Option String) : Except UsageError Reader := do
  match slot, value with
  | .help, _ => throw .displayHelp
  | .version, _ => throw .displayVersion
  | .quiet, _ => return { r with quiet := ← flag r.quiet }
  | .fatalWarnings, _ => return { r with fatalWarnings := ← flag r.fatalWarnings }
  | .debug, value => return { r with debug := ← once r.debug (.ok (value.getD "")) }
  | _, none => throw .invalidValue
  | .script, some v => return { r with script := ← once r.script (path v) }
  | .debugFile, some v => return { r with debugFile := ← once r.debugFile (.ok v) }
  | .argLength, some v => return { r with argLength := ← once r.argLength (limit v) }
  | .config, some v => return { r with config := ← once r.config (path v) }
  | .colour, some v => return { r with colour := ← once r.colour (choice v) }

/-- Settles what is pending. -/
def settle (r : Reader) : Except UsageError Reader :=
  match r.pending with
  | some (slot, value) => { r with pending := none }.put slot value
  | none => .ok r

/-- Takes an option that is complete. -/
def complete (r : Reader) (slot : Slot) (value : Option String) : Except UsageError Reader := do
  (← r.settle).put slot value

/-- Takes an option whose value is to come with the next argument. -/
def expect (r : Reader) (slot : Slot) : Except UsageError Reader := do
  return { ← r.settle with pending := some (slot, none) }

/-- Takes an argument that is no option: the value of one, or the script. -/
def takeValue (r : Reader) (behindDashes : Bool) (arg : String) : Except UsageError Reader :=
  match r.pending with
  | some (slot, none) =>
    if behindDashes then takeScript r arg else .ok { r with pending := some (slot, some arg) }
  | _ => takeScript r arg
where
  /-- Takes the script; there is only one. -/
  takeScript (r : Reader) (arg : String) : Except UsageError Reader := do
    if r.hasScript then throw .unknownArgument
    return { ← r.settle with pending := some (.script, some arg), hasScript := true }

/-- Takes an option by its long name, with the value behind its equals sign if there is one. -/
def takeLong (r : Reader) (name : String) (value : Option String) : Except UsageError Reader :=
  match Slot.ofLong? name with
  | none => .error .unknownArgument
  | some slot =>
    if !slot.takesValue then
      if value.isSome then .error .tooManyValues else r.complete slot none
    else if value.isSome || slot.needsEquals then r.complete slot value
    else r.expect slot

/-- Takes options by their letters. What follows the letter of an option that takes a value is its
value, behind an equals sign or at once; but a value that needs the sign ends where there is
none. -/
def takeLetters (r : Reader) : List Char → Except UsageError Reader
  | [] => .ok r
  | c :: rest => do
    match Slot.ofLetter? c with
    | none => throw .unknownArgument
    | some slot =>
      if !slot.takesValue then
        takeLetters (← r.complete slot none) rest
      else match rest with
        | '=' :: value => r.complete slot (some (String.ofList value))
        | [] => if slot.needsEquals then r.complete slot none else r.expect slot
        | rest =>
          if slot.needsEquals then takeLetters (← r.complete slot none) rest
          else r.complete slot (some (String.ofList rest))

/-- Takes arguments from left to right. -/
def takeAll (r : Reader) (behindDashes : Bool) : List String → Except UsageError Reader
  | [] => .ok r
  | arg :: rest => do
    if behindDashes then takeAll (← r.takeValue true arg) true rest
    else match arg.toList with
      | ['-', '-'] => takeAll r true rest
      | '-' :: '-' :: option =>
        let name := String.ofList (option.takeWhile (· ≠ '='))
        let value := match option.dropWhile (· ≠ '=') with
          | _ :: value => some (String.ofList value)
          | [] => none
        takeAll (← r.takeLong name value) false rest
      | '-' :: c :: letters => takeAll (← r.takeLetters (c :: letters)) false rest
      | _ => takeAll (← r.takeValue false arg) false rest

end Reader

/-- Reads a command line, without the name of the program in front. -/
def ofArguments (args : List String) : Except UsageError CommandLine := do
  let r ← (← Reader.takeAll {} false args).settle
  match r.script with
  | none => throw .missingRequiredArgument
  | some script =>
    return { script, debug := r.debug, debugFile := r.debugFile, argLength := r.argLength
             quiet := r.quiet, fatalWarnings := r.fatalWarnings, config := r.config
             colour := r.colour.getD .auto }

/-- A configuration with what the command line says in its place. -/
def applyTo (c : CommandLine) (config : Config) : Config :=
  { config with
    debugFlags := c.debug.or config.debugFlags
    debugFile := c.debugFile.or config.debugFile
    maxDebugArgLength := c.argLength.getD config.maxDebugArgLength
    suppressWarnings := c.quiet || config.suppressWarnings
    fatalWarnings := c.fatalWarnings || config.fatalWarnings }

end CommandLine

end MacroTrace
