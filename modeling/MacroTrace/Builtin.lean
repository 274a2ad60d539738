/-!
# Builtins

An argument of a traced call may be a builtin, stored as a number. A `Registry` turns the number
back into the name. It also hands out fresh numbers: one more than the largest number it has ever
seen, so that registering a name never replaces another one. When there is no larger number,
registering fails.
-/

namespace MacroTrace

/-- The number of a builtin. -/
structure BuiltinId where
  /-- The number. -/
  number : UInt32
deriving DecidableEq, Repr

/-- How a builtin's number is shown. -/
def BuiltinId.text (id : BuiltinId) : String := s!"#{id.number.toNat}"

/-- A table of builtin names. -/
structure Registry where
  /-- The names by number, each number once. -/
  entries : List (BuiltinId × String) := []
  /-- The largest number in use so far; zero at the start. -/
  last : UInt32 := 0
deriving DecidableEq, Repr

namespace Registry

/-- The table without entries. -/
def empty : Registry := {}

/-- The name bound to a number. -/
def name? (r : Registry) (id : BuiltinId) : Option String :=
  (r.entries.find? (·.1 == id)).map (·.2)

/-- A number bound to a name. -/
def id? (r : Registry) (name : String) : Option BuiltinId :=
  (r.entries.find? (·.2 == name)).map (·.1)

/-- The number of entries. -/
def size (r : Registry) : Nat := r.entries.length

/-- Binds a number to a name; an entry of the same number is replaced. -/
def bind (entries : List (BuiltinId × String)) (id : BuiltinId) (name : String) :
    List (BuiltinId × String) :=
  match entries with
  | [] => [(id, name)]
  | (i, n) :: rest => if i = id then (id, name) :: rest else (i, n) :: bind rest id name

/-- Binds a chosen number to a name. -/
def insert (r : Registry) (id : BuiltinId) (name : String) : Registry :=
  { entries := bind r.entries id name, last := max r.last id.number }

/-- Binds a fresh number to a name; `none` if every number up to the largest one is taken. -/
def register? (r : Registry) (name : String) : Option (BuiltinId × Registry) :=
  if r.last.toNat + 1 < UInt32.size then
    let id : BuiltinId := ⟨r.last + 1⟩
    some (id, { entries := bind r.entries id name, last := r.last + 1 })
  else
    none

/-- The names of the builtins that every macro processor of this family has, in the order of
their numbers. -/
def standardNames : List String :=
  ["define", "undefine", "defn", "pushdef", "popdef", "indir", "builtin", "ifdef", "ifelse",
   "shift", "changequote", "changecom", "include", "sinclude", "divert", "undivert", "divnum",
   "dnl", "len", "index", "regexp", "substr", "translit", "patsubst", "format", "incr", "decr",
   "eval", "syscmd", "esyscmd", "sysval", "maketemp", "errprint", "m4exit", "m4wrap", "traceon",
   "traceoff", "debugmode", "debugfile", "dumpdef"]

/-- Registers names one after the other, as long as there are numbers for them. -/
def registerAll (r : Registry) : List String → Registry
  | [] => r
  | name :: rest =>
    match r.register? name with
    | some (_, r) => r.registerAll rest
    | none => r

/-- The table of the standard builtins, numbered from one. -/
def standard : Registry := empty.registerAll standardNames

end Registry

end MacroTrace
