import MacroTrace.Document.Misfit
/-!
# Records

How a document is read as a record with named fields. A record type lists its `Field`s, each with a
way to put a value into a record, and reading starts from a record in which every field has its
default. A table gives its fields by name, in any order but each at most once, and none that are
unknown; a list gives them by position. Fields without a default have to be given.

The reading is the same for every notation; only the values of the fields are read as the notation
has it. So a field is a field of values of some type `σ`.
-/

namespace MacroTrace

/-- A field of a record of type `α` whose values are given as `σ`. -/
structure Field (σ α : Type) where
  /-- The name. -/
  name : String
  /-- Whether the field has to be given. -/
  required : Bool
  /-- Puts a value into a record. -/
  put : σ → α → Except Misfit α

namespace Record

variable {σ α : Type}

/-- The names of fields. -/
def names (fields : List (Field σ α)) : List String := fields.map (·.name)

/-- Reads the entries of a table into a record; `seen` are the fields given before. -/
def putEntries (fields : List (Field σ α)) (key : σ → Except Misfit (Field σ α)) :
    List (σ × σ) → List String → α → Except Misfit (List String × α)
  | [], seen, record => .ok (seen, record)
  | (k, value) :: rest, seen, record => do
    let field ← key k
    if seen.contains field.name then throw (.duplicateField field.name)
    let record ← field.put value record
    putEntries fields key rest (field.name :: seen) record

/-- Fails with the first field that has to be given and is not. -/
def requireAll (fields : List (Field σ α)) (seen : List String) : Except Misfit Unit :=
  match fields.find? fun field => field.required && !seen.contains field.name with
  | some field => .error (.missingField field.name)
  | none => .ok ()

/-- Reads a table as a record. -/
def ofEntries (fields : List (Field σ α)) (key : σ → Except Misfit (Field σ α))
    (entries : List (σ × σ)) (default : α) : Except Misfit α := do
  let (seen, record) ← putEntries fields key entries [] default
  requireAll fields seen
  return record

/-- The field of a name. -/
def field (fields : List (Field σ α)) (name : String) : Except Misfit (Field σ α) :=
  match fields.find? (·.name == name) with
  | some field => .ok field
  | none => .error (.unknownField name (names fields))

/-- What is said to be expected when a list is too short for a record called `title`. -/
def lengthExpected (title : String) (count : Nat) : String :=
  s!"{title} with {count} element" ++ if count = 1 then "" else "s"

/-- Reads the items of a list into a record, field by field; `position` is that of the next
field. Gives the items that are left over. -/
def putItems (title : String) (count : Nat) :
    List (Field σ α) → Nat → List σ → α → Except Misfit (List σ × α)
  | [], _, items, record => .ok (items, record)
  | field :: fields, position, [], record =>
    if field.required then .error (.wrongLength position (lengthExpected title count))
    else putItems title count fields (position + 1) [] record
  | field :: fields, position, item :: items, record => do
    let record ← field.put item record
    putItems title count fields (position + 1) items record

/-- What is said to be expected when a list holds more items than there are fields. -/
def sequenceExpected (count : Nat) : String :=
  s!"{count} element" ++ (if count = 1 then "" else "s") ++ " in sequence"

/-- Reads a list as a record called `title`. -/
def ofItems (title : String) (fields : List (Field σ α)) (items : List σ) (default : α) :
    Except Misfit α := do
  let (rest, record) ← putItems title fields.length fields 0 items default
  if rest.isEmpty then return record
  else throw (.wrongLength items.length (sequenceExpected fields.length))

end Record

/-! ## Values of fields in a document -/

namespace Document

/-- A value of the wrong type. -/
def mismatch {α : Type} (d : Document) (expected : String) : Except Misfit α :=
  .error (.wrongType d.described expected)

/-- A text. -/
def asText : Document → Except Misfit String
  | .text value => .ok value
  | d => d.mismatch "a string"

/-- A truth value. -/
def asBool : Document → Except Misfit Bool
  | .bool value => .ok value
  | d => d.mismatch "a boolean"

/-- An integer between two bounds, which are known under a name. -/
def asInt (lowest highest : Int) (name : String) : Document → Except Misfit Int
  | .int value =>
    if lowest ≤ value && value ≤ highest then .ok value
    else .error (.wrongValue (Document.int value).described name)
  | d => d.mismatch name

/-- A number of 32 bits. -/
def asNumber (d : Document) : Except Misfit UInt32 :=
  return UInt32.ofNat (← d.asInt 0 0xFFFFFFFF "u32").toNat

/-- A number of 32 bits with a sign. -/
def asSigned (d : Document) : Except Misfit Int32 :=
  return Int32.ofInt (← d.asInt (-0x80000000) 0x7FFFFFFF "i32")

/-- A count. -/
def asCount (d : Document) : Except Misfit UInt64 :=
  return UInt64.ofNat (← d.asInt 0 0xFFFFFFFFFFFFFFFF "usize").toNat

/-- A value that may be missing. -/
def asOption {α : Type} (read : Document → Except Misfit α) : Document → Except Misfit (Option α)
  | .null => .ok none
  | d => return some (← read d)

/-- The values of a list. -/
def asList {α : Type} (read : Document → Except Misfit α) : Document → Except Misfit (List α)
  | .list items => items.mapM read
  | d => d.mismatch "a sequence"

/-- The field that a key of a table names: by its name, or by its position. -/
def asField {α : Type} (fields : List (Field Document α)) :
    Document → Except Misfit (Field Document α)
  | .text name => Record.field fields name
  | .int position =>
    match if 0 ≤ position then fields[position.toNat]? else none with
    | some field => .ok field
    | none => .error (.wrongValue (Document.int position).described
        s!"field index 0 <= i < {fields.length}")
  | d => d.mismatch "field identifier"

/-- A record called `title`, given as a table or as a list. -/
def asRecord {α : Type} (title : String) (fields : List (Field Document α)) (default : α) :
    Document → Except Misfit α
  | .table entries => Record.ofEntries fields (asField fields) entries default
  | .list items => Record.ofItems title fields items default
  | d => d.mismatch title

end Document

end MacroTrace
