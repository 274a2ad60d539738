/-!
# Documents

What a configuration or a script is before anything is known about its fields: texts, numbers,
lists and tables, nested in one another. Both notations that files are written in are read into this
one type.
-/

namespace MacroTrace

/-- A value that a document can hold. -/
inductive Document
  /-- No value. -/
  | null
  /-- A truth value. -/
  | bool (value : Bool)
  /-- An integer. -/
  | int (value : Int)
  /-- A number that is not given as an integer, with the text by which messages show it. -/
  | float (shown : String)
  /-- A text. -/
  | text (value : String)
  /-- Values in order. -/
  | list (items : List Document)
  /-- Values under keys, in order; a key may occur more than once. -/
  | table (entries : List (Document × Document))
deriving Inhabited

end MacroTrace
