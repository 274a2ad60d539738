/-!
# Quotes

The pair of texts that the input wraps around a quoted string. Trace lines and argument dumps wrap
text in the same pair.
-/

namespace MacroTrace

/-- A left and a right quote; each may be any text, also an empty one. -/
structure Quotes where
  /-- What opens a quoted text. -/
  left : String
  /-- What closes a quoted text. -/
  right : String
deriving DecidableEq, Repr

namespace Quotes

/-- A grave accent on the left and an apostrophe on the right. -/
def standard : Quotes := ⟨"`", "'"⟩

instance : Inhabited Quotes := ⟨standard⟩

/-- The text between the quotes. -/
def wrap (q : Quotes) (text : String) : String := q.left ++ text ++ q.right

/-- The text, between the quotes if `quoted` is set. -/
def wrapIf (q : Quotes) (quoted : Bool) (text : String) : String :=
  if quoted then q.wrap text else text

end Quotes

end MacroTrace
