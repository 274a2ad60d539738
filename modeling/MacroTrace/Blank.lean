/-!
# Blanks

Which characters count as blank is up to the syntax of the input; the checks of arguments take the
classification as a parameter.
-/

namespace MacroTrace

/-- A classification of characters into blank ones and others. -/
abbrev Blanks := Char → Bool

namespace Blanks

/-- The ASCII blanks, vertical tab and form feed among them. -/
def standard : Blanks := fun c =>
  c = ' ' || c = '\t' || c = '\n' || c = '\r' || c = '\x0b' || c = '\x0c'

/-- Exactly the characters of a text. -/
def ofText (text : String) : Blanks := fun c => text.toList.contains c

end Blanks

end MacroTrace
