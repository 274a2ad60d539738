/-!
# Input locations

Where in the input the program is. A location with a line number but without a file is a mistake of
the caller; asking for the position to report then fails.
-/

namespace MacroTrace

/-- The current position in the input. -/
structure Location where
  /-- The input file. -/
  file : Option String := none
  /-- The line; zero when there is none. -/
  line : UInt32 := 0
deriving DecidableEq, Repr, Inhabited

namespace Location

/-- Whether the location has a line without a file. -/
def isStray (l : Location) : Bool := l.file.isNone && l.line != 0

/-- The position that a report shows, if it shows any; fails with the line if that line is stray. -/
def reportable (l : Location) : Except UInt32 (Option (String × UInt32)) :=
  match l.file with
  | some file => .ok (if l.line = 0 then none else some (file, l.line))
  | none => if l.line = 0 then .ok none else .error l.line

end Location

end MacroTrace
