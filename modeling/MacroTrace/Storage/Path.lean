import MacroTrace.Text.Utf8
/-!
# Paths

A path is a text. `Route` is what a path means to the file system: where it starts, the names on
the way, and whether it ends in a slash. `extension?` is the part of the last name that tells the
format of a file.
-/

namespace MacroTrace

/-- The way that a path describes. -/
structure Route where
  /-- Whether it starts at the root, and not at the working directory. -/
  absolute : Bool
  /-- The names on the way; there is no empty one among them. -/
  names : List String
  /-- Whether a slash follows the last name. -/
  closed : Bool
deriving DecidableEq, Repr

namespace Path

/-- The parts of a path between its slashes, some of which may be empty. -/
def split (path : String) : List String :=
  (path.toList.splitOn '/').map String.ofList

/-- The way that a path describes. -/
def route (path : String) : Route where
  absolute := path.toList.head? == some '/'
  names := (split path).filter (!·.isEmpty)
  closed := path.toList.getLast? == some '/'

/-- The last name of a path, unless the path is a root or ends in the parent directory. Slashes and
single dots at the end do not count, but a path that is one dot has no name. -/
def fileName? (path : String) : Option (List Char) :=
  let r := route path
  let names := match r.names with
    | [] => []
    | first :: rest =>
      if first == "." && !r.absolute then first :: rest.filter (· != ".")
      else (first :: rest).filter (· != ".")
  match names.getLast? with
  | none => none
  | some name => if name == ".." || name == "." then none else some name.toList

/-- The part of the last name behind its last dot. A dot at the very start of the name starts no
extension, and a name without another dot has none. -/
def extension? (path : String) : Option String :=
  match fileName? path with
  | none => none
  | some name =>
    let tail := name.reverse.takeWhile (· != '.')
    if name.length ≤ tail.length + 1 then none
    else some (String.ofList tail.reverse)

end Path

end MacroTrace
