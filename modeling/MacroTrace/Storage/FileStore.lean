import MacroTrace.Storage.Path
import MacroTrace.Storage.SystemError
/-!
# The file store

A value that stands for the files the program can reach: directories, regular files, symbolic
links, and a device that is always full. Every node has a number, and hard links are entries of one
number; the number together with the number of the device is the node's `Identity`, by which two
paths can be told to lead to one file. The system may fail to tell it (`FileStore.identity?`).

`walk` follows a path name by name. Reading a file and opening it for appending are built on it;
opening creates the file if only its last name is missing, and never touches what is in the file.
-/

namespace MacroTrace

/-- What two open files or streams have in common if and only if they are one. -/
structure Identity where
  /-- The number of the device. -/
  device : UInt64
  /-- The number of the node on the device. -/
  node : UInt64
deriving DecidableEq, Repr

/-- Something that a directory can hold. -/
inductive Node
  /-- A directory, with the number of the directory above it and the names it holds. -/
  | directory (parent : Nat) (entries : List (String × Nat))
  /-- A file with its contents. -/
  | regular (contents : Bytes)
  /-- A link that is followed to the path it names. -/
  | link (target : String)
  /-- A device that takes no byte. -/
  | full
deriving Repr

/-- All nodes, by number. -/
structure FileStore where
  /-- The nodes in the order of their numbers. -/
  nodes : Array Node
  /-- The root directory. -/
  root : Nat
  /-- The directory where relative paths start. -/
  home : Nat
  /-- The number of the device. -/
  device : UInt64
  /-- The nodes that the system tells nothing about when it is asked what they are. -/
  unidentified : List Nat := []
deriving Repr

namespace FileStore

/-- How many symbolic links a path may lead through. -/
def maxLinks : Nat := 40

/-- The longest name in bytes. -/
def maxNameBytes : Nat := 255

/-- The longest path in bytes. -/
def maxPathBytes : Nat := 4095

/-- A store with an empty working directory, and the full device at `/dev/full`. -/
def initial (device : UInt64) : FileStore where
  nodes := #[.directory 0 [("dev", 1), ("tmp", 3)], .directory 0 [("full", 2)], .full,
    .directory 0 [("work", 4)], .directory 3 []]
  root := 0
  home := 4
  device := device

/-- The identity of a node, if the system tells it. -/
def identity? (s : FileStore) (node : Nat) : Option Identity :=
  if s.unidentified.contains node then none else some ⟨s.device, node.toUInt64⟩

/-- Whether a number is that of a directory. -/
def isDirectory (s : FileStore) (node : Nat) : Bool :=
  match s.nodes[node]? with
  | some (.directory _ _) => true
  | _ => false

/-- Whether a number is that of a full device. -/
def isFull (s : FileStore) (node : Nat) : Bool :=
  match s.nodes[node]? with
  | some .full => true
  | _ => false

/-- Where a path leads. -/
inductive Place
  /-- To this node. -/
  | node (number : Nat)
  /-- To a name that this directory does not hold. -/
  | vacant (directory : Nat) (name : String)
deriving DecidableEq, Repr

/-- Why no file can be made under a path that ends in a slash; `above` is where the path leads
without its last name. -/
def unmakeable (s : FileStore) (above : Except SystemError Place) : Except SystemError Place :=
  match above with
  | .error cause => .error cause
  | .ok (.vacant _ _) => .error .noEntry
  | .ok (.node number) => .error (if s.isDirectory number then .isDirectory else .notDirectory)

/-- Follows names from the node `here`, through at most `links` symbolic links. If a file is to be
made where the names lead, then the last of them must not be a link to a path that ends in a
slash. -/
def walk (s : FileStore) (makes : Bool) (links here : Nat) (names : List String) :
    Except SystemError Place :=
  match names with
  | [] => .ok (.node here)
  | name :: rest =>
    match s.nodes[here]? with
    | some (.directory parent entries) =>
      if name = "." then s.walk makes links here rest
      else if name = ".." then s.walk makes links parent rest
      else if maxNameBytes < name.utf8ByteSize then .error .nameTooLong
      else match entries.find? (·.1 == name) with
        | none => if rest.isEmpty then .ok (.vacant here name) else .error .noEntry
        | some (_, node) =>
          match s.nodes[node]? with
          | some (.link target) =>
            match links with
            | 0 => .error .tooManyLinks
            | links + 1 =>
              let r := Path.route target
              let here := if r.absolute then s.root else here
              if makes && rest.isEmpty && r.closed then
                s.unmakeable (s.walk false links here r.names.dropLast)
              else s.walk makes links here (r.names ++ (if r.closed then ["."] else []) ++ rest)
          | _ => s.walk makes links node rest
    | _ => .error .notDirectory
termination_by (links, names.length)

/-- The way of a path, unless the system would not even start on it. -/
def routeOf (path : String) : Except SystemError Route :=
  if path.toList.contains '\x00' then .error .nulInName
  else if path.isEmpty then .error .noEntry
  else if maxPathBytes < path.utf8ByteSize then .error .nameTooLong
  else .ok (Path.route path)

/-- Where a way starts. -/
def start (s : FileStore) (r : Route) : Nat := if r.absolute then s.root else s.home

/-- The node that a path leads to, links followed. A path that ends in a slash leads to a directory
or nowhere. -/
def find (s : FileStore) (path : String) : Except SystemError Nat := do
  let r ← routeOf path
  match ← s.walk false maxLinks (s.start r) (r.names ++ if r.closed then ["."] else []) with
  | .node number => .ok number
  | .vacant _ _ => .error .noEntry

/-- The identity of what a path leads to, if it leads anywhere and the system tells it. -/
def identityOf? (s : FileStore) (path : String) : Option Identity :=
  match s.find path with
  | .ok node => s.identity? node
  | .error _ => none

/-- Adds a node under a name that the directory does not hold yet. -/
def create (s : FileStore) (directory : Nat) (name : String) (node : Node) : FileStore :=
  { s with
    nodes := (s.nodes.modify directory fun
      | .directory parent entries => .directory parent (entries ++ [(name, s.nodes.size)])
      | other => other).push node }

/-- The node to append to when a path is opened, with the store after the opening: a file that is
not there yet is created, empty. -/
def openAppend (s : FileStore) (path : String) : Except SystemError (Nat × FileStore) := do
  let r ← routeOf path
  let place ←
    if r.closed then s.unmakeable (s.walk false maxLinks (s.start r) r.names.dropLast)
    else s.walk true maxLinks (s.start r) r.names
  match place with
  | .vacant directory name => .ok (s.nodes.size, s.create directory name (.regular []))
  | .node number => if s.isDirectory number then .error .isDirectory else .ok (number, s)

/-- Appends bytes to an open file. -/
def append (s : FileStore) (node : Nat) (bytes : Bytes) : Except SystemError FileStore :=
  match s.nodes[node]? with
  | some (.regular contents) =>
    .ok { s with nodes := s.nodes.setIfInBounds node (.regular (contents ++ bytes)) }
  | some .full => if bytes.isEmpty then .ok s else .error .noSpace
  | _ => .error .isDirectory

/-- The contents of a file. The full device has none. -/
def contents (s : FileStore) (node : Nat) : Except SystemError Bytes :=
  match s.nodes[node]? with
  | some (.regular contents) => .ok contents
  | some .full => .ok []
  | _ => .error .isDirectory

/-- The contents of the file that a path leads to. -/
def readBytes (s : FileStore) (path : String) : Except SystemError Bytes := do
  s.contents (← s.find path)

/-- The contents of the file that a path leads to, as text. -/
def readText (s : FileStore) (path : String) : Except SystemError String := do
  match Utf8.decode? (← s.readBytes path) with
  | some text => .ok text
  | none => .error .notText

/-! ## Filling a store -/

/-- Makes a file have exactly the given contents; it is created if need be. -/
def writeFile (s : FileStore) (path : String) (bytes : Bytes) : Except SystemError FileStore := do
  let (node, s) ← s.openAppend path
  match s.nodes[node]? with
  | some (.regular _) => .ok { s with nodes := s.nodes.setIfInBounds node (.regular bytes) }
  | _ => .error .noSpace

/-- Makes the directories on the way of a path, as far as they are missing. -/
def makeDirectory (s : FileStore) (path : String) : Except SystemError FileStore := do
  let r ← routeOf path
  (List.range r.names.length).foldlM (fun s above => do
    match ← s.walk false maxLinks (s.start r) (r.names.take (above + 1)) with
    | .node number => if s.isDirectory number then .ok s else .error .notDirectory
    | .vacant directory name => .ok (s.create directory name (.directory directory []))) s

/-- Adds a node under a path that leads nowhere yet. -/
def addNode (s : FileStore) (path : String) (node : Node) : Except SystemError FileStore := do
  let r ← routeOf path
  match ← s.walk false maxLinks (s.start r) r.names with
  | .node _ => .error (.os 17)
  | .vacant directory name => .ok (s.create directory name node)

/-- Makes a symbolic link. -/
def makeLink (s : FileStore) (path target : String) : Except SystemError FileStore :=
  s.addNode path (.link target)

/-- Makes a second entry for the file that `existing` leads to. -/
def makeHardLink (s : FileStore) (path existing : String) : Except SystemError FileStore := do
  let node ← s.find existing
  if s.isDirectory node then .error (.os 1)
  else
    let r ← routeOf path
    match ← s.walk false maxLinks (s.start r) r.names with
    | .node _ => .error (.os 17)
    | .vacant directory name =>
      .ok { s with nodes := s.nodes.modify directory fun
              | .directory parent entries => .directory parent (entries ++ [(name, node)])
              | other => other }

/-! ## Listing a store -/

/-- The regular files below a directory, each with its path from there. Links are neither listed
nor followed. `depth` bounds how far down the listing goes. -/
def filesBelow (s : FileStore) (depth : Nat) (above : String) (directory : Nat) :
    List (String × Bytes) :=
  match depth with
  | 0 => []
  | depth + 1 =>
    match s.nodes[directory]? with
    | some (.directory _ entries) =>
      entries.flatMap fun (name, node) =>
        match s.nodes[node]? with
        | some (.regular contents) => [(above ++ name, contents)]
        | some (.directory _ _) => s.filesBelow depth (above ++ name ++ "/") node
        | _ => []
    | _ => []

/-- The regular files below the working directory. -/
def files (s : FileStore) : List (String × Bytes) :=
  s.filesBelow s.nodes.size "" s.home

end FileStore

end MacroTrace
