import MacroTrace.Yaml.Token
/-!
# YAML nodes

The tree that a list of tokens describes. An alias refers to an anchor by number, and the numbers
lead to the nodes that carry the anchors. `Stream.read?` takes a text with at most one document.
-/

namespace MacroTrace

namespace Yaml

/-- A node of a YAML document. -/
inductive Node
  /-- A scalar. -/
  | scalar (tag : Option Bytes) (style : ScalarStyle) (text : String)
  /-- Nodes in order. -/
  | sequence (tag : Option Bytes) (items : List Node)
  /-- Nodes under keys. -/
  | mapping (tag : Option Bytes) (entries : List (Node × Node))
  /-- The node that carries the anchor of this number. -/
  | alias (number : Nat)
deriving Inhabited

/-- A scalar that is not written at all. -/
def Node.empty : Node := .scalar none .plain ""

/-- A node that carries an anchor. -/
structure Anchored where
  /-- The number of the anchor. -/
  number : Nat
  /-- How many anchored nodes started before this one. -/
  order : Nat
  /-- The node. -/
  node : Node

/-- The state of building a tree. -/
structure Builder where
  /-- The tokens still to be used. -/
  tokens : List Token
  /-- What tag handles stand for. -/
  handles : List (String × Bytes) := []
  /-- The numbers of the anchors met so far, by name. -/
  numbers : List (String × Nat) := []
  /-- How many nodes with an anchor have started. -/
  started : Nat := 0
  /-- The nodes with an anchor that are complete. -/
  anchored : List Anchored := []
  /-- How many starts and ends of nodes there have been; a scalar and an alias count once. -/
  events : Nat := 0

/-- A way to build something from tokens, which may fail. -/
abbrev Build (α : Type) := StateT Builder Option α

namespace Build

/-- The next token. -/
def peek : Build Token := do return (← get).tokens.head?.getD .streamEnd

/-- Uses up the next token. -/
def drop : Build Unit := modify fun b => { b with tokens := b.tokens.tail }

/-- Counts starts and ends of nodes. -/
def count (n : Nat) : Build Unit := modify fun b => { b with events := b.events + n }

/-- Meets an anchor at the start of a node: gives it a number, which is how many names have been met
so far, and the position of the node among the nodes with an anchor. A name that was met before
leads to the new number from here on. -/
def meetAnchor (name : String) : Build (Nat × Nat) := do
  let b ← get
  let number := b.numbers.length
  let numbers :=
    if b.numbers.any (·.1 == name) then
      b.numbers.map fun (n, k) => if n == name then (n, number) else (n, k)
    else b.numbers ++ [(name, number)]
  set { b with numbers, started := b.started + 1 }
  return (number, b.started)

/-- Keeps a node under the anchor that was met where it started. -/
def keepAnchored (anchor : Option (Nat × Nat)) (node : Node) : Build Node := do
  match anchor with
  | some (number, order) =>
    modify fun b => { b with anchored := { number, order, node } :: b.anchored }
  | none => pure ()
  return node

/-- The tag that a handle and a suffix stand for. -/
def expandTag (handle : String) (suffix : Bytes) : Build Bytes := do
  if handle.isEmpty then return suffix
  else match (← get).handles.find? (·.1 == handle) with
    | some (_, expansion) => return expansion ++ suffix
    | none => failure

/-- Reads an anchor, if there is one. -/
def anchorName? : Build (Option String) := do
  match ← peek with
  | .anchor name => drop; return some name
  | _ => return none

/-- Reads a tag, if there is one. -/
def tag? : Build (Option Bytes) := do
  match ← peek with
  | .tag handle suffix => drop; return some (← expandTag handle suffix)
  | _ => return none

/-- Reads an anchor and a tag, in either order, as far as they are there. -/
def properties : Build (Option String × Option Bytes) := do
  match ← anchorName? with
  | some name => return (some name, ← tag?)
  | none =>
    let tag ← tag?
    return (← anchorName?, tag)

/-- A scalar that is not written at all. -/
def emptyNode : Build Node := do
  count 1
  return .empty

/-- Whether a token ends an entry of a block mapping that has not started yet. -/
def endsMappingPart : Token → Bool
  | .key | .value | .blockEnd => true
  | _ => false

/-- Whether a token ends the key of a pair within brackets. -/
def endsPairKey : Token → Bool
  | .value | .comma | .closeBracket => true
  | _ => false

/-- Whether a token ends the key of an entry within braces. -/
def endsEntryKey : Token → Bool
  | .value | .comma | .closeBrace => true
  | _ => false

mutual

/-- Builds a node. `block` tells whether block collections may start here, and `dashes` whether a
dash may start a sequence that is not indented any further. -/
def node (block dashes : Bool) : Nat → Build Node
  | 0 => failure
  | fuel + 1 => do
    if let .alias name ← peek then
      drop
      count 1
      match (← get).numbers.find? (·.1 == name) with
      | some (_, number) => return .alias number
      | none => failure
    else
      let (name, tag) ← properties
      let anchor ← name.mapM meetAnchor
      let t ← peek
      if dashes && t = .entry then
        keepAnchored anchor (.sequence tag (← dashEntries fuel))
      else match t with
        | .scalar style text =>
          drop
          count 1
          keepAnchored anchor (.scalar tag style text)
        | .openBracket => drop; keepAnchored anchor (.sequence tag (← bracketItems true fuel))
        | .openBrace => drop; keepAnchored anchor (.mapping tag (← braceEntries true fuel))
        | .sequenceStart =>
          if block then drop; keepAnchored anchor (.sequence tag (← blockItems fuel)) else failure
        | .mappingStart =>
          if block then drop; keepAnchored anchor (.mapping tag (← blockEntries fuel)) else failure
        | _ =>
          if name.isSome || tag.isSome then
            count 1
            keepAnchored anchor (.scalar tag .plain "")
          else failure

/-- Builds the items of a block sequence. -/
def blockItems : Nat → Build (List Node)
  | 0 => failure
  | fuel + 1 => do
    match ← peek with
    | .entry =>
      drop
      let t ← peek
      let item ← if t = .entry || t = .blockEnd then emptyNode else node true false fuel
      return item :: (← blockItems fuel)
    | .blockEnd => drop; count 2; return []
    | _ => failure

/-- Builds the items of a sequence that is not indented any further than what it belongs to. -/
def dashEntries : Nat → Build (List Node)
  | 0 => failure
  | fuel + 1 => do
    match ← peek with
    | .entry =>
      drop
      let t ← peek
      let item ← if t = .entry || endsMappingPart t then emptyNode else node true false fuel
      return item :: (← dashEntries fuel)
    | _ => count 2; return []

/-- Builds the entries of a block mapping. -/
def blockEntries : Nat → Build (List (Node × Node))
  | 0 => failure
  | fuel + 1 => do
    match ← peek with
    | .key =>
      drop
      let key ← if endsMappingPart (← peek) then emptyNode else node true true fuel
      let value ← blockValue fuel
      return (key, value) :: (← blockEntries fuel)
    | .blockEnd => drop; count 2; return []
    | _ => failure

/-- Builds the value of an entry of a block mapping. -/
def blockValue : Nat → Build Node
  | 0 => failure
  | fuel + 1 => do
    match ← peek with
    | .value =>
      drop
      if endsMappingPart (← peek) then emptyNode else node true true fuel
    | _ => emptyNode

/-- Builds the items within brackets. -/
def bracketItems (first : Bool) : Nat → Build (List Node)
  | 0 => failure
  | fuel + 1 => do
    let done : Build (List Node) := do drop; count 2; return []
    if (← peek) = .closeBracket then done
    else
      if !first then
        if (← peek) = .comma then drop else failure
      match ← peek with
      | .closeBracket => done
      | .key =>
        drop
        let pair ← bracketPair fuel
        count 2
        return .mapping none [pair] :: (← bracketItems false fuel)
      | _ =>
        let item ← node false false fuel
        return item :: (← bracketItems false fuel)

/-- Builds a pair within brackets. A key that is not written takes the token behind it with it. -/
def bracketPair : Nat → Build (Node × Node)
  | 0 => failure
  | fuel + 1 => do
    let key ← if endsPairKey (← peek) then do drop; emptyNode else node false false fuel
    match ← peek with
    | .value =>
      drop
      let t ← peek
      let value ← if t = .comma || t = .closeBracket then emptyNode else node false false fuel
      return (key, value)
    | _ => return (key, ← emptyNode)

/-- Builds the entries within braces. -/
def braceEntries (first : Bool) : Nat → Build (List (Node × Node))
  | 0 => failure
  | fuel + 1 => do
    let done : Build (List (Node × Node)) := do drop; count 2; return []
    if (← peek) = .closeBrace then done
    else
      if !first then
        if (← peek) = .comma then drop else failure
      match ← peek with
      | .closeBrace => done
      | .key =>
        drop
        let key ← if endsEntryKey (← peek) then emptyNode else node false false fuel
        let value ← braceValue fuel
        return (key, value) :: (← braceEntries false fuel)
      | _ =>
        let key ← node false false fuel
        let value ← emptyNode
        return (key, value) :: (← braceEntries false fuel)

/-- Builds the value of an entry within braces. -/
def braceValue : Nat → Build Node
  | 0 => failure
  | fuel + 1 => do
    match ← peek with
    | .value =>
      drop
      let t ← peek
      if t = .comma || t = .closeBrace then emptyNode else node false false fuel
    | _ => emptyNode

end

/-- What the two handles stand for that need no directive. -/
def defaultHandles : List (String × Bytes) :=
  [("!", Utf8.encode "!"), ("!!", Utf8.encode "tag:yaml.org,2002:")]

/-- Reads the directives in front of a document. There may be one version, which has to be 1.1 or
1.2, and one expansion for each handle. -/
def directives (versioned : Bool) : Nat → Build Unit
  | 0 => failure
  | fuel + 1 => do
    match ← peek with
    | .version major minor =>
      let number (digits : List Char) := digits.foldl (fun n d => n * 10 + (d.toNat - 48)) 0
      if versioned || number major ≠ 1 || (number minor ≠ 1 && number minor ≠ 2) then failure
      drop
      directives true fuel
    | .tagHandle handle expansion =>
      if (← get).handles.any (·.1 == handle) then failure
      modify fun b => { b with handles := b.handles ++ [(handle, expansion)] }
      drop
      directives versioned fuel
    | _ => pure ()

/-- Whether a token belongs to the boundary of a document. -/
def isBoundary : Token → Bool
  | .version _ _ | .tagHandle _ _ | .documentStart | .documentEnd | .streamEnd => true
  | _ => false

/-- Goes past marks of a document's end. -/
def skipEnds : Nat → Build Unit
  | 0 => pure ()
  | fuel + 1 => do
    if (← peek) = .documentEnd then
      drop
      skipEnds fuel

/-- Builds the root of the only document; there is none if there are no tokens. -/
def root (fuel : Nat) : Build (Option Node) := do
  let t ← peek
  if t = .streamEnd then return none
  else
    let node ←
      if t = .documentStart || t matches .version _ _ || t matches .tagHandle _ _ then do
        directives false fuel
        modify fun b => { b with
          handles := b.handles ++ defaultHandles.filter fun (h, _) => !b.handles.any (·.1 == h) }
        if (← peek) = .documentStart then drop else failure
        if isBoundary (← peek) then emptyNode else node true false fuel
      else do
        modify fun b => { b with handles := defaultHandles }
        node true false fuel
    skipEnds fuel
    if (← peek) = .streamEnd then return some node else failure

end Build

/-- A text that has been read. -/
structure Stream where
  /-- The root of the document, if there is one. -/
  root : Option Node
  /-- The nodes that carry anchors. -/
  anchored : List Anchored
  /-- How many starts and ends of nodes there are. -/
  events : Nat

namespace Stream

/-- Reads a text that holds at most one document. -/
def read? (text : String) : Option Stream := do
  let tokens ← tokens? text
  let (root, b) ← (Build.root (2 * tokens.length + 2)).run { tokens }
  return { root, anchored := b.anchored, events := b.events }

/-- The node that carries an anchor; the last one that started, if there are several. -/
def anchoredNode? (s : Stream) (number : Nat) : Option Node :=
  let found := s.anchored.filter (·.number == number)
  let latest := found.foldl (fun n a => max n a.order) 0
  (found.find? (·.order == latest)).map (·.node)

end Stream

end Yaml

end MacroTrace
