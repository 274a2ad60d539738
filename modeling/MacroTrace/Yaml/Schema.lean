import MacroTrace.Config
import MacroTrace.Numeric.Binary64
import MacroTrace.Script
import MacroTrace.Yaml.Node
/-!
# What YAML scalars stand for

Where a configuration or a script says of which type a value is, a scalar is read as that type:
any scalar will do for a text, and a plain one for a number or a truth value. Where nothing is said
about the type, a plain scalar stands for a truth value, a number or nothing if it looks like one,
and for its text otherwise. Steps are first read without regard to their types, and so a plain
number is no text there.
-/

namespace MacroTrace

namespace Yaml

/-! ## Scalars without a type -/

/-- Whether a plain scalar stands for nothing. -/
def isNull (text : String) : Bool :=
  text = "null" || text = "Null" || text = "NULL" || text = "~"

/-- The truth value that a plain scalar stands for. -/
def bool? (text : String) : Option Bool :=
  if text = "true" || text = "True" || text = "TRUE" then some true
  else if text = "false" || text = "False" || text = "FALSE" then some false
  else none

/-- The value of a digit in a base of at most sixteen. -/
def digit? (base : Nat) (c : Char) : Option Nat := do
  let n ← hexValue? c
  if n < base then some n else none

/-- The number that digits in a base stand for; there has to be a digit. -/
def natural? (base : Nat) (digits : List Char) : Option Nat :=
  if digits.isEmpty then none
  else digits.foldlM (fun n c => return n * base + (← digit? base c)) 0

/-- The base that the start of a number stands for, and the digits behind it. -/
def based? : List Char → Option (Nat × List Char)
  | '0' :: 'x' :: rest => some (16, rest)
  | '0' :: 'o' :: rest => some (8, rest)
  | '0' :: 'b' :: rest => some (2, rest)
  | _ => none

/-- Whether a text starts with a sign. -/
def isSigned (text : List Char) : Bool :=
  match text with
  | '+' :: _ | '-' :: _ => true
  | _ => false

/-- A text without the plus sign at its front. -/
def withoutPlus (text : List Char) : List Char :=
  match text with
  | '+' :: rest => rest
  | _ => text

/-- Whether a text is digits with a zero in front, apart from a sign. Such a text is no number. -/
def hasLeadingZero (text : List Char) : Bool :=
  let digits := if isSigned text then text.tail else text
  match digits with
  | '0' :: c :: rest => (c :: rest).all Char.isDigit
  | _ => false

/-- The integer without a minus sign, below `bound`, that a plain scalar stands for: in decimal, or
with a base in front, and perhaps with a plus sign. -/
def unsigned? (bound : Nat) (text : List Char) : Option Nat := do
  let digits := withoutPlus text
  let small (n : Nat) : Option Nat := if n < bound then some n else none
  match (based? digits).map fun (base, rest) => (natural? base rest).bind small with
  | some (some n) => return n
  | _ =>
    if isSigned digits || hasLeadingZero text then none
    else small (← natural? 10 digits)

/-- The integer with a minus sign, down to `-bound`, that a plain scalar stands for. -/
def negative? (bound : Nat) (text : List Char) : Option Int :=
  match text with
  | '-' :: digits =>
    let small (n : Nat) : Option Int := if n ≤ bound then some (-(n : Int)) else none
    match (based? digits).map fun (base, rest) => (natural? base rest).bind small with
    | some (some n) => some n
    | _ => if hasLeadingZero text then none else (natural? 10 digits).bind small
  | _ => none

/-- Whether `digits` times a power of ten is not too large for a floating point number. -/
def isFinite (digits : List Char) (exponent : Int) : Bool :=
  let digits := digits.dropWhile (· == '0')
  let size : Int := digits.length + exponent
  if digits.isEmpty || size < -400 then true
  else if 400 < size then false
  else
    let n := digits.foldl (fun n d => n * 10 + (d.toNat - '0'.toNat)) 0
    if 0 ≤ exponent then (Binary64.ofRatio? (n * Nat.pow 10 exponent.toNat) 1).isSome
    else (Binary64.ofRatio? n (Nat.pow 10 (-exponent).toNat)).isSome

/-- Whether a text is a decimal number with at least one digit, perhaps with a point and with an
exponent, that is not too large. -/
def isDecimal (text : List Char) : Bool :=
  let text := match text with
    | '-' :: rest => rest
    | _ => text
  let whole := text.takeWhile Char.isDigit
  let rest := text.dropWhile Char.isDigit
  let (fraction, rest) := match rest with
    | '.' :: rest => (rest.takeWhile Char.isDigit, rest.dropWhile Char.isDigit)
    | _ => ([], rest)
  if whole.isEmpty && fraction.isEmpty then false
  else match rest with
    | [] => isFinite (whole ++ fraction) (-fraction.length)
    | e :: rest =>
      if e ≠ 'e' && e ≠ 'E' then false
      else
        let minus := rest.head? == some '-'
        let digits := if isSigned rest then rest.tail else rest
        if digits.isEmpty || !digits.all Char.isDigit then false
        else
          let n : Int := digits.foldl (fun n d => n * 10 + (d.toNat - '0'.toNat)) 0
          isFinite (whole ++ fraction) ((if minus then -n else n) - fraction.length)

/-- Whether a plain scalar stands for a number that is not given as an integer. -/
def isFloat (text : List Char) : Bool :=
  let positive := withoutPlus text
  if positive.length ≠ text.length && isSigned positive then false
  else
    let word := String.ofList positive
    word = ".inf" || word = ".Inf" || word = ".INF"
      || (let word := String.ofList text
          word = "-.inf" || word = "-.Inf" || word = "-.INF"
            || word = ".nan" || word = ".NaN" || word = ".NAN")
      || isDecimal positive

/-- The integer that a scalar stands for; `some none` for one that no type has room for. -/
def integer? (text : List Char) : Option (Option Int) :=
  match unsigned? UInt64.size text with
  | some n => some (some n)
  | none =>
    match negative? 0x8000000000000000 text with
    | some n => some (some n)
    | none =>
      if (unsigned? (Nat.pow 2 128) text).isSome || (negative? (Nat.pow 2 127) text).isSome then
        some none
      else none

/-- What a plain scalar stands for where nothing is said about its type. -/
def plainValue? (text : String) : Option Document :=
  if text.isEmpty || isNull text then some .null
  else match bool? text with
    | some b => some (.bool b)
    | none =>
      let chars := text.toList
      match integer? chars with
      | some n => n.map .int
      | none =>
        if !hasLeadingZero chars && isFloat chars then some (.float text) else some (.text text)

/-- The start of the tags that the notation itself defines. -/
def coreTag (name : String) : Bytes := Utf8.encode ("tag:yaml.org,2002:" ++ name)

/-- What stands behind the exclamation mark of a tag that only the document itself could explain. -/
def localPart? : Bytes → Option Bytes
  | b :: rest => if b.toNat = '!'.toNat then some rest else none
  | [] => none

/-- Whether a tag is a text and one that only the document itself could explain. -/
def isLocalTag (tag : Option Bytes) : Bool :=
  ((tag.bind localPart?).bind Utf8.decode?).isSome

/-- What a scalar stands for where nothing is said about its type. -/
def scalarValue? (tag : Option Bytes) (style : ScalarStyle) (text : String) : Option Document :=
  match tag with
  | none => if style = .plain then plainValue? text else some (.text text)
  | some tag =>
    if isLocalTag (some tag) then none
    else if tag = coreTag "bool" then (bool? text).map .bool
    else if tag = coreTag "int" then do (← integer? text.toList).map .int
    else if tag = coreTag "float" then if isFloat text.toList then some (.float text) else none
    else if tag = coreTag "null" then if isNull text then some .null else none
    else if (localPart? tag).isSome && style = .plain then plainValue? text
    else some (.text text)

/-! ## Nodes without a type -/

/-- How deep nodes may be nested. -/
def maxDepth : Nat := 128

/-- How often, for each start and end of a node, an alias may be followed. -/
def aliasesPerEvent : Nat := 100

/-- A reading that may fail, and that counts how many more aliases may be followed. -/
abbrev Follow (α : Type) := StateT Nat Option α

/-- The node itself, or the one that it is an alias of. -/
def target (s : Stream) : Node → Follow Node
  | .alias number => do
    let left ← get
    if left = 0 then failure
    set (left - 1)
    match s.anchoredNode? number with
    | some node => return node
    | none => failure
  | node => return node

/-- What a node stands for where nothing is said about its type. -/
def documentOf (s : Stream) : Nat → Node → Follow Document
  | depth, node => do
    match ← target s node with
    | .scalar tag style text =>
      match scalarValue? tag style text with
      | some d => return d
      | none => failure
    | .sequence tag items =>
      match depth with
      | 0 => failure
      | depth + 1 =>
        if isLocalTag tag then failure
        return .list (← items.mapM (documentOf s depth))
    | .mapping tag entries =>
      match depth with
      | 0 => failure
      | depth + 1 =>
        if isLocalTag tag then failure
        return .table (← entries.mapM fun (key, value) => do
          return (← documentOf s depth key, ← documentOf s depth value))
    | .alias _ => failure

/-- The text of a scalar, whatever it looks like. -/
def textOf (s : Stream) (node : Node) : Follow String := do
  match ← target s node with
  | .scalar _ _ text => return text
  | _ => failure

/-! ## Scripts -/

/-- A step as a document. The kind of the step is a text, whatever it looks like. -/
def stepDocument (s : Stream) (depth : Nat) (node : Node) : Follow Document := do
  match ← target s node with
  | .sequence tag (kind :: fields) =>
    if isLocalTag tag then failure
    return .list (.text (← textOf s kind) :: (← fields.mapM (documentOf s depth)))
  | .mapping tag entries =>
    if isLocalTag tag then failure
    return .table (← entries.mapM fun (key, value) => do
      let key ← documentOf s depth key
      if Step.isKindKey key then return (key, .text (← textOf s value))
      else return (key, ← documentOf s depth value))
  | node => documentOf s (depth + 1) node

/-- Whether a node is a scalar that is not written at all, or is written as nothing. -/
def isVoid : Node → Bool
  | .scalar _ .plain text => text.isEmpty
  | _ => false

/-- Reads the steps of a script. -/
def script? (text : String) : Option (List Step) := do
  let s ← Stream.read? text
  match s.root with
  | none => return []
  | some (.sequence _ items) =>
    let documents := items.mapM (stepDocument s (maxDepth - 2))
    let (documents, _) ← documents.run (s.events * aliasesPerEvent)
    documents.mapM fun d => (Step.ofDocument d).toOption
  | some node => if isVoid node then return [] else none

/-! ## Configurations -/

/-- A misfit that has no account. -/
def unexplained : Misfit := .wrongType "scalar" "another"

/-- Reads the node that a node stands for. -/
def following {α : Type} (s : Stream) (read : Node → Option α) (node : Node) : Except Misfit α :=
  match (target s node).run 1 with
  | some (node, _) => match read node with
    | some a => .ok a
    | none => .error unexplained
  | none => .error unexplained

/-- Whether a scalar may be read as another type than text: a plain one may, and so may a literal
block with the tag of that type. -/
def isTyped (name : String) (tag : Option Bytes) (style : ScalarStyle) : Bool :=
  style = .plain || (style = .literal && tag == some (coreTag name))

/-- The text of a node that may stand for nothing. -/
def textOption? : Node → Option (Option String)
  | .scalar tag style text =>
    if style ≠ .plain then some (some text)
    else match tag with
      | some tag =>
        if tag = coreTag "null" then if isNull text then some none else none
        else some (some text)
      | none => some (if text.isEmpty || isNull text then none else some text)
  | _ => none

/-- How a YAML text gives the values of settings. -/
def configReading (s : Stream) : Config.Reading Node where
  text := following s fun
    | .scalar _ _ text => some text
    | _ => none
  textOption := following s textOption?
  count := following s fun
    | .scalar tag style text =>
      if isTyped "int" tag style then (unsigned? UInt64.size text.toList).map UInt64.ofNat else none
    | _ => none
  bool := following s fun
    | .scalar tag style text => if isTyped "bool" tag style then bool? text else none
    | _ => none

/-- Reads a configuration. -/
def config? (text : String) : Option Config := do
  let s ← Stream.read? text
  match s.root with
  | none => return {}
  | some (.mapping _ entries) =>
    let reading := configReading s
    let fields := Config.fields reading
    (Record.ofEntries fields (fun key => do Record.field fields (← reading.text key)) entries
      {}).toOption
  | some node => if isVoid node then return {} else none

end Yaml

end MacroTrace
