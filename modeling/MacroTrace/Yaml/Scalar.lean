import MacroTrace.Yaml.Cursor
/-!
# YAML scalars

How the text of a scalar is read off a YAML text, for each of the ways to write one: plain, in
single or double quotes, and as a literal or folded block. Where a scalar goes on over several
lines, the `Gap` between two words, which is blanks or line breaks, decides what stands between
them.
-/

namespace MacroTrace

namespace Yaml

/-- What lies between two words of a scalar. -/
structure Gap where
  /-- The blanks in front of the first line break, last one first. -/
  blanks : List Char := []
  /-- Whether the line ends in the gap. -/
  broken : Bool := false
  /-- The first line break, unless a backslash took it away. -/
  first : Option Char := none
  /-- The line breaks after the first, last one first. -/
  more : List Char := []

namespace Gap

/-- What the gap stands for. A single line feed is a space, and the first of several goes away. -/
def joined (g : Gap) : List Char :=
  if !g.broken then g.blanks.reverse
  else match g.first with
    | some '\n' => if g.more.isEmpty then [' '] else g.more.reverse
    | some c => c :: g.more.reverse
    | none => g.more.reverse

/-- The gap with one more blank. Blanks at the front of a line do not count. -/
def addBlank (g : Gap) (c : Char) : Gap :=
  if g.broken then g else { g with blanks := c :: g.blanks }

/-- The gap with one more line break. -/
def addBreak (g : Gap) (c : Char) : Gap :=
  if g.broken then { g with more := c :: g.more } else { broken := true, first := some c }

end Gap

/-- Reads blanks and line breaks into a gap. In front of column `indent` of a new line there must
be no tab. -/
def readGap (indent : Int) : Nat → Cursor → Gap → Option (Gap × Cursor)
  | 0, _, _ => none
  | fuel + 1, c, g =>
    match c.rest with
    | [] => some (g, c)
    | x :: _ =>
      if isBlank x then
        if g.broken && (c.column : Int) < indent && x = '\t' then none
        else readGap indent fuel c.next (g.addBlank x)
      else match c.lineBreak? with
        | (some b, c) => readGap indent fuel c (g.addBreak b)
        | (none, c) => some (g, c)

/-! ## Plain scalars -/

/-- Whether a character is an indicator of flow collections. -/
def isFlowIndicator (c : Char) : Bool := c = ',' || c = '[' || c = ']' || c = '\x7b' || c = '\x7d'

/-- Reads a word of a plain scalar, last character first. In flow collections a word ends in front
of an indicator, and a colon must not be followed by one. -/
def plainWord (flow : Bool) : List Char → List Char → Option (List Char)
  | [], word => some word
  | x :: rest, word =>
    if isBlank x || isBreak x then some word
    else if flow && x = ':' && (match rest with
        | y :: _ => isFlowIndicator y || y = '?'
        | [] => false) then none
    else if x = ':' && atGap rest then some word
    else if flow && isFlowIndicator x then some word
    else plainWord flow rest (x :: word)

/-- Reads a plain scalar from the start of a word on: its text, last character first; whether the
last line ended behind it; and where it ends. -/
def plain (flow : Bool) (indent : Int) :
    Nat → Cursor → Gap → List Char → Option (List Char × Bool × Cursor)
  | 0, _, _, _ => none
  | fuel + 1, c, g, text =>
    if c.atDocumentMarker || c.at? '#' then some (text, g.broken, c)
    else do
      let word ← plainWord flow c.rest []
      let c := c.skip word.length
      let (text, g) := if word.isEmpty then (text, g) else (word ++ g.joined.reverse ++ text, {})
      match c.rest with
      | [] => return (text, g.broken, c)
      | x :: _ =>
        if isBlank x || isBreak x then
          let (g, c) ← readGap indent (c.rest.length + 1) c g
          if !flow && (c.column : Int) < indent then return (text, g.broken, c)
          else plain flow indent fuel c g text
        else return (text, g.broken, c)

/-! ## Quoted scalars -/

/-- The character that a letter behind a backslash stands for. -/
def escaped? (c : Char) : Option Char :=
  match c with
  | '0' => some '\x00'
  | 'a' => some '\x07'
  | 'b' => some '\x08'
  | 't' => some '\t'
  | '\t' => some '\t'
  | 'n' => some '\n'
  | 'v' => some '\x0b'
  | 'f' => some '\x0c'
  | 'r' => some '\r'
  | 'e' => some '\x1b'
  | ' ' => some ' '
  | '"' => some '"'
  | '/' => some '/'
  | '\\' => some '\\'
  | 'N' => some '\u0085'
  | '_' => some '\u00a0'
  | 'L' => some '\u2028'
  | 'P' => some '\u2029'
  | _ => none

/-- How many digits follow a letter behind a backslash. -/
def escapeWidth? (c : Char) : Option Nat :=
  match c with
  | 'x' => some 2
  | 'u' => some 4
  | 'U' => some 8
  | _ => none

/-- The value of a hexadecimal digit. -/
def hexValue? (c : Char) : Option Nat :=
  if '0' ≤ c && c ≤ '9' then some (c.toNat - '0'.toNat)
  else if 'a' ≤ c && c ≤ 'f' then some (c.toNat - 'a'.toNat + 10)
  else if 'A' ≤ c && c ≤ 'F' then some (c.toNat - 'A'.toNat + 10)
  else none

/-- The character whose number the first `width` characters of a text give. -/
def numbered? (width : Nat) (text : List Char) : Option Char := do
  let digits := text.take width
  if digits.length < width then none
  else
    let n ← digits.foldlM (fun n d => return n * 16 + (← hexValue? d)) 0
    if (0xD800 ≤ n && n ≤ 0xDFFF) || 0x10FFFF < n then none else return Char.ofNat n

/-- Reads characters of a quoted scalar up to a gap or the closing quote, adding them to the text in
front, last character first. A backslash at the end of a line starts a broken gap. -/
def quotedWord (single : Bool) : Nat → Cursor → List Char → Option (List Char × Gap × Cursor)
  | 0, _, _ => none
  | fuel + 1, c, text =>
    match c.rest with
    | [] => some (text, {}, c)
    | x :: rest =>
      if isBlank x || isBreak x then some (text, {}, c)
      else if single then
        if x = '\'' then
          if rest.head? == some '\'' then quotedWord single fuel (c.skip 2) ('\'' :: text)
          else some (text, {}, c)
        else quotedWord single fuel c.next (x :: text)
      else if x = '"' then some (text, {}, c)
      else if x = '\\' then
        match rest with
        | [] => none
        | e :: digits =>
          if isBreak e then some (text, { broken := true }, c.next.lineBreak?.2)
          else match escapeWidth? e with
            | some width => do
              let x ← numbered? width digits
              quotedWord single fuel (c.skip (2 + width)) (x :: text)
            | none => do
              let x ← escaped? e
              quotedWord single fuel (c.skip 2) (x :: text)
      else quotedWord single fuel c.next (x :: text)

/-- Reads a quoted scalar behind its opening quote: its text, last character first, and where it
ends. No document may start or end within it. -/
def quoted (single : Bool) : Nat → Cursor → List Char → Option (List Char × Cursor)
  | 0, _, _ => none
  | fuel + 1, c, text =>
    if c.atDocumentMarker || c.rest.isEmpty then none
    else do
      let (text, g, c) ← quotedWord single (c.rest.length + 1) c text
      if c.at? (if single then '\'' else '"') then return (text, c.next)
      else
        let (g, c) ← readGap 0 (c.rest.length + 1) c g
        quoted single fuel c (g.joined.reverse ++ text)

/-! ## Block scalars -/

/-- What becomes of the line breaks at the end of a block. -/
inductive Chomping
  /-- None is kept. -/
  | strip
  /-- One is kept. -/
  | clip
  /-- All are kept. -/
  | keep
deriving DecidableEq

/-- Reads the chomping indicator of a block, if there is one. -/
def chomping? (c : Cursor) : Option Chomping × Cursor :=
  if c.at? '+' then (some .keep, c.next)
  else if c.at? '-' then (some .strip, c.next)
  else (none, c)

/-- Reads the indentation indicator of a block, if there is one; it must not be zero. -/
def indentation? (c : Cursor) : Option (Option Nat × Cursor) :=
  match c.rest with
  | x :: _ =>
    if x.isDigit then
      if x = '0' then none else some (some (x.toNat - '0'.toNat), c.next)
    else some (none, c)
  | [] => some (none, c)

/-- Reads the indicators of a block, in either order. -/
def blockHeader (c : Cursor) : Option (Chomping × Option Nat × Cursor) := do
  match chomping? c with
  | (some chomping, c) =>
    let (increment, c) ← indentation? c
    return (chomping, increment, c)
  | (none, c) =>
    let (increment, c) ← indentation? c
    match increment with
    | some _ =>
      let (chomping, c) := chomping? c
      return (chomping.getD .clip, increment, c)
    | none => return (.clip, none, c)

/-- Reads the indentation and empty lines in front of a line of a block. Without a known indentation
all leading spaces are read. Gives the line breaks, last one first, and the largest column met. -/
def blockBreaks (indent : Option Nat) :
    Nat → Cursor → List Char → Nat → Option (List Char × Nat × Cursor)
  | 0, _, _, _ => none
  | fuel + 1, c, breaks, widest =>
    let spaces := (c.rest.takeWhile (· == ' ')).length
    let c := c.skip (match indent with
      | none => spaces
      | some n => min spaces (n - c.column))
    let widest := max widest c.column
    let short := match indent with
      | none => true
      | some n => c.column < n
    if short && c.at? '\t' then none
    else match c.lineBreak? with
      | (some b, c) => blockBreaks indent fuel c (b :: breaks) widest
      | (none, c) => some (breaks, widest, c)

/-- Reads the lines of a block from one with content on. `lead` is the line break in front of it,
`breaks` are the empty lines in front of it, last one first, and `afterBlank` tells whether the line
before started with a blank. Gives the text, last character first, with the line breaks behind
it. -/
def blockLines (folded : Bool) (indent : Nat) :
    Nat → Cursor → Option Char → List Char → Bool → List Char →
      Option (List Char × Option Char × List Char × Cursor)
  | 0, _, _, _, _, _ => none
  | fuel + 1, c, lead, breaks, afterBlank, text =>
    match c.rest with
    | [] => some (text, lead, breaks, c)
    | x :: _ =>
      if c.column ≠ indent then some (text, lead, breaks, c)
      else do
        let fold := folded && lead == some '\n' && !afterBlank && !isBlank x
        let text :=
          if fold then (if breaks.isEmpty then ' ' :: text else text)
          else lead.toList ++ text
        let line := c.rest.takeWhile (!isBreak ·)
        let text := line.reverse ++ (breaks ++ text)
        let (lead, c) := (c.skip line.length).lineBreak?
        let (breaks, _, c) ← blockBreaks (some indent) (c.rest.length + 1) c [] 0
        blockLines folded indent fuel c lead breaks (isBlank x) text

/-- Reads a block scalar behind its indicator, for a node that is indented to column `parent`, or
to none if that is negative: its text, and where it ends. -/
def block (folded : Bool) (parent : Int) (c : Cursor) : Option (List Char × Cursor) := do
  let (chomping, increment, c) ← blockHeader c
  let c ← c.finishLine
  let known := increment.map fun n => (max parent 0).toNat + n
  let (breaks, widest, c) ← blockBreaks known (c.rest.length + 1) c [] 0
  let indent := known.getD (max (max widest (parent + 1).toNat) 1)
  let (text, lead, breaks, c) ←
    blockLines folded indent (c.rest.length + 1) c none breaks false []
  let text := if chomping = .strip then text else lead.toList ++ text
  let text := if chomping = .keep then breaks ++ text else text
  return (text.reverse, c)

end Yaml

end MacroTrace
