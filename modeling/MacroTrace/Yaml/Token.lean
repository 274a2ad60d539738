import MacroTrace.Text.Utf8
import MacroTrace.Yaml.Scalar
/-!
# YAML tokens

A YAML text as a list of tokens. In block style it is the indentation that opens and closes
collections, and a key is only known to be one when the colon behind it is met. So wherever a key
may start, two `gap` tokens keep a place; when the colon comes, they become the tokens that start
the mapping and the key. Gaps that are left over go away at the end.
-/

namespace MacroTrace

namespace Yaml

/-- How a scalar is written. -/
inductive ScalarStyle
  /-- Without any marks. -/
  | plain
  /-- In quotes. -/
  | quoted
  /-- As a literal block. -/
  | literal
  /-- As a folded block. -/
  | folded
deriving DecidableEq, Repr

/-- A token. -/
inductive Token
  /-- A place that turned out not to be needed. -/
  | gap
  /-- The version that a document asks for. -/
  | version (major minor : List Char)
  /-- What a tag handle stands for. -/
  | tagHandle (handle : String) (expansion : Bytes)
  /-- The start of a document. -/
  | documentStart
  /-- The end of a document. -/
  | documentEnd
  /-- The start of a block sequence. -/
  | sequenceStart
  /-- The start of a block mapping. -/
  | mappingStart
  /-- The end of a block collection. -/
  | blockEnd
  /-- An opening bracket. -/
  | openBracket
  /-- A closing bracket. -/
  | closeBracket
  /-- An opening brace. -/
  | openBrace
  /-- A closing brace. -/
  | closeBrace
  /-- The dash in front of an entry of a block sequence. -/
  | entry
  /-- A comma between entries. -/
  | comma
  /-- What follows is a key. -/
  | key
  /-- What follows is a value. -/
  | value
  /-- A reference to an anchor. -/
  | alias (name : String)
  /-- An anchor. -/
  | anchor (name : String)
  /-- A tag. -/
  | tag (handle : String) (suffix : Bytes)
  /-- A scalar. -/
  | scalar (style : ScalarStyle) (text : String)
  /-- The end of the text. -/
  | streamEnd
deriving DecidableEq, Repr

/-- A place where a key may have started. -/
structure KeyPlace where
  /-- The position of the gaps that were left for it. -/
  slot : Nat
  /-- Whether there has to be a key. -/
  required : Bool
  /-- Where it started. -/
  start : Cursor

/-- The state of the division into tokens. -/
structure Lexer where
  /-- The position in the text. -/
  cursor : Cursor
  /-- The tokens so far. -/
  tokens : Array Token := #[]
  /-- The column of the innermost block collection; `-1` outside of all. -/
  indent : Int := -1
  /-- The columns of the collections around it, innermost first. -/
  outer : List Int := []
  /-- Where a key may have started, for each open flow collection, innermost first, and for what is
  around them. -/
  places : List (Option KeyPlace) := [none]
  /-- Whether a key may start here. -/
  keyAllowed : Bool := true

namespace Lexer

/-- Whether the position is within a flow collection. -/
def inFlow (l : Lexer) : Bool := l.places.length ≠ 1

/-- Appends a token. -/
def emit (l : Lexer) (t : Token) : Lexer := { l with tokens := l.tokens.push t }

/-- Sets whether a key may start. -/
def allowKey (l : Lexer) (allowed : Bool) : Lexer := { l with keyAllowed := allowed }

/-- Goes past some characters. -/
def skip (l : Lexer) (n : Nat) : Lexer := { l with cursor := l.cursor.skip n }

/-- How many bytes there may be from the start of a key to its colon. -/
def maxKeyLength : Nat := 1024

/-- Gives up the places whose key could not be completed any more: it would be too long, or go over
the end of a line. Fails if there had to be a key. -/
def dropStale (l : Lexer) : Option Lexer := do
  let places ← l.places.mapM fun
    | none => some none
    | some place =>
      if place.start.line < l.cursor.line
          || place.start.offset + maxKeyLength < l.cursor.offset then
        if place.required then none else some none
      else some (some place)
  return { l with places }

/-- Gives up the innermost place. Fails if there had to be a key. -/
def dropPlace (l : Lexer) : Option Lexer :=
  match l.places with
  | some place :: outer => if place.required then none else some { l with places := none :: outer }
  | _ => some l

/-- Keeps a place for a key that may start here. -/
def keepPlace (l : Lexer) : Option Lexer :=
  if l.keyAllowed then do
    let required := !l.inFlow && l.indent = l.cursor.column
    let l ← l.dropPlace
    let place : KeyPlace := { slot := l.tokens.size, required, start := l.cursor }
    return { (l.emit .gap).emit .gap with places := some place :: l.places.tail }
  else some l

/-- Opens a block collection at a column further in than the innermost one. -/
def openBlock (l : Lexer) (column : Nat) (t : Token) : Lexer :=
  if !l.inFlow && l.indent < column then
    { l.emit t with indent := column, outer := l.indent :: l.outer }
  else l

/-- Closes the block collections that are further in than a column. -/
def closeBlocks (column : Int) : List Int → Int → Array Token → Lexer → Lexer
  | [], indent, tokens, l => { l with indent, outer := [], tokens }
  | next :: outer, indent, tokens, l =>
    if column < indent then closeBlocks column outer next (tokens.push .blockEnd) l
    else { l with indent, outer := next :: outer, tokens }

/-- Closes the block collections that end in front of a column. -/
def unroll (l : Lexer) (column : Int) : Lexer :=
  if l.inFlow then l else closeBlocks column l.outer l.indent l.tokens l

/-- Goes past blanks, comments and line ends. In block style, a tab may not stand where a key may
start, and on a new line one may. A byte order mark at the start of a line does not count, but takes
up a column. -/
def skipToToken : Nat → Lexer → Lexer
  | 0, l => l
  | fuel + 1, l =>
    let c := l.cursor
    let c := if c.column = 0 && c.at? '\uFEFF' then c.next else c
    let tabs := l.inFlow || !l.keyAllowed
    let c := c.skipWhile fun x => x = ' ' || (tabs && x = '\t')
    let c := if c.at? '#' then c.skipWhile (!isBreak ·) else c
    match c.lineBreak? with
    | (some _, c) =>
      skipToToken fuel { l with cursor := c, keyAllowed := l.keyAllowed || !l.inFlow }
    | (none, c) => { l with cursor := c }

/-! ## Tags and directives -/

/-- Whether a character may stand in a tag. -/
def isTagChar (verbatim : Bool) (c : Char) : Bool :=
  isWord c || ";/?:@&=+$.!~*'()%".toList.contains c || (verbatim && ",[]".toList.contains c)

/-- How many bytes a sequence with this first byte has. -/
def octets? (b : Nat) : Option Nat :=
  if b < 0x80 then some 1
  else if b / 32 = 6 then some 2
  else if b / 16 = 14 then some 3
  else if b / 8 = 30 then some 4
  else none

/-- Reads the escaped bytes of one character, of which `n` may follow; those read so far are
`octets`, last one first. -/
def escapedOctets : Nat → Bytes → List Char → Option (Bytes × List Char)
  | 0, octets, rest => some (octets, rest)
  | n + 1, octets, '%' :: a :: b :: rest => do
    let octet := (← hexValue? a) * 16 + (← hexValue? b)
    if octets.isEmpty then
      let width ← octets? octet
      if width ≤ n + 1 then escapedOctets (width - 1) [.ofNat octet] rest else none
    else if octet / 64 = 2 then escapedOctets n (.ofNat octet :: octets) rest
    else none
  | _, _, _ => none

/-- Reads the characters of a tag as bytes, last one first, and gives what follows them. -/
def tagOctets (verbatim : Bool) : Nat → Bytes → List Char → Option (Bytes × List Char)
  | 0, _, _ => none
  | _, octets, [] => some (octets, [])
  | fuel + 1, octets, x :: rest =>
    if !isTagChar verbatim x then some (octets, x :: rest)
    else if x = '%' then do
      let (escaped, rest) ← escapedOctets 4 [] (x :: rest)
      tagOctets verbatim fuel (escaped ++ octets) rest
    else tagOctets verbatim fuel (.ofNat x.toNat :: octets) rest

/-- Reads the characters of a tag; there has to be one of them, unless more than the mark in front
was read before. A zero byte ends the tag, whatever is read behind it. -/
def readTag (verbatim : Bool) (before : List Char) (c : Cursor) : Option (Bytes × Cursor) := do
  let (octets, rest) ← tagOctets verbatim (c.rest.length + 1) [] c.rest
  let width := c.rest.length - rest.length
  if before.isEmpty && width = 0 then none
  else
    let octets := Utf8.encode (String.ofList before.tail) ++ octets.reverse
    return (octets.takeWhile (· ≠ 0), c.skip width)

/-- Reads a tag handle, with the exclamation marks around it. -/
def tagHandle? (c : Cursor) : Option (List Char × Cursor) :=
  if !c.at? '!' then none
  else
    let word := c.next.rest.takeWhile isWord
    let c := c.skip (1 + word.length)
    if c.at? '!' then some ('!' :: word ++ ['!'], c.next) else some ('!' :: word, c)

/-- Reads a tag: its handle and what stands behind the handle. A lone exclamation mark is no handle
but a tag of its own. -/
def tagParts? (c : Cursor) : Option (List Char × Bytes × Cursor) := do
  if c.next.at? '<' then
    let (suffix, c) ← readTag true [] (c.skip 2)
    if c.at? '>' then some ([], suffix, c.next) else none
  else
    let (handle, c) ← tagHandle? c
    if 2 ≤ handle.length && handle.getLast? == some '!' then
      let (suffix, c) ← readTag false [] c
      return (handle, suffix, c)
    else
      let (suffix, c) ← readTag false handle c
      if suffix.isEmpty then return ([], Utf8.encode "!", c) else return (['!'], suffix, c)

/-- Reads a tag, which a blank or the end of the line has to follow. -/
def tag? (flow : Bool) (c : Cursor) : Option (Token × Cursor) := do
  let (handle, suffix, c) ← tagParts? c
  if atGap c.rest || (flow && c.at? ',') then
    return (.tag (String.ofList handle) suffix, c)
  else none

/-- Reads a number of a version. -/
def versionNumber? (c : Cursor) : Option (List Char × Cursor) :=
  let digits := c.rest.takeWhile Char.isDigit
  if digits.isEmpty || 9 < digits.length then none else some (digits, c.skip digits.length)

/-- Reads a directive behind its percent sign. -/
def directive? (c : Cursor) : Option (Token × Cursor) := do
  let name := c.rest.takeWhile isWord
  let c := c.skip name.length
  if name.isEmpty || !atGap c.rest then none
  let c := c.skipWhile isBlank
  let (t, c) ←
    if name = ['Y', 'A', 'M', 'L'] then do
      let (major, c) ← versionNumber? c
      if !c.at? '.' then none
      let (minor, c) ← versionNumber? c.next
      some (Token.version major minor, c)
    else if name = ['T', 'A', 'G'] then do
      let (handle, c) ← tagHandle? c
      if handle ≠ ['!'] && (handle.length < 2 || handle.getLast? ≠ some '!') then none
      match c.rest with
      | x :: _ => if isBlank x then pure () else none
      | [] => none
      let (expansion, c) ← readTag true [] (c.skipWhile isBlank)
      if !atGap c.rest then none
      some (Token.tagHandle (String.ofList handle) expansion, c)
    else none
  return (t, ← c.finishLine)

/-! ## Tokens one by one -/

/-- Reads the name behind the mark of an anchor or an alias. -/
def anchorName? (c : Cursor) : Option (String × Cursor) :=
  let word := c.next.rest.takeWhile isWord
  let c := c.skip (1 + word.length)
  let ended := atGap c.rest || match c.rest with
    | x :: _ => "?:,]\x7d%@`".toList.contains x
    | [] => true
  if word.isEmpty || !ended then none else some (String.ofList word, c)

/-- Appends what was read off the text, for a token that may be a key. -/
def node (l : Lexer) (read : Cursor → Option (Token × Cursor)) : Option Lexer := do
  let l ← l.keepPlace
  let (t, cursor) ← read l.cursor
  return { l.emit t with cursor, keyAllowed := false }

/-- A token of one character after which a key may or may not start, and which ends any key. -/
def mark (l : Lexer) (t : Token) (allowed : Bool) : Option Lexer := do
  return (((← l.dropPlace).skip 1).emit t).allowKey allowed

/-- The start of a document, its end, or a directive. -/
def boundary (l : Lexer) (read : Cursor → Option (Token × Cursor)) : Option Lexer := do
  let l ← (l.unroll (-1)).dropPlace
  let (t, cursor) ← read l.cursor
  return { l.emit t with cursor, keyAllowed := false }

/-- An opening bracket or brace. -/
def openFlow (l : Lexer) (t : Token) : Option Lexer := do
  let l ← l.keepPlace
  return (({ l with places := none :: l.places }.skip 1).emit t).allowKey true

/-- A closing bracket or brace. -/
def closeFlow (l : Lexer) (t : Token) : Option Lexer := do
  let l ← l.dropPlace
  let places := if l.inFlow then l.places.tail else l.places
  return (({ l with places }.skip 1).emit t).allowKey false

/-- The dash in front of an entry. -/
def blockEntry (l : Lexer) : Option Lexer :=
  if l.inFlow then l.mark .entry true
  else if l.keyAllowed then (l.openBlock l.cursor.column .sequenceStart).mark .entry true
  else none

/-- The question mark in front of a key. -/
def explicitKey (l : Lexer) : Option Lexer :=
  if l.inFlow then l.mark .key false
  else if l.keyAllowed then (l.openBlock l.cursor.column .mappingStart).mark .key true
  else none

/-- The colon in front of a value. If a place was kept for a key, the key stands there. -/
def colon (l : Lexer) : Option Lexer :=
  match l.places with
  | some place :: outer =>
    let opens := !l.inFlow && l.indent < place.start.column
    let tokens := l.tokens.setIfInBounds (place.slot + 1) .key
    let l := { l with tokens, places := none :: outer }
    let l := if opens then
        { l with
          tokens := l.tokens.setIfInBounds place.slot .mappingStart
          indent := place.start.column
          outer := l.indent :: l.outer }
      else l
    some (((l.skip 1).emit .value).allowKey false)
  | _ =>
    if l.inFlow then some (((l.skip 1).emit .value).allowKey false)
    else if l.keyAllowed then
      some ((((l.openBlock l.cursor.column .mappingStart).skip 1).emit .value).allowKey true)
    else none

/-- A block scalar behind its indicator. -/
def blockScalar (l : Lexer) (folded : Bool) : Option Lexer := do
  let l ← l.dropPlace
  let (text, cursor) ← block folded l.indent l.cursor.next
  return { l.emit (.scalar (if folded then .folded else .literal) (String.ofList text)) with
    cursor, keyAllowed := true }

/-- A quoted scalar. -/
def quotedScalar (l : Lexer) (single : Bool) : Option Lexer :=
  l.node fun c => do
    let (text, c) ← quoted single (c.rest.length + 1) c.next []
    return (.scalar .quoted (String.ofList text.reverse), c)

/-- A plain scalar. If its last line has ended, a key may start behind it. -/
def plainScalar (l : Lexer) : Option Lexer := do
  let l ← l.keepPlace
  let fuel := l.cursor.rest.length + 1
  let (text, ended, cursor) ← plain l.inFlow (l.indent + 1) fuel l.cursor {} []
  return { l.emit (.scalar .plain (String.ofList text.reverse)) with cursor, keyAllowed := ended }

/-- Whether a plain scalar can start with a character that is followed by `rest`. -/
def startsPlain (flow : Bool) (x : Char) (rest : List Char) : Bool :=
  !(isBlank x || isBreak x || "-?:,[]\x7b\x7d#&*!|>'\"%@`".toList.contains x)
    || (x = '-' && !(match rest with
      | y :: _ => isBlank y
      | [] => false))
    || (!flow && (x = '?' || x = ':') && !atGap rest)

/-- Reads the next token. -/
def step (l : Lexer) : Option Lexer := do
  let l := skipToToken (l.cursor.rest.length + 1) l
  let l := (← l.dropStale).unroll l.cursor.column
  let c := l.cursor
  match c.rest with
  | [] =>
    let l ← (l.unroll (-1)).dropPlace
    return (l.emit .streamEnd).allowKey false
  | x :: rest =>
    if c.column = 0 && x = '%' then l.boundary fun c => directive? c.next
    else if c.atDocumentMarker then
      l.boundary fun c => some (if x = '-' then .documentStart else .documentEnd, c.skip 3)
    else if x = '[' then l.openFlow .openBracket
    else if x = '\x7b' then l.openFlow .openBrace
    else if x = ']' then l.closeFlow .closeBracket
    else if x = '\x7d' then l.closeFlow .closeBrace
    else if x = ',' then l.mark .comma true
    else if x = '-' && atGap rest then l.blockEntry
    else if x = '?' && (l.inFlow || atGap rest) then l.explicitKey
    else if x = ':' && (l.inFlow || atGap rest) then l.colon
    else if x = '*' then
      l.node fun c => (anchorName? c).map fun (name, c) => (.alias name, c)
    else if x = '&' then
      l.node fun c => (anchorName? c).map fun (name, c) => (.anchor name, c)
    else if x = '!' then l.node (tag? l.inFlow)
    else if x = '|' && !l.inFlow then l.blockScalar false
    else if x = '>' && !l.inFlow then l.blockScalar true
    else if x = '\'' then l.quotedScalar true
    else if x = '"' then l.quotedScalar false
    else if startsPlain l.inFlow x rest then l.plainScalar
    else none

/-- Reads tokens up to the end of the text. -/
def run : Nat → Lexer → Option Lexer
  | 0, _ => none
  | fuel + 1, l => do
    let l ← l.step
    if l.tokens.back? == some .streamEnd then return l else run fuel l

end Lexer

/-- The tokens of a text; `none` if it is not made of tokens. -/
def tokens? (text : String) : Option (List Token) := do
  let chars := text.toList
  if !chars.all isAllowed then none
  else
    let l ← Lexer.run (chars.length + 1) { cursor := { rest := chars } }
    return l.tokens.toList.filter (· ≠ .gap)

end Yaml

end MacroTrace
