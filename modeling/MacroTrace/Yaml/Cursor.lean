/-!
# Reading position in a YAML text

Which characters a YAML text may hold, what counts as a blank and as a line break, and a `Cursor`
that walks over the text and knows its line and column. Every line break is read as a line feed,
apart from the line and paragraph separators, which stand for themselves.
-/

namespace MacroTrace

namespace Yaml

/-- Whether a character may occur in a YAML text. -/
def isAllowed (c : Char) : Bool :=
  let n := c.toNat
  n = 0x09 || n = 0x0A || n = 0x0D || (0x20 ≤ n && n ≤ 0x7E) || n = 0x85
    || (0xA0 ≤ n && n ≤ 0xD7FF) || (0xE000 ≤ n && n ≤ 0xFFFD) || 0x10000 ≤ n

/-- Whether a character is a space or a tab. -/
def isBlank (c : Char) : Bool := c = ' ' || c = '\t'

/-- Whether a character ends a line. -/
def isBreak (c : Char) : Bool :=
  c = '\n' || c = '\r' || c = '\u0085' || c = '\u2028' || c = '\u2029'

/-- Whether a character may stand in the name of an anchor, a directive or a tag handle. -/
def isWord (c : Char) : Bool :=
  c.isAlphanum || c = '_' || c = '-'

/-- Whether a text is at its end, or goes on with a blank or a line break. -/
def atGap : List Char → Bool
  | [] => true
  | c :: _ => isBlank c || isBreak c

/-- Whether a text is at its end, or goes on with a line break. -/
def atLineEnd : List Char → Bool
  | [] => true
  | c :: _ => isBreak c

/-- A position in a text. -/
structure Cursor where
  /-- What is still to be read. -/
  rest : List Char
  /-- How many bytes have been read. -/
  offset : Nat := 0
  /-- The line, from zero. -/
  line : Nat := 0
  /-- The column, from zero. -/
  column : Nat := 0

namespace Cursor

/-- Goes past some characters, none of which ends a line. -/
def skip (c : Cursor) (n : Nat) : Cursor where
  rest := c.rest.drop n
  offset := c.offset + ((c.rest.take n).map Char.utf8Size).foldl (· + ·) 0
  line := c.line
  column := c.column + n

/-- Goes past one character, which does not end a line. -/
def next (c : Cursor) : Cursor := c.skip 1

/-- Goes past characters of a class, none of which ends a line. -/
def skipWhile (c : Cursor) (p : Char → Bool) : Cursor :=
  c.skip (c.rest.takeWhile p).length

/-- Goes past a line break, and gives the character it is read as; at no line break it stays where
it is. -/
def lineBreak? (c : Cursor) : Option Char × Cursor :=
  let past (n : Nat) : Cursor := { c.skip n with line := c.line + 1, column := 0 }
  match c.rest with
  | '\r' :: '\n' :: _ => (some '\n', past 2)
  | '\n' :: _ | '\r' :: _ | '\u0085' :: _ => (some '\n', past 1)
  | '\u2028' :: _ => (some '\u2028', past 1)
  | '\u2029' :: _ => (some '\u2029', past 1)
  | _ => (none, c)

/-- Whether the text goes on with this character. -/
def at? (c : Cursor) (x : Char) : Bool := c.rest.head? == some x

/-- Whether a line starts here with the marker of a document's start or end. -/
def atDocumentMarker (c : Cursor) : Bool :=
  c.column = 0 && match c.rest with
    | '-' :: '-' :: '-' :: rest | '.' :: '.' :: '.' :: rest => atGap rest
    | _ => false

/-- Goes past blanks and a comment, to the end of the line; fails if anything else is in the way. -/
def finishLine (c : Cursor) : Option Cursor :=
  let c := c.skipWhile isBlank
  let c := if c.at? '#' then c.skipWhile (!isBreak ·) else c
  if atLineEnd c.rest then some c.lineBreak?.2 else none

end Cursor

end Yaml

end MacroTrace
