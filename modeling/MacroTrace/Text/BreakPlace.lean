import MacroTrace.Text.BreakClass
/-!
# Where a line may end

`lineStarts` says of every character of a text whether a line may start with it. A line may always
start behind the end of another one, and mostly behind spaces; but some signs never start a line,
some never end one, and quotation marks stay with what they quote. Without spaces in between,
`BreakClass.joins` tells whether two characters stay together. A mark goes with the character that
it is put on, and counts as a letter where there is none.

A hyphen is no place to end a line here: whether a word is divided there is a matter of the word.
-/

namespace MacroTrace

namespace BreakClass

/-- Whether a character never starts a line, not even behind a space. -/
def clings (k : BreakClass) : Bool :=
  [joiner, closing, bracket, exclamation, separator, slash].contains k

/-- Whether a character never ends a line, not even with spaces behind it. -/
def holds (k : BreakClass) : Bool := [opening, wideOpening].contains k

/-- Whether a character is a quotation mark. -/
def isQuotation (k : BreakClass) : Bool := [quote, openQuote, closeQuote].contains k

/-- Whether a character is put on the one in front of it. -/
def isMark (k : BreakClass) : Bool := [mark, zeroJoiner].contains k

/-- The classes of letters. -/
def letters : List BreakClass := [letter, hebrewLetter]

/-- The classes of what makes up Korean syllables. -/
def korean : List BreakClass := [leadJamo, vowelJamo, tailJamo, openSyllable, closedSyllable]

/-- Whether no line ends between two characters that have no space between them. -/
def joins (last next : BreakClass) : Bool :=
  if last.isQuotation || next.isQuotation then true
  else if last = object || next = object then false
  else if last = head || [divider, hyphen, nonstarter, leader].contains next then true
  else (match last with
    | letter | hebrewLetter | digit => letters ++ [digit, numberHead, numberTail, opening]
    | numberHead =>
      letters ++ korean ++ [digit, opening, wideOpening, ideograph, emojiBase, emojiModifier]
    | numberTail => letters ++ [digit, opening, wideOpening]
    | closing => [numberHead, numberTail]
    | bracket => letters ++ [digit, numberHead, numberTail]
    | separator => letters ++ [digit]
    | slash => [hebrewLetter, digit]
    | hyphen => [digit]
    | ideograph | emojiModifier => [numberTail]
    | emojiBase => [numberTail, emojiModifier]
    | leadJamo => [leadJamo, vowelJamo, openSyllable, closedSyllable, numberTail]
    | vowelJamo | openSyllable => [vowelJamo, tailJamo, numberTail]
    | tailJamo | closedSyllable => [tailJamo, numberTail]
    | _ => []).contains next

/-- Whether a quotation mark that could close a quotation does so, in view of what follows it. -/
def endsQuotation : List BreakClass → Bool
  | [] => true
  | next :: rest =>
    if next.isMark then endsQuotation rest
    else [space, zeroSpace, lineEnd, glue].contains next || next.clings || next.isQuotation

end BreakClass

/-- What stands in front of a place where a line may end. -/
structure BreakContext where
  /-- The class of the last character that is no space, since the last line end. -/
  last : Option BreakClass := none
  /-- Whether a space follows it. -/
  isSpaced : Bool := false
  /-- Whether it makes one picture with the next character. -/
  isLinked : Bool := false
  /-- Whether it is a quotation mark that opens a quotation. -/
  opensQuotation : Bool := false
  /-- Whether it is a hyphen behind a Hebrew letter. -/
  endsHebrew : Bool := false
  /-- Whether it is the first letter of a flag. -/
  startsFlag : Bool := false
deriving DecidableEq, Repr

namespace BreakContext

/-- Whether a mark would be put on the last character. -/
def takesMarks (b : BreakContext) : Bool :=
  match b.last with
  | none | some .lineEnd | some .zeroSpace => false
  | some _ => !b.isSpaced

/-- Whether a quotation mark can open a quotation here: at the start of a line, or behind a space, a
bracket or another quotation mark. -/
def isFresh (b : BreakContext) : Bool :=
  b.isSpaced || match b.last with
    | none => true
    | some last => last.holds || last.isQuotation || [.lineEnd, .zeroSpace, .glue].contains last

/-- Whether two characters stay together that have no space between them. -/
def joins (b : BreakContext) (last next : BreakClass) : Bool :=
  last = .joiner || last = .glue
    || (next = .glue && last ≠ .divider && last ≠ .hyphen)
    || last.joins next
    || (b.endsHebrew && next ≠ .object)
    || (b.startsFlag && next = .flagLetter)

/-- Whether two characters stay together even if there are spaces between them. -/
def joinsOver (b : BreakContext) (last next : BreakClass) : Bool :=
  last.holds || b.opensQuotation
    || ([.closing, .bracket].contains last && next = .nonstarter)
    || (last = .dash && next = .dash)

/-- Whether a line may start with a character of class `next` that is followed by `rest`. -/
def allows (b : BreakContext) (next : BreakClass) (rest : List BreakClass) : Bool :=
  if b.last = some .lineEnd then true
  else if [.lineEnd, .space, .zeroSpace].contains next then false
  else if b.last = some .zeroSpace then true
  else if b.isLinked || (next.isMark && b.takesMarks) then false
  else
    let next := if next.isMark then .letter else next
    if next.clings || (next = .closeQuote && BreakClass.endsQuotation rest) then false
    else match b.last with
      | none => b.isSpaced
      | some last => !b.joinsOver last next && (b.isSpaced || !b.joins last next)

/-- The context behind a character. -/
def push (b : BreakContext) (next : BreakClass) : BreakContext :=
  match next with
  | .space =>
    if b.last = some .lineEnd then { isSpaced := true }
    else { b with isSpaced := true, isLinked := false }
  | .mark | .zeroJoiner =>
    let isLinked := next = .zeroJoiner
    if b.takesMarks then { b with isLinked } else { last := some .letter, isLinked }
  | _ =>
    { last := some next
      opensQuotation := next = .openQuote && b.isFresh
      endsHebrew := b.last = some .hebrewLetter && !b.isSpaced
        && (next = .hyphen || next = .divider)
      startsFlag := next = .flagLetter
        && !(b.last = some .flagLetter && !b.isSpaced && b.startsFlag) }

/-- Of each of some characters, whether a line may start with it. -/
def starts (b : BreakContext) : List BreakClass → List Bool
  | [] => []
  | next :: rest => b.allows next rest :: (b.push next).starts rest

end BreakContext

/-- Whether a character is a hyphen, shown or not. -/
def isHyphen (c : Char) : Bool := c = '-' || c = '\u00AD'

/-- Takes the last of some answers back that is `true`. -/
def withoutLast (answers : List Bool) : List Bool :=
  let (after, before) := answers.reverse.span (!·)
  (after ++ before.head?.toList.map (fun _ => false) ++ before.tail).reverse

/-- Of each character of a text, whether a line may start with it. No line starts behind a hyphen,
and if the text ends in one, the last place where a line could start is given up as well. -/
def lineStarts (text : List Char) : List Bool :=
  let answers := ((BreakContext.starts {} (text.map .ofChar)).zip (' ' :: text)).map
    fun (isStart, previous) => isStart && !isHyphen previous
  if text.getLast?.any isHyphen then withoutLast answers else answers

end MacroTrace
