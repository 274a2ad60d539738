import MacroTrace.Json.Number
/-!
# Reading JSON

`Json.read?` takes a text that is one JSON value with blanks around it, and refuses any other.
Values may be nested to a depth of 127. Tables keep their keys in the order of the text, also those
that occur twice.
-/

namespace MacroTrace

namespace Json

/-- The characters that may stand between the parts of a value. -/
def isBlank (c : Char) : Bool := c = ' ' || c = '\t' || c = '\n' || c = '\r'

/-- The text without the blanks at its front. -/
def skipBlanks (text : List Char) : List Char := text.dropWhile isBlank

/-- The value of a hexadecimal digit. -/
def hexValue? (c : Char) : Option Nat :=
  if '0' ≤ c && c ≤ '9' then some (c.toNat - '0'.toNat)
  else if 'a' ≤ c && c ≤ 'f' then some (c.toNat - 'a'.toNat + 10)
  else if 'A' ≤ c && c ≤ 'F' then some (c.toNat - 'A'.toNat + 10)
  else none

/-- Takes four hexadecimal digits off the front of a text. -/
def takeUnit : List Char → Option (Nat × List Char)
  | a :: b :: c :: d :: rest => do
    return ((((← hexValue? a) * 16 + (← hexValue? b)) * 16 + (← hexValue? c)) * 16
      + (← hexValue? d), rest)
  | _ => none

/-- Takes the character off the front of a text that an escape with four digits stands for; two
such escapes together stand for a character that needs two units. -/
def takeNumbered (text : List Char) : Option (Char × List Char) := do
  let (high, rest) ← takeUnit text
  if high < 0xD800 || 0xDFFF < high then return (Char.ofNat high, rest)
  else if 0xDC00 ≤ high then none
  else match rest with
    | '\\' :: 'u' :: rest =>
      let (low, rest) ← takeUnit rest
      if 0xDC00 ≤ low && low ≤ 0xDFFF then
        return (Char.ofNat (0x10000 + (high - 0xD800) * 0x400 + (low - 0xDC00)), rest)
      else none
    | _ => none

/-- The character that a letter behind a backslash stands for. -/
def escaped? (c : Char) : Option Char :=
  match c with
  | '"' => some '"'
  | '\\' => some '\\'
  | '/' => some '/'
  | 'b' => some '\x08'
  | 'f' => some '\x0c'
  | 'n' => some '\n'
  | 'r' => some '\r'
  | 't' => some '\t'
  | _ => none

/-- Reads a string behind its opening quote: its characters, and what follows the closing quote. -/
def characters (fuel : Nat) (text : List Char) : Option (List Char × List Char) :=
  match fuel, text with
  | 0, _ => none
  | _, [] => none
  | fuel + 1, c :: rest =>
    if c = '"' then some ([], rest)
    else if c = '\\' then
      match rest with
      | [] => none
      | e :: rest =>
        if e = 'u' then do
          let (c, rest) ← takeNumbered rest
          let (cs, rest) ← characters fuel rest
          return (c :: cs, rest)
        else do
          let c ← escaped? e
          let (cs, rest) ← characters fuel rest
          return (c :: cs, rest)
    else if c.toNat < 0x20 then none
    else do
      let (cs, rest) ← characters fuel rest
      return (c :: cs, rest)

/-- Takes digits off the front of a text. -/
def takeDigits (text : List Char) : List Char × List Char :=
  (text.takeWhile Char.isDigit, text.dropWhile Char.isDigit)

/-- Reads the fraction of a number, if there is one. -/
def fraction (text : List Char) : Option (Option (List Char) × List Char) :=
  match text with
  | '.' :: rest =>
    let (digits, rest) := takeDigits rest
    if digits.isEmpty then none else some (some digits, rest)
  | _ => some (none, text)

/-- Reads the exponent of a number, if there is one. -/
def exponent (text : List Char) : Option (Option (Bool × List Char) × List Char) :=
  match text with
  | e :: rest =>
    if e = 'e' || e = 'E' then
      let (negative, rest) := match rest with
        | '+' :: rest => (false, rest)
        | '-' :: rest => (true, rest)
        | rest => (false, rest)
      let (digits, rest) := takeDigits rest
      if digits.isEmpty then none else some (some (negative, digits), rest)
    else some (none, text)
  | [] => some (none, text)

/-- Reads a number. -/
def number (text : List Char) : Option (Document × List Char) := do
  let (negative, text) := match text with
    | '-' :: rest => (true, rest)
    | text => (false, text)
  let (whole, text) := takeDigits text
  if whole.isEmpty || (whole.length ≠ 1 && whole.head? == some '0') then none
  else
    let (fraction, text) ← fraction text
    let (exponent, text) ← exponent text
    let value ← NumberText.value? { negative, whole, fraction, exponent }
    return (value, text)

/-- Takes a word off the front of a text. -/
def word (w : List Char) (value : Document) (text : List Char) : Option (Document × List Char) :=
  if w.isPrefixOf text then some (value, text.drop w.length) else none

mutual

/-- Reads a value that may be nested to the given depth. -/
def value (fuel depth : Nat) (text : List Char) : Option (Document × List Char) :=
  match fuel with
  | 0 => none
  | fuel + 1 =>
    match skipBlanks text with
    | '"' :: rest => do
      let (cs, rest) ← characters (rest.length + 1) rest
      return (.text (String.ofList cs), rest)
    | '[' :: rest =>
      match depth with
      | 0 => none
      | depth + 1 =>
        match skipBlanks rest with
        | ']' :: rest => some (.list [], rest)
        | rest => do
          let (items, rest) ← elements fuel depth rest
          return (.list items, rest)
    | '\x7b' :: rest =>
      match depth with
      | 0 => none
      | depth + 1 =>
        match skipBlanks rest with
        | '\x7d' :: rest => some (.table [], rest)
        | rest => do
          let (entries, rest) ← members fuel depth rest
          return (.table entries, rest)
    | 't' :: rest => word ['r', 'u', 'e'] (.bool true) rest
    | 'f' :: rest => word ['a', 'l', 's', 'e'] (.bool false) rest
    | 'n' :: rest => word ['u', 'l', 'l'] .null rest
    | text => number text

/-- Reads the elements of a list, up to the closing bracket; there is at least one. -/
def elements (fuel depth : Nat) (text : List Char) : Option (List Document × List Char) :=
  match fuel with
  | 0 => none
  | fuel + 1 => do
    let (item, rest) ← value fuel depth text
    match skipBlanks rest with
    | ',' :: rest =>
      let (items, rest) ← elements fuel depth rest
      return (item :: items, rest)
    | ']' :: rest => return ([item], rest)
    | _ => none

/-- Reads the entries of a table, up to the closing brace; there is at least one. -/
def members (fuel depth : Nat) (text : List Char) :
    Option (List (Document × Document) × List Char) :=
  match fuel with
  | 0 => none
  | fuel + 1 =>
    match skipBlanks text with
    | '"' :: rest => do
      let (cs, rest) ← characters (rest.length + 1) rest
      match skipBlanks rest with
      | ':' :: rest =>
        let (item, rest) ← value fuel depth rest
        let entry := (Document.text (String.ofList cs), item)
        match skipBlanks rest with
        | ',' :: rest =>
          let (entries, rest) ← members fuel depth rest
          return (entry :: entries, rest)
        | '\x7d' :: rest => return ([entry], rest)
        | _ => none
      | _ => none
    | _ => none

end

/-- How deep values may be nested. -/
def maxDepth : Nat := 127

/-- Reads a text that is one value with blanks around it. -/
def read? (text : String) : Option Document := do
  let (document, rest) ← value (2 * text.length + 2) maxDepth text.toList
  if (skipBlanks rest).isEmpty then some document else none

end Json

end MacroTrace
