import MacroTrace.Document.Basic
/-!
# Writing JSON

`Json.write` writes a document without blanks. A character of a string is written as it is, unless
it is a quote, a backslash or a control character; these have a short escape, or else one with
digits.
-/

namespace MacroTrace

namespace Json

/-- A character of a string. -/
def writeChar (c : Char) : List Char :=
  match c with
  | '"' => ['\\', '"']
  | '\\' => ['\\', '\\']
  | '\x08' => ['\\', 'b']
  | '\x0c' => ['\\', 'f']
  | '\n' => ['\\', 'n']
  | '\r' => ['\\', 'r']
  | '\t' => ['\\', 't']
  | c =>
    if c.toNat < 0x20 then
      ['\\', 'u', '0', '0', Nat.digitChar (c.toNat / 16), Nat.digitChar (c.toNat % 16)]
    else [c]

/-- A string between its quotes. -/
def writeText (s : String) : List Char := '"' :: (s.toList.flatMap writeChar ++ ['"'])

/-- An integer. -/
def writeInt (n : Int) : List Char :=
  (if n < 0 then ['-'] else []) ++ Nat.toDigits 10 n.natAbs

mutual

/-- A document. -/
def write : Document → List Char
  | .null => ['n', 'u', 'l', 'l']
  | .bool true => ['t', 'r', 'u', 'e']
  | .bool false => ['f', 'a', 'l', 's', 'e']
  | .int value => writeInt value
  | .float shown => shown.toList
  | .text value => writeText value
  | .list items => '[' :: (writeItems items ++ [']'])
  | .table entries => '\x7b' :: (writeEntries entries ++ ['\x7d'])

/-- The items of a list. -/
def writeItems : List Document → List Char
  | [] => []
  | [d] => write d
  | d :: ds => write d ++ ',' :: writeItems ds

/-- The entries of a table. -/
def writeEntries : List (Document × Document) → List Char
  | [] => []
  | [(key, d)] => write key ++ ':' :: write d
  | (key, d) :: entries => write key ++ ':' :: (write d ++ ',' :: writeEntries entries)

end

end Json

end MacroTrace
