import MacroTrace.Blank
/-!
# Decimal arguments

A numeric argument is an optional sign and decimal digits, with blanks around them. Its value is
kept within the 64-bit integers by saturation: after each digit a value beyond the range is replaced
by the nearest one within.
-/

namespace MacroTrace

namespace Numeral

/-- The smallest value of a numeral. -/
def lowest : Int := -0x8000000000000000

/-- The largest value of a numeral. -/
def highest : Int := 0x7FFFFFFFFFFFFFFF

/-- The nearest value in range. -/
def saturate (n : Int) : Int := max lowest (min highest n)

/-- The value of a decimal digit. -/
def digitValue (c : Char) : Nat := c.toNat - '0'.toNat

/-- The value once another digit follows, for a numeral with or without a minus sign. -/
def extend (negative : Bool) (value : Int) (digit : Char) : Int :=
  let tenfold := saturate (value * 10)
  saturate (if negative then tenfold - digitValue digit else tenfold + digitValue digit)

/-- Takes a sign off the front of a text, and tells whether it was a minus sign. -/
def takeSign : List Char → Bool × List Char
  | '-' :: rest => (true, rest)
  | '+' :: rest => (false, rest)
  | text => (false, text)

/-- The text without the blanks at its front. -/
def skipBlanks (blanks : Blanks) (text : List Char) : List Char := text.dropWhile blanks

/-- Reads a text without blanks at its front: the value, if the text is a numeral with nothing but
blanks behind it. -/
def read? (blanks : Blanks) (text : List Char) : Option Int :=
  let (negative, unsigned) := takeSign text
  let digits := unsigned.takeWhile Char.isDigit
  let rest := unsigned.dropWhile Char.isDigit
  if digits.isEmpty then none
  else if (skipBlanks blanks rest).isEmpty then some (digits.foldl (extend negative) 0)
  else none

end Numeral

end MacroTrace
