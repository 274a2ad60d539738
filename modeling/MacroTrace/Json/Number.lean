import MacroTrace.Document.Basic
import MacroTrace.Numeric.Binary64
/-!
# Numbers in JSON

A number is an integer if it is written without fraction and exponent and fits into 64 bits, with or
without a sign; minus zero does not count as an integer. Any other number is taken as a binary
floating point number: the digits that fit into 64 bits make up its significand, and all later
digits only shift it.
-/

namespace MacroTrace

namespace Json

/-- A number as it is written. -/
structure NumberText where
  /-- Whether a minus sign is in front. -/
  negative : Bool
  /-- The digits in front of the point. -/
  whole : List Char
  /-- The digits behind the point, if there is one. -/
  fraction : Option (List Char)
  /-- The exponent, if there is one: whether it is negative, and its digits. -/
  exponent : Option (Bool × List Char)
deriving DecidableEq, Repr

/-- The value of a decimal digit. -/
def digitValue (c : Char) : Nat := c.toNat - '0'.toNat

/-- Adds digits to a number as long as it stays below `2 ^ 64`; the rest are those not added. -/
def absorb (n : Nat) : List Char → Nat × List Char
  | [] => (n, [])
  | c :: rest =>
    let m := n * 10 + digitValue c
    if m < UInt64.size then absorb m rest else (n, c :: rest)

/-- The significand of a number and the exponent of ten that its digits alone give it. -/
def significand (t : NumberText) : Nat × Int :=
  let (n, surplus) := absorb 0 t.whole
  match t.fraction with
  | none => (n, surplus.length)
  | some digits =>
    let (m, rest) := absorb n digits
    (m, (surplus.length : Int) - (digits.length - rest.length : Nat))

/-- The largest exponent that is taken at its word. -/
def maxExponent : Nat := 0x7FFFFFFF

/-- The floating point number that a text stands for, without its sign; `none` if it is too
large. -/
def float? (t : NumberText) : Option Binary64 :=
  let (n, shift) := significand t
  match t.exponent with
  | none => Binary64.ofDecimal? n shift
  | some (negative, digits) =>
    let e := digits.foldl (fun e c => min (e * 10 + digitValue c) (maxExponent + 1)) 0
    if maxExponent < e then
      if n = 0 || negative then some .zero else none
    else Binary64.ofDecimal? n (if negative then shift - e else shift + e)

/-- Whether the number at this position of its first digit is written without an exponent. -/
def isPlain (position : Int) : Bool := -5 ≤ position && position ≤ 15

/-- The text of a floating point number: its shortest decimal, with a point and at least one digit
on either side of it, or with an exponent if it is very large or small. -/
def floatText (negative : Bool) (x : Binary64) : String :=
  let body : List Char :=
    if x.mantissa = 0 then ['0', '.', '0']
    else
      let (n, position) := x.shortest
      let digits := (Nat.toDigits 10 n).reverse.dropWhile (· == '0') |>.reverse
      if !isPlain position then
        let e := Nat.toDigits 10 position.natAbs
        digits.take 1 ++ (if digits.length = 1 then [] else '.' :: digits.drop 1)
          ++ ['e', if position < 0 then '-' else '+'] ++ e
      else if position < 0 then
        ['0', '.'] ++ List.replicate (position.natAbs - 1) '0' ++ digits
      else
        let whole := position.toNat + 1
        if digits.length ≤ whole then
          digits ++ List.replicate (whole - digits.length) '0' ++ ['.', '0']
        else digits.take whole ++ ['.'] ++ digits.drop whole
  String.ofList (if negative then '-' :: body else body)

/-- What a number stands for; `none` if it is too large. -/
def NumberText.value? (t : NumberText) : Option Document :=
  let asFloat := (float? t).map fun x => Document.float (floatText t.negative x)
  if t.fraction.isNone && t.exponent.isNone then
    match absorb 0 t.whole with
    | (n, []) =>
      if !t.negative then some (.int n)
      else if n ≠ 0 && n ≤ 0x8000000000000000 then some (.int (-n))
      else asFloat
    | _ => asFloat
  else asFloat

end Json

end MacroTrace
