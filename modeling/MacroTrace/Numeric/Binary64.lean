/-!
# Binary floating point numbers

The positive numbers of the 64-bit binary format, held exactly as `mantissa * 2 ^ exponent`, with
rounding to the nearest of them and the shortest decimal that reads back as one of them. All of it
is done in natural numbers.
-/

namespace MacroTrace

/-- A number of the 64-bit binary format that is not negative. The mantissa is below `2 ^ 53`, and
it is at least `2 ^ 52` unless the exponent is the smallest one. -/
structure Binary64 where
  /-- The mantissa. -/
  mantissa : Nat
  /-- The exponent of two. -/
  exponent : Int
deriving DecidableEq, Repr

namespace Binary64

/-- The smallest exponent. -/
def leastExponent : Int := -1074

/-- The largest exponent. -/
def mostExponent : Int := 971

/-- The number zero. -/
def zero : Binary64 := ⟨0, leastExponent⟩

/-- `n / d` over `2 ^ e`, as a fraction. -/
def scaled (n d : Nat) (e : Int) : Nat × Nat :=
  if 0 ≤ e then (n, d * Nat.pow 2 e.toNat) else (n * Nat.pow 2 (-e).toNat, d)

/-- The number nearest to `n / d`, the one with the even mantissa if two are; `none` if `n / d` lies
beyond the largest number. -/
def ofRatio? (n d : Nat) : Option Binary64 :=
  if n = 0 || d = 0 then some zero
  else
    let guess : Int := (Nat.log2 n : Int) - Nat.log2 d - 52
    let fits (e : Int) : Bool := let (a, b) := scaled n d e; b * 0x10000000000000 ≤ a
    let e := if fits guess then guess else guess - 1
    let e := max e leastExponent
    let (a, b) := scaled n d e
    let down := a / b
    let rest := 2 * (a % b)
    let m := if b < rest || (rest = b && down % 2 = 1) then down + 1 else down
    let (m, e) := if m = 0x20000000000000 then (0x10000000000000, e + 1) else (m, e)
    if mostExponent < e then none else some ⟨m, e⟩

/-- The number as a fraction. -/
def ratio (x : Binary64) : Nat × Nat :=
  if 0 ≤ x.exponent then (x.mantissa * Nat.pow 2 x.exponent.toNat, 1)
  else (x.mantissa, Nat.pow 2 (-x.exponent).toNat)

/-- The nearest number to a product. -/
def mul? (x y : Binary64) : Option Binary64 :=
  ofRatio? (x.ratio.1 * y.ratio.1) (x.ratio.2 * y.ratio.2)

/-- The nearest number to a quotient. -/
def div? (x y : Binary64) : Option Binary64 :=
  ofRatio? (x.ratio.1 * y.ratio.2) (x.ratio.2 * y.ratio.1)

/-- The nearest number to a power of ten. -/
def powerOfTen? (k : Nat) : Option Binary64 := ofRatio? (Nat.pow 10 k) 1

/-- The nearest number to `significand * 10 ^ exponent`, with one rounding for the significand, one
for the power of ten and one for their product or quotient. Beyond the powers of ten that the format
has, an exponent is brought into range in steps of 308; `none` if the number is too large. -/
def ofDecimal? (significand : Nat) (exponent : Int) : Option Binary64 := do
  let x ← ofRatio? significand 1
  if x.mantissa = 0 then return zero
  if 308 < exponent then none
  else if 0 ≤ exponent then x.mul? (← powerOfTen? exponent.toNat)
  else
    let top ← powerOfTen? 308
    let down := (-exponent).toNat
    -- Two steps of 308 already take every number to zero.
    let x ← if 308 < down then x.div? top else some x
    let down := if 308 < down then down - 308 else down
    let x ← if 308 < down then x.div? top else some x
    let down := if 308 < down then down - 308 else down
    let x ← if 308 < down then x.div? top else some x
    if 308 < down then return zero
    x.div? (← powerOfTen? down)

/-! ## The shortest decimal -/

/-- The position of the first digit of `n / d`: the largest `p` with `10 ^ p ≤ n / d`. -/
def leadingPosition (n d : Nat) : Int :=
  if d ≤ n then ((Nat.toDigits 10 (n / d)).length : Int) - 1
  else
    let up := (d + n - 1) / n
    let k := (Nat.toDigits 10 up).length
    if d ≤ n * Nat.pow 10 (k - 1) then -((k : Int) - 1) else -(k : Int)

/-- The decimal with the fewest digits among those that are nearer to `x` than to any other number:
its digits as a number, and the position of the first one. Of two with the same number of digits the
nearer one counts. -/
def shortest (x : Binary64) : Nat × Int :=
  let (n, d) := x.ratio
  let p := leadingPosition n d
  -- In quarters of the unit of the last place: the half-way points to both neighbours.
  let below :=
    if x.mantissa = 0x10000000000000 && x.exponent ≠ leastExponent then 4 * x.mantissa - 1
    else 4 * x.mantissa - 2
  let above := 4 * x.mantissa + 2
  let (lowN, lowD) := scaled below 4 (-x.exponent)
  let (highN, highD) := scaled above 4 (-x.exponent)
  let closed := x.mantissa % 2 = 0
  let inside (a b : Nat) : Bool :=
    if closed then lowN * b ≤ a * lowD && a * highD ≤ highN * b
    else lowN * b < a * lowD && a * highD < highN * b
  let rounded? (k : Nat) : Option (Nat × Int) :=
    let unit : Int := p - k + 1
    let (a, b) :=
      if 0 ≤ unit then (n, d * Nat.pow 10 unit.toNat) else (n * Nat.pow 10 (-unit).toNat, d)
    let down := a / b
    let candidate (m : Nat) : Bool :=
      if 0 ≤ unit then inside (m * Nat.pow 10 unit.toNat) 1 else inside m (Nat.pow 10 (-unit).toNat)
    let rest := 2 * (a % b)
    let preferUp := b < rest || (rest = b && down % 2 = 1)
    let first := if preferUp then down + 1 else down
    let second := if preferUp then down else down + 1
    let settle (m : Nat) : Nat × Int :=
      if m = Nat.pow 10 k then (m / 10, p + 1) else (m, p)
    if candidate first && first ≠ 0 then some (settle first)
    else if candidate second && second ≠ 0 then some (settle second)
    else none
  ((List.range 17).findSome? fun k => rounded? (k + 1)).getD (0, 0)

end Binary64

end MacroTrace
