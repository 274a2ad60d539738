/-!
# Debug levels

A debug level is a set of facets, each of which adds something to the trace or asks for a further
kind of debug message. A level is written as a string of flags, one letter a facet, with `V` for
all of them. Reading takes the union of the letters, so that neither order nor repetition matters;
printing lists the letters in one fixed order.
-/

namespace MacroTrace

/-- One independent aspect of debug output. -/
inductive Facet
  /-- Show the arguments of traced calls. -/
  | args
  /-- Show the expansion of traced calls. -/
  | expansion
  /-- Put quotes around arguments and expansions. -/
  | quote
  /-- Trace every call, and not only those marked for tracing. -/
  | everyCall
  /-- Show the current input line. -/
  | line
  /-- Show the current input file. -/
  | file
  /-- Report the search of include paths. -/
  | path
  /-- Trace a call before and after expansion, on lines of their own. -/
  | call
  /-- Report changes of the input file. -/
  | input
  /-- Show the number of the call. -/
  | callId
deriving DecidableEq, Repr

namespace Facet

/-- Every facet, in the order in which their letters are printed. -/
def order : List Facet :=
  [args, expansion, quote, everyCall, line, file, path, call, input, callId]

/-- The letter of a facet. -/
def flag : Facet → Char
  | args => 'a'
  | expansion => 'e'
  | quote => 'q'
  | everyCall => 't'
  | line => 'l'
  | file => 'f'
  | path => 'p'
  | call => 'c'
  | input => 'i'
  | callId => 'x'

/-- The position of a facet's bit in a level. -/
def index : Facet → Nat
  | args => 0
  | expansion => 1
  | quote => 2
  | everyCall => 3
  | line => 4
  | file => 5
  | path => 6
  | call => 7
  | input => 8
  | callId => 9

/-- The facet a letter stands for. -/
def ofFlag? (c : Char) : Option Facet := order.find? (·.flag == c)

end Facet

/-- A set of facets, one bit each. -/
structure Level where
  /-- The bits, in the order of `Facet.index`. -/
  bits : BitVec 10
deriving DecidableEq, Repr

namespace Level

/-- The level without any facet. -/
def none : Level := ⟨0⟩

instance : Inhabited Level := ⟨none⟩

/-- The level of one facet alone. -/
def single (f : Facet) : Level := ⟨BitVec.twoPow 10 f.index⟩

/-- The level with every facet. -/
def verbose : Level := ⟨BitVec.allOnes 10⟩

/-- All facets of either level. -/
def union (a b : Level) : Level := ⟨a.bits ||| b.bits⟩

instance : Union Level := ⟨union⟩

/-- The level of an empty flag string, or of none: arguments and expansions, in quotes. -/
def standard : Level := single .args ∪ single .expansion ∪ single .quote

/-- The level with the given bits; those that stand for no facet are dropped. -/
def ofMask (mask : UInt32) : Level := ⟨mask.toBitVec.setWidth 10⟩

/-- The bits as a number. -/
def mask (l : Level) : Nat := l.bits.toNat

/-- Whether `a` has every facet that `b` has. -/
def contains (a b : Level) : Bool := a.bits &&& b.bits == b.bits

/-- Whether the level has a facet. -/
def has (l : Level) (f : Facet) : Bool := l.contains (single f)

/-- Whether the level has no facet. -/
def isEmpty (l : Level) : Bool := l.bits == 0

/-- The letters of the level's facets, in the fixed order. -/
def text (l : Level) : String := String.ofList ((Facet.order.filter l.has).map Facet.flag)

/-- The level a letter stands for: its facet, or all of them for `V`. -/
def ofFlag? (c : Char) : Option Level :=
  if c = 'V' then some verbose else (Facet.ofFlag? c).map single

end Level

/-- A letter in a flag string that stands for no level. -/
structure BadFlag where
  /-- The letter. -/
  flag : Char
  /-- How many characters stand before it. -/
  position : Nat
  /-- The whole flag string. -/
  flags : String
deriving DecidableEq, Repr

namespace Level

/-- Adds the levels of the letters to `l`, up to the first letter that stands for none; `position`
counts the letters already read. -/
def addFlags (flags : String) : List Char → Nat → Level → Except BadFlag Level
  | [], _, l => .ok l
  | c :: rest, position, l =>
    match ofFlag? c with
    | some m => addFlags flags rest (position + 1) (l ∪ m)
    | .none => .error ⟨c, position, flags⟩

/-- Reads a flag string. No string, and the empty one, stand for the standard level. -/
def decode (flags : Option String) : Except BadFlag Level :=
  match flags with
  | .none => .ok standard
  | some flags =>
    if flags.isEmpty then .ok standard else addFlags flags flags.toList 0 none

end Level

end MacroTrace
