/-!
# Text as bytes

Everything this library writes is text in UTF-8, while a file may hold any bytes. `encode` turns
text into bytes. Reading is one scanner, `Utf8.split`, which takes the first scalar value off a
byte sequence or else drops the longest part that no continuation could complete; the strict
reader `decode?` refuses such parts and the lenient reader `decodeLossy` puts `U+FFFD` in their
place.
-/

namespace MacroTrace

/-- A byte sequence, as a file or a stream holds it. -/
abbrev Bytes := List UInt8

namespace Utf8

/-- The UTF-8 form of a text. -/
def encode (text : String) : Bytes :=
  text.toList.flatMap String.utf8EncodeChar

@[simp] theorem encode_empty : encode "" = [] := by
  simp [encode]

/-- Encoding goes character by character. -/
@[simp] theorem encode_append (a b : String) : encode (a ++ b) = encode a ++ encode b := by
  simp [encode]

/-- The number of bytes a sequence with this first byte has, with the bounds its second byte must
keep; `none` for a byte that starts no sequence. -/
def lead? (b : UInt8) : Option (Nat × UInt8 × UInt8) :=
  if b < 0x80 then some (1, 0x80, 0xBF)
  else if b < 0xC2 then none
  else if b < 0xE0 then some (2, 0x80, 0xBF)
  else if b = 0xE0 then some (3, 0xA0, 0xBF)
  else if b = 0xED then some (3, 0x80, 0x9F)
  else if b < 0xF0 then some (3, 0x80, 0xBF)
  else if b = 0xF0 then some (4, 0x90, 0xBF)
  else if b < 0xF4 then some (4, 0x80, 0xBF)
  else if b = 0xF4 then some (4, 0x80, 0x8F)
  else none

/-- The low six bits of a continuation byte. -/
def payload (b : UInt8) : Nat := b.toNat % 64

/-- Whether a byte continues a sequence. -/
def continues (b : UInt8) : Bool := 0x80 ≤ b && b ≤ 0xBF

/-- Takes the first scalar value off `b :: rest`. The number is how many bytes of `rest` belong to
it, or, without a scalar value, to the part that has to be dropped with `b`. -/
def split (b : UInt8) (rest : Bytes) : Option Char × Nat :=
  match lead? b with
  | none => (none, 0)
  | some (1, _, _) => (some (Char.ofNat b.toNat), 0)
  | some (width, low, high) =>
    match rest with
    | [] => (none, 0)
    | c :: rest =>
      if c < low || high < c then (none, 0)
      else if width = 2 then (some (Char.ofNat (b.toNat % 32 * 64 + payload c)), 1)
      else match rest with
        | [] => (none, 1)
        | d :: rest =>
          if !continues d then (none, 1)
          else if width = 3 then
            (some (Char.ofNat (b.toNat % 16 * 4096 + payload c * 64 + payload d)), 2)
          else match rest with
            | [] => (none, 2)
            | e :: _ =>
              if !continues e then (none, 2)
              else (some (Char.ofNat (b.toNat % 8 * 262144 + payload c * 4096 + payload d * 64
                + payload e)), 3)

/-- The scalar values of a byte sequence in order, `none` standing for each part dropped. -/
def scalars : Bytes → List (Option Char)
  | [] => []
  | b :: rest =>
    let (c, n) := split b rest
    c :: scalars (rest.drop n)
termination_by bytes => bytes.length
decreasing_by simp only [List.length_drop, List.length_cons]; omega

/-- Reads a text whose every byte belongs to a scalar value. -/
def decode? (bytes : Bytes) : Option String :=
  ((scalars bytes).mapM id).map String.ofList

/-- Reads a text, `U+FFFD` standing for each part that encodes nothing. -/
def decodeLossy (bytes : Bytes) : String :=
  String.ofList ((scalars bytes).map (·.getD '\uFFFD'))

end Utf8

end MacroTrace
