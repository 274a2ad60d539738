import MacroTrace.Text.Utf8
/-!
# The line buffer

A line of output is put together piece by piece and then handed on in one write. The buffer only
grows, until the line is taken out of it (`take`) or thrown away (`clear`).
-/

namespace MacroTrace

/-- The bytes of a line that is still being put together. -/
structure LineBuffer where
  /-- What has been appended so far, oldest first. -/
  bytes : Bytes := []
deriving DecidableEq, Repr

namespace LineBuffer

/-- A buffer holding nothing. -/
def empty : LineBuffer := {}

instance : Inhabited LineBuffer := ⟨empty⟩

/-- The number of bytes held. -/
def length (b : LineBuffer) : Nat := b.bytes.length

/-- Whether nothing is held. -/
def isEmpty (b : LineBuffer) : Bool := b.bytes.isEmpty

/-- Appends one byte. -/
def pushByte (b : LineBuffer) (byte : UInt8) : LineBuffer := ⟨b.bytes ++ [byte]⟩

/-- Appends bytes. -/
def pushBytes (b : LineBuffer) (bytes : Bytes) : LineBuffer := ⟨b.bytes ++ bytes⟩

/-- Appends a text. -/
def pushText (b : LineBuffer) (text : String) : LineBuffer := b.pushBytes (Utf8.encode text)

/-- Takes the contents out; the buffer that stays behind is empty. -/
def take (b : LineBuffer) : Bytes × LineBuffer := (b.bytes, empty)

/-- Throws the contents away. -/
def clear (_ : LineBuffer) : LineBuffer := empty

@[simp] theorem bytes_empty : empty.bytes = [] := rfl

@[simp] theorem bytes_pushBytes (b : LineBuffer) (bytes : Bytes) :
    (b.pushBytes bytes).bytes = b.bytes ++ bytes := rfl

@[simp] theorem bytes_pushText (b : LineBuffer) (text : String) :
    (b.pushText text).bytes = b.bytes ++ Utf8.encode text := rfl

/-- Texts pushed one after the other are their concatenation pushed at once. -/
theorem pushText_append (b : LineBuffer) (s t : String) :
    (b.pushText s).pushText t = b.pushText (s ++ t) := by
  simp [pushText, pushBytes]

end LineBuffer

end MacroTrace
