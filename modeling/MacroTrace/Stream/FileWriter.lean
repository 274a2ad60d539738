import MacroTrace.Storage.FileStore
/-!
# Writing to the debug file

Debug output to a file goes through a buffer of fixed size. What is written is held back until the
buffer would overflow or is flushed, and a write that is as large as the whole buffer goes straight
to the file. At every moment the file and the held bytes together are all that was written.
-/

namespace MacroTrace

/-- A file open for appending, and what is held back from it. -/
structure FileWriter where
  /-- The path by which the file was opened. -/
  path : String
  /-- The file. -/
  node : Nat
  /-- The bytes that have not reached the file yet. -/
  held : Bytes := []
deriving DecidableEq, Repr

namespace FileWriter

/-- How many bytes the buffer holds. -/
def capacity : Nat := 8192

/-- Hands all held bytes to the file. When the file refuses them they stay held. -/
def flush (w : FileWriter) (s : FileStore) : Except SystemError Unit × FileWriter × FileStore :=
  if w.held.isEmpty then (.ok (), w, s)
  else match s.append w.node w.held with
    | .ok s => (.ok (), { w with held := [] }, s)
    | .error cause => (.error cause, w, s)

/-- Takes bytes that may fill the buffer: whatever would not fit beside them goes to the file
first, and bytes that fill the whole buffer by themselves go to the file as well. -/
def writeLarge (w : FileWriter) (bytes : Bytes) (s : FileStore) :
    Except SystemError Unit × FileWriter × FileStore :=
  let (flushed, w, s) :=
    if capacity < w.held.length + bytes.length then w.flush s else (.ok (), w, s)
  match flushed with
  | .error cause => (.error cause, w, s)
  | .ok () =>
    if capacity ≤ bytes.length then
      match s.append w.node bytes with
      | .ok s => (.ok (), w, s)
      | .error cause => (.error cause, w, s)
    else (.ok (), { w with held := w.held ++ bytes }, s)

/-- Writes bytes. -/
def write (w : FileWriter) (bytes : Bytes) (s : FileStore) :
    Except SystemError Unit × FileWriter × FileStore :=
  if w.held.length + bytes.length < capacity then
    (.ok (), { w with held := w.held ++ bytes }, s)
  else w.writeLarge bytes s

/-- Lets go of the file. Held bytes that the file refuses are lost. -/
def close (w : FileWriter) (s : FileStore) : FileStore := (w.flush s).2.2

end FileWriter

end MacroTrace
