import MacroTrace.Stream.Port
/-!
# Where bytes land

What standard output is given does not arrive at once at the place it leads to: some of it may be
held back until the next flush. How much is a matter of the stream alone, its `BufferPolicy`. What
standard error is given arrives at once. `land` says what arrives, and in which order. A stream may
also lead to a device that is full; then it is `Behaviour.full`.

Whatever the policy, nothing is lost, doubled or put out of order on the way through one port
(`through_err_land`, `through_out_land`): policies differ only in how the two ports interleave.
-/

namespace MacroTrace

/-- How standard output buffers: of the bytes that it holds and those that come in, one after the
other, it hands on this many. -/
abbrev BufferPolicy := (held incoming : Bytes) → Nat

namespace BufferPolicy

/-- The byte that ends a line. -/
def newline : UInt8 := 10

/-- How many bytes are held at most when lines are handed on as they are completed. -/
def lineCapacity : Nat := 1024

/-- Hands on complete lines, and holds back the start of a line as long as there is room. -/
def byLine : BufferPolicy := fun held incoming =>
  let tail := (incoming.reverse.takeWhile (· != newline)).length
  if tail < incoming.length then
    held.length + (if tail < lineCapacity then incoming.length - tail else incoming.length)
  else if lineCapacity < held.length + incoming.length then
    held.length + (if incoming.length < lineCapacity then 0 else incoming.length)
  else if held.isEmpty && lineCapacity ≤ incoming.length then incoming.length
  else 0

/-- Hands everything on. -/
def immediate : BufferPolicy := fun held incoming => held.length + incoming.length

end BufferPolicy

namespace Behaviour

/-- The bytes of the requests that a port has carried out. -/
def taken (colours : Bool) (past : List (Request × Reply)) : Bytes :=
  past.reverse.flatMap fun (request, reply) =>
    if reply = .done then request.bytes colours else []

/-- Leads to a device that is full: takes what can be held back, and refuses whatever would have to
be handed on. -/
def full (policy : BufferPolicy) (colours : Bool) : Behaviour := fun past request =>
  let held := taken colours past
  let due := match request with
    | .flush => held.length
    | request => policy held (request.bytes colours)
  if due = 0 then .done else .refused 0 .noSpace

end Behaviour

/-- Bytes that arrive by way of a port. -/
structure Arrival where
  /-- The port. -/
  port : Port
  /-- The bytes. -/
  bytes : Bytes
deriving DecidableEq, Repr

/-- What arrives of a log, and what standard output holds in the end. -/
def land (policy : BufferPolicy) (held : Bytes) : List Event → List Arrival × Bytes
  | [] => ([], held)
  | .wrote .out bytes :: rest =>
    let n := policy held bytes
    let (arrivals, final) := land policy ((held ++ bytes).drop n) rest
    (⟨.out, (held ++ bytes).take n⟩ :: arrivals, final)
  | .flushed .out :: rest =>
    let (arrivals, final) := land policy [] rest
    (⟨.out, held⟩ :: arrivals, final)
  | .wrote .err bytes :: rest =>
    let (arrivals, final) := land policy held rest
    (⟨.err, bytes⟩ :: arrivals, final)
  | .flushed .err :: rest => land policy held rest

/-- What arrives of a log when standard output hands on in the end what it still holds. -/
def landAll (policy : BufferPolicy) (log : List Event) : List Arrival :=
  let (arrivals, held) := land policy [] log
  arrivals ++ [⟨.out, held⟩]

/-- The bytes that arrive at a place where both ports lead. -/
def Arrival.together (arrivals : List Arrival) : Bytes := arrivals.flatMap (·.bytes)

/-- The bytes that arrive by way of one port. -/
def Arrival.through (port : Port) (arrivals : List Arrival) : Bytes :=
  together (arrivals.filter (·.port = port))

namespace Arrival

@[simp] theorem through_nil (p : Port) : through p [] = [] := rfl

@[simp] theorem through_cons_same (p : Port) (bytes : Bytes) (rest : List Arrival) :
    through p (⟨p, bytes⟩ :: rest) = bytes ++ through p rest := by
  simp [through, together]

theorem through_cons_other {p q : Port} (h : q ≠ p) (bytes : Bytes) (rest : List Arrival) :
    through p (⟨q, bytes⟩ :: rest) = through p rest := by
  simp [through, h]

/-- Standard error hands everything on. -/
theorem through_err_land (policy : BufferPolicy) (held : Bytes) (log : List Event) :
    through .err (land policy held log).1 = log.flatMap (Event.bytesTo .err) := by
  induction log generalizing held with
  | nil => rfl
  | cons event rest ih =>
    rcases event with ⟨_ | _, bytes⟩ | ⟨_ | _⟩ <;>
      simp [land, Event.bytesTo, through_cons_other, ih]

/-- What standard output has handed on and what it still holds are all that it was given. -/
theorem through_out_land (policy : BufferPolicy) (held : Bytes) (log : List Event) :
    through .out (land policy held log).1 ++ (land policy held log).2
      = held ++ log.flatMap (Event.bytesTo .out) := by
  induction log generalizing held with
  | nil => simp [land]
  | cons event rest ih =>
    rcases event with ⟨_ | _, bytes⟩ | ⟨_ | _⟩
    · simp only [land, through_cons_same, List.append_assoc, ih, Event.bytesTo, List.flatMap_cons,
        if_true]
      rw [← List.append_assoc, List.take_append_drop, List.append_assoc]
    · simp [land, Event.bytesTo, through_cons_other, ih]
    · simp [land, Event.bytesTo, ih]
    · simp [land, Event.bytesTo, ih]

end Arrival

end MacroTrace
