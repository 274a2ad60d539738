import MacroTrace.Stream.Landing
/-!
# In which order bytes arrive where both standard streams lead

`Lands` says what may arrive of a log if nothing is known about how standard output buffers: it may
hand on the beginning of what it holds at any time, and has to hand on all of it when it is flushed.
`land` is the case of a fixed policy (`lands_land`). If standard error is only written while
standard output holds nothing (`Event.orderly`), then the bytes arrive in the order of the log,
however standard output buffers.
-/

namespace MacroTrace

/-- What arrives of a log, and what standard output holds in the end, if it holds `held` first. -/
inductive Lands : Bytes → List Event → List Arrival → Bytes → Prop
  /-- Nothing happens. -/
  | done (held : Bytes) : Lands held [] [] held
  /-- Standard output hands on the beginning of what it holds. -/
  | handOn {later : Bytes} {log : List Event} {arrivals : List Arrival} {final : Bytes}
      (first : Bytes) (h : Lands later log arrivals final) :
      Lands (first ++ later) log (⟨.out, first⟩ :: arrivals) final
  /-- Standard output takes bytes. -/
  | out {held bytes : Bytes} {log : List Event} {arrivals : List Arrival} {final : Bytes}
      (h : Lands (held ++ bytes) log arrivals final) :
      Lands held (.wrote .out bytes :: log) arrivals final
  /-- Standard error takes bytes, and hands them on. -/
  | err {held bytes : Bytes} {log : List Event} {arrivals : List Arrival} {final : Bytes}
      (h : Lands held log arrivals final) :
      Lands held (.wrote .err bytes :: log) (⟨.err, bytes⟩ :: arrivals) final
  /-- Standard output is flushed. -/
  | flushOut {held : Bytes} {log : List Event} {arrivals : List Arrival} {final : Bytes}
      (h : Lands [] log arrivals final) :
      Lands held (.flushed .out :: log) (⟨.out, held⟩ :: arrivals) final
  /-- Standard error is flushed. -/
  | flushErr {held : Bytes} {log : List Event} {arrivals : List Arrival} {final : Bytes}
      (h : Lands held log arrivals final) : Lands held (.flushed .err :: log) arrivals final

/-- A fixed policy is one way to buffer. -/
theorem lands_land (policy : BufferPolicy) (held : Bytes) (log : List Event) :
    Lands held log (land policy held log).1 (land policy held log).2 := by
  induction log generalizing held with
  | nil => exact .done held
  | cons event rest ih =>
    cases event with
    | wrote port bytes =>
      cases port with
      | out =>
        have hsplit : (held ++ bytes).take (policy held bytes) ++
            (held ++ bytes).drop (policy held bytes) = held ++ bytes := List.take_append_drop _ _
        refine .out ?_
        rw [← hsplit]
        exact .handOn _ (ih _)
      | err => exact .err (ih held)
    | flushed port =>
      cases port with
      | out => exact .flushOut (ih [])
      | err => exact .flushErr (ih held)

namespace Event

/-- The bytes that an event brings to either port. -/
def bytes : Event → Bytes
  | wrote _ bytes => bytes
  | flushed _ => []

/-- Whether standard output may hold something after an event, if it may before. -/
def holdsAfter (holds : Bool) : Event → Bool
  | wrote .out _ => true
  | flushed .out => false
  | _ => holds

/-- Whether standard error is only written while standard output holds nothing. -/
def orderly (holds : Bool) : List Event → Bool
  | [] => true
  | event :: rest =>
    (match event with
      | wrote .err _ => !holds
      | _ => true) && orderly (event.holdsAfter holds) rest

theorem orderly_append (holds : Bool) (a b : List Event) :
    orderly holds (a ++ b) = (orderly holds a && orderly (a.foldl holdsAfter holds) b) := by
  induction a generalizing holds with
  | nil => rfl
  | cons event rest ih => simp only [List.cons_append, orderly, ih, List.foldl_cons, Bool.and_assoc]

end Event

/-- What has arrived and what is still held are together what was held first and all that was
written, in order, if standard error never comes before something that is held. Nothing is held once
standard output has been flushed for the last time. -/
theorem Lands.in_order {held final : Bytes} {log : List Event} {arrivals : List Arrival}
    (h : Lands held log arrivals final) {holds : Bool} (horderly : Event.orderly holds log)
    (hholds : holds = false → held = []) :
    Arrival.together arrivals ++ final = held ++ log.flatMap Event.bytes ∧
      (log.foldl Event.holdsAfter holds = false → final = []) := by
  induction h generalizing holds with
  | done held => exact ⟨by simp [Arrival.together], hholds⟩
  | handOn first _ ih =>
    have hlater := ih horderly fun hno => (List.append_eq_nil_iff.mp (hholds hno)).2
    refine ⟨?_, hlater.2⟩
    simp only [Arrival.together, List.flatMap_cons, List.append_assoc] at hlater ⊢
    rw [hlater.1]
  | out _ ih =>
    have hrest : Event.orderly true _ := (Bool.and_eq_true_iff.mp horderly).2
    have hlater := ih hrest fun hno => by cases hno
    refine ⟨?_, hlater.2⟩
    rw [hlater.1, List.flatMap_cons, Event.bytes, List.append_assoc]
  | err _ ih =>
    -- What is written here overtakes what is held, so nothing may be.
    obtain ⟨hno, hrest⟩ := Bool.and_eq_true_iff.mp horderly
    have hnone : holds = false := by simpa using hno
    have hlater := ih hrest hholds
    refine ⟨?_, hlater.2⟩
    rw [hholds hnone] at hlater ⊢
    simp only [Arrival.together, List.flatMap_cons, List.append_assoc, Event.bytes] at hlater ⊢
    rw [hlater.1]
    rfl
  | flushOut _ ih =>
    have hrest : Event.orderly false _ := (Bool.and_eq_true_iff.mp horderly).2
    have hlater := ih hrest fun _ => rfl
    refine ⟨?_, hlater.2⟩
    simp only [Arrival.together, List.flatMap_cons, List.append_assoc, Event.bytes] at hlater ⊢
    rw [hlater.1]
  | flushErr _ ih =>
    have hrest : Event.orderly holds _ := (Bool.and_eq_true_iff.mp horderly).2
    have hlater := ih hrest hholds
    refine ⟨?_, hlater.2⟩
    rw [hlater.1, List.flatMap_cons, Event.bytes, List.nil_append]

end MacroTrace
