import MacroTrace.Proofs.ArrivalOrder
import MacroTrace.Proofs.Complaint
/-!
# What a step has to say

Everything that a step of a replay puts into words is an `Utterance`: what the processor prints,
debug output, a report, and the last words of a program that ends itself. A step's utterances can be
told from the session before it (`Session.utterances`). What goes through the standard streams on
behalf of a step are its utterances, one after the other, unless a stream refuses something
(`Session.takeStep_follows`).
-/

namespace MacroTrace

/-! ## Utterances -/

/-- Something that is put into words. Debug output is written at once; a `flush` shows nothing, and
an `alarm` is a last flush and the report that the program ends itself. -/
inductive Utterance
  | printed (text : String)
  | debug (bytes : Bytes)
  | report (d : Diagnostic)
  | flush
  | alarm (program message : String)
deriving DecidableEq, Repr

/-- A text in a style, as a port shows it that may or may not show colours. -/
def Style.shown (colours : Bool) (style : Style) (text : String) : Bytes :=
  (if colours then Utf8.encode style.escapes else []) ++ Utf8.encode text
    ++ (if colours then Utf8.encode Style.plain else [])

/-- A report as a port shows it. -/
def Diagnostic.shown (colours : Bool) (d : Diagnostic) : Bytes :=
  Utf8.encode d.header
    ++ (if d.severity = .warning then Style.caution.shown colours warningMarker else [])
    ++ Utf8.encode (d.message ++ d.trailer ++ "\n")

/-- The report that the program ends itself, as a port shows it. -/
def alarmShown (colours : Bool) (program message : String) : Bytes :=
  Utf8.encode (program ++ ": ") ++ Style.alarm.shown colours alarmMarker
    ++ Utf8.encode (message ++ "\n")

/-- Without colours a report is its text. -/
theorem Diagnostic.shown_plain (d : Diagnostic) : d.shown false = Utf8.encode d.text := by
  unfold shown text Style.shown
  by_cases h : d.severity = .warning <;> simp [h, Utf8.encode_append]

namespace Utterance

/-- What goes through the standard streams on behalf of an utterance. -/
def events (outlet : Outlet) (colours : Bool) : Utterance → List Event
  | printed text => Ports.carried .out false [.write (Utf8.encode text)]
  | debug bytes =>
    match outlet with
    | .port p => Ports.carried p false [.write bytes]
    | _ => []
  | report d => Ports.carried .out false [.flush] ++ Ports.carried .err colours d.requests
  | flush => Ports.carried .out false [.flush] ++ Ports.carried .err false [.flush]
  | alarm program message =>
    Ports.carried .out false [.flush] ++ Ports.carried .err false [.flush]
      ++ Ports.carried .out false [.flush]
      ++ Ports.carried .err colours (alarmRequests program message)

/-- The bytes of an utterance that come to a place, if both standard streams lead there and debug
output may lead there as well. -/
def bytes (leadsThere colours : Bool) : Utterance → Bytes
  | printed text => Utf8.encode text
  | debug bytes => if leadsThere then bytes else []
  | report d => d.shown colours
  | flush => []
  | alarm program message => alarmShown colours program message

end Utterance

theorem Ports.bytes_carried (p : Port) (colours : Bool) (requests : List Request) :
    (carried p colours requests).flatMap Event.bytes =
      requests.flatMap (Request.bytes colours) := by
  induction requests with
  | nil => rfl
  | cons request rest ih =>
    rw [← List.singleton_append, carried_append, List.flatMap_append, List.flatMap_append, ih]
    congr 1
    cases request with
    | write bytes =>
      cases bytes <;> simp [carried, Request.isVoid, effect, Event.bytes, Request.bytes]
    | _ => simp [carried, Request.isVoid, effect, Event.bytes, Request.bytes]

theorem Diagnostic.bytes_requests (colours : Bool) (d : Diagnostic) :
    d.requests.flatMap (Request.bytes colours) = d.shown colours := by
  have htrailer : (if d.errnum = 0 then [] else [Request.write (Utf8.encode d.trailer)]).flatMap
      (Request.bytes colours) = Utf8.encode d.trailer := by
    by_cases he : d.errnum = 0
    · simp [he, trailer]
    · simp [he, Request.bytes]
  unfold requests shown
  simp only [List.flatMap_append, htrailer]
  by_cases h : d.severity = .warning <;>
    simp [h, Request.bytes, Style.shown, Utf8.encode_append]

theorem bytes_alarmRequests (colours : Bool) (program message : String) :
    (alarmRequests program message).flatMap (Request.bytes colours) =
      alarmShown colours program message := by
  simp [alarmRequests, alarmShown, Request.bytes, Style.shown, Utf8.encode_append]

/-! ## What utterances bring to the log -/

namespace Ports

theorem carried_write (p : Port) (colours colours' : Bool) (bytes : Bytes) :
    carried p colours [.write bytes] = carried p colours' [.write bytes] := by
  cases bytes <;> rfl

/-- What an operation in two parts brings to the log. If the first part fails, then because a port
refuses something, or the second part has nothing to bring. -/
theorem Follows.bind {ε σ α β : Type} (ports : σ → Ports) {x : EStateM ε σ α}
    {f : α → EStateM ε σ β} {s : σ} {a b : List Event}
    (hx : Follows a (ports s) (ports (stateAfter x s)))
    (hfail : ∀ e s', x s = .error e s' → b = [] ∨ ¬ (ports s').Unrefused)
    (hf : ∀ u s', x s = .ok u s' → Follows b (ports s') (ports (stateAfter (f u) s'))) :
    Follows (a ++ b) (ports s) (ports (stateAfter (x >>= f) s)) := by
  cases h : x s with
  | ok u s' =>
    rw [stateAfter_of_ok h] at hx
    rw [stateAfter_bind_of_ok h]
    exact hx.trans (hf u s' h)
  | error e s' =>
    rw [stateAfter_of_error h] at hx
    rw [stateAfter_bind_of_error h]
    rcases hfail e s' h with hnone | hrefused
    · rw [hnone, List.append_nil]
      exact hx
    · exact hx.of_refused hrefused

end Ports

namespace Outputs

theorem ports_onFile
    (action : FileWriter → FileStore → Except SystemError Unit × FileWriter × FileStore)
    (o : Outputs) : (stateAfter (onFile action) o).ports = o.ports := by
  cases ha : o.active with
  | file writer => rw [stateAfter_onFile ha]
  | _ => rw [stateAfter_of_ok (onFile_of_not_file (by simp [ha]))]

theorem onPorts_eq_error {α : Type} {action : EStateM SystemError Ports α} {o o' : Outputs}
    {cause : SystemError} (h : onPorts action o = .error cause o') :
    ∃ ports, action o.ports = .error cause ports ∧ o' = { o with ports } := by
  unfold onPorts at h
  split at h
  · cases h
  · rename_i ports ha
    cases h
    exact ⟨ports, ha, rfl⟩

section Logs

variable (colours : Bool) (bytes : Bytes) (text : String) (o : Outputs)

theorem ask_follows (p : Port) (request : Request) :
    Ports.Follows (Ports.carried p (o.ports.state p).colours [request]) o.ports
      (stateAfter (onPorts (Ports.ask p request)) o).ports := by
  rw [stateAfter_onPorts]
  exact Ports.ask_follows p request o.ports

theorem print_follows (outlet : Outlet) :
    Ports.Follows ((Utterance.printed text).events outlet colours) o.ports
      (stateAfter (onPorts (Ports.ask .out (.write (Utf8.encode text)))) o).ports := by
  show Ports.Follows (Ports.carried .out false [.write (Utf8.encode text)]) o.ports _
  rw [Ports.carried_write .out false (o.ports.state .out).colours]
  exact o.ask_follows .out _

theorem write_follows :
    Ports.Follows ((Utterance.debug bytes).events o.active.outlet colours) o.ports
      (stateAfter (write bytes) o).ports := by
  have hport : ∀ p, Ports.Follows (Ports.carried p false [.write bytes]) o.ports
      (stateAfter (onPorts (Ports.ask p (.write bytes))) o).ports := by
    intro p
    rw [Ports.carried_write p false (o.ports.state p).colours]
    exact o.ask_follows p _
  have hw := write_eq bytes o
  unfold Utterance.events Destination.outlet
  cases ha : o.active with
  | stderr =>
    simp only [ha] at hw
    rw [stateAfter_congr hw]
    exact hport .err
  | stdout =>
    simp only [ha] at hw
    rw [stateAfter_congr hw]
    exact hport .out
  | file writer =>
    simp only [ha] at hw
    rw [stateAfter_congr hw, ports_onFile]
    exact .refl _
  | discard =>
    simp only [ha] at hw
    rw [stateAfter_of_ok hw]
    exact .refl _

/-- A write that fails has been refused by a port, or does not concern the ports. -/
theorem write_fails {bytes : Bytes} {o o' : Outputs} {cause : SystemError}
    (h : write bytes o = .error cause o') :
    (∃ node, o.active.outlet = .file node) ∨ ¬ o'.ports.Unrefused := by
  have hport : ∀ p, onPorts (Ports.ask p (.write bytes)) o = .error cause o' →
      ¬ o'.ports.Unrefused := by
    intro p hp
    obtain ⟨ports, hask, rfl⟩ := onPorts_eq_error hp
    exact Ports.not_unrefused_of_ask hask
  rw [write_eq] at h
  cases ha : o.active with
  | stderr =>
    simp only [ha] at h
    exact .inr (hport .err h)
  | stdout =>
    simp only [ha] at h
    exact .inr (hport .out h)
  | file writer => exact .inl ⟨writer.node, rfl⟩
  | discard =>
    simp only [ha] at h
    cases h

theorem flushAll_follows (outlet : Outlet) :
    Ports.Follows (Utterance.flush.events outlet colours) o.ports
      (stateAfter flushAll o).ports := by
  have hrefused : ∀ p (o o' : Outputs) cause, onPorts (Ports.ask p .flush) o = .error cause o' →
      ¬ o'.ports.Unrefused := by
    intro p o o' cause h
    obtain ⟨ports, hask, rfl⟩ := onPorts_eq_error h
    exact Ports.not_unrefused_of_ask hask
  unfold Utterance.events flushAll
  refine Ports.Follows.bind Outputs.ports (o.ask_follows .out .flush)
    (fun e o' h => .inr (hrefused .out o o' e h)) fun _ o₁ _ => ?_
  rw [← List.append_nil (Ports.carried .err _ _)]
  refine Ports.Follows.bind Outputs.ports (o₁.ask_follows .err .flush)
    (fun _ _ _ => .inl rfl) fun _ o₂ _ => ?_
  rw [ports_onFile]
  exact .refl _

end Logs

end Outputs

namespace Ports

/-- Standard output is flushed before standard error is asked for anything. -/
theorem flush_askAll_follows (requests : List Request) (s : Ports) :
    Follows (carried .out false [.flush] ++ carried .err s.err.colours requests) s
      (stateAfter (askAll .err requests) (stateAfter (ask .out .flush) s)) := by
  have hflush := ask_follows .out .flush s
  have hrequests := askAll_follows .err requests (stateAfter (ask .out .flush) s)
  rw [hflush.colours .err] at hrequests
  exact hflush.trans hrequests

end Ports

/-- A report goes through as a whole, or something is refused, and the journal tells of it. -/
theorem Diagnostic.send_follows (d : Diagnostic) (s : Ports) (outlet : Outlet) :
    Ports.Follows ((Utterance.report d).events outlet s.err.colours) s (d.send s) := by
  have hshown := Ports.flush_askAll_follows d.requests s
  unfold send
  rw [Ports.after_eq]
  cases hasked : Ports.askAll .err d.requests (stateAfter (Ports.ask .out .flush) s) with
  | ok u s' =>
    rw [stateAfter_of_ok hasked] at hshown
    exact hshown
  | error cause s' =>
    rw [stateAfter_of_error hasked] at hshown
    exact hshown.note ..

theorem sendAlarm_follows (program message : String) (s : Ports) :
    Ports.Follows
      (Ports.carried .out false [.flush]
        ++ Ports.carried .err s.err.colours (alarmRequests program message))
      s (sendAlarm program message s) := by
  let noted := s.note .error "mtrace::report" s!"internal contract violation: {message}"
  have hnoted : Ports.Follows [] s noted := Ports.note_follows s ..
  have hall := hnoted.trans (Ports.flush_askAll_follows (alarmRequests program message) noted)
  unfold sendAlarm
  rw [Ports.after_eq, Ports.after_eq]
  exact hall

/-! ## What a step puts into words -/

namespace Session

/-- What the tracing of a call puts into words: the pending line, if the call ends it. -/
def traceUtterances (s : Session) (builtins : Registry) (phase : Phase) (traced : TracedCall) :
    List Utterance :=
  let line (text : String) := Utterance.debug (s.tracer.pending.bytes ++ Utf8.encode (text ++ "\n"))
  match phase with
  | .prepre => [line (s.traceSettings.prepreText traced.call)]
  | .pre =>
    match s.traceSettings.unknownBuiltin? builtins traced.call with
    | some id => [.alarm s.program (unknownBuiltinAlarm id traced.call)]
    | none =>
      if s.level.has .call then [line (s.traceSettings.preText builtins traced.call)] else []
  | .post => [line (s.traceSettings.postText traced.call traced.result)]

/-- What a step puts into words besides its complaint. -/
def workUtterances (s : Session) (builtins : Registry) : Step → List Utterance
  | .trace phase traced => s.traceUtterances builtins phase traced
  | .message text =>
    [.debug (Utf8.encode (messageHeader s.program s.level s.location)),
      .debug (Utf8.encode text), .debug (Utf8.encode "\n")]
  | .output text => [.printed text]
  | .argc check => [.printed s!"{check.isEmpty}\n"]
  | .numeric check => (check.value? s.blanks).toList.map fun value => .printed s!"{value}\n"
  | .dumpArgs dump => [.printed (s.dumpArgs dump.args dump.separator dump.isQuoted ++ "\n")]
  | .flush => [.flush]
  | _ => []

/-- What a step puts into words. A complaint that ends the run is its last word. -/
def utterances (s : Session) (builtins : Registry) (step : Step) : List Utterance :=
  match s.complaint? step with
  | none => s.workUtterances builtins step
  | some c =>
    (if s.drops c then [] else [.report (s.diagnostic c)]) ++
      match (s.reporter.note c).1 with
      | .ok () => s.workUtterances builtins step
      | .error _ => []

/-- What goes through the standard streams on behalf of utterances. -/
def eventsOf (s : Session) (utterances : List Utterance) : List Event :=
  utterances.flatMap
    (·.events s.outputs.active.outlet s.outputs.ports.err.colours)

theorem eventsOf_append (s : Session) (a b : List Utterance) :
    s.eventsOf (a ++ b) = s.eventsOf a ++ s.eventsOf b := by
  simp [eventsOf]

/-! ### Work -/

theorem outputs_onOutputs {ε α : Type} (action : EStateM ε Outputs α) (s : Session) :
    (stateAfter (onOutputs action) s).outputs = stateAfter action s.outputs := by
  unfold onOutputs outputs
  rw [stateAfter_onTracer]
  unfold stateAfter Tracer.onOutputs
  cases action s.tracer.outputs <;> rfl

theorem onOutputs_eq_error {ε α : Type} {action : EStateM ε Outputs α} {s s' : Session} {e : ε}
    (h : onOutputs action s = .error e s') : action s.outputs = .error e s'.outputs := by
  unfold onOutputs onTracer Tracer.onOutputs at h
  unfold outputs
  cases ha : action s.tracer.outputs with
  | ok a outputs =>
    rw [ha] at h
    cases h
  | error e outputs =>
    rw [ha] at h
    cases h
    rfl

theorem print_follows (text : String) (s : Session) :
    Ports.Follows (s.eventsOf [.printed text]) s.outputs.ports
      (stateAfter (print text) s).outputs.ports := by
  unfold print whileDoing writeOut eventsOf
  rw [stateAfter_mapError, outputs_onOutputs, List.flatMap_singleton]
  exact Outputs.print_follows _ text s.outputs _

theorem flush_follows (s : Session) :
    Ports.Follows (s.eventsOf [.flush]) s.outputs.ports (stateAfter flushAll s).outputs.ports := by
  unfold flushAll eventsOf
  rw [outputs_onOutputs, List.flatMap_singleton]
  exact Outputs.flushAll_follows _ s.outputs _

theorem write_follows (bytes : Bytes) (s : Session) :
    Ports.Follows (s.eventsOf [.debug bytes]) s.outputs.ports
      (stateAfter (onOutputs (Outputs.write bytes)) s).outputs.ports := by
  unfold eventsOf
  rw [outputs_onOutputs, List.flatMap_singleton]
  exact Outputs.write_follows _ bytes s.outputs

/-- Once debug output has been written, the same outlet is in force, and the ports show text as
before. -/
theorem eventsOf_write (bytes : Bytes) (s : Session) (utterances : List Utterance) :
    (stateAfter (onOutputs (Outputs.write bytes)) s).eventsOf utterances =
      s.eventsOf utterances := by
  have hfollows := write_follows bytes s
  have hstays := Outputs.write_stays bytes s.outputs
  rw [← outputs_onOutputs] at hstays
  unfold eventsOf
  rw [hstays.outlet]
  have hcolours := hfollows.colours .err
  unfold Ports.state at hcolours
  rw [hcolours]

/-- Debug output to a file does not concern the ports. -/
theorem eventsOf_debug_file {s : Session} {node : Nat} (h : s.outputs.active.outlet = .file node)
    {chunks : List Bytes} : s.eventsOf (chunks.map .debug) = [] := by
  unfold eventsOf
  rw [h]
  simp [Utterance.events]

/-- A chunk of debug output, with more to come. -/
theorem write_bind_follows {bytes : Bytes} (chunks : List Bytes)
    {rest : Unit → EStateM SystemError Session Unit} {s : Session}
    (hrest : ∀ s' : Session, Ports.Follows (s'.eventsOf (chunks.map .debug)) s'.outputs.ports
      (stateAfter (rest ()) s').outputs.ports) :
    Ports.Follows (s.eventsOf ((bytes :: chunks).map .debug)) s.outputs.ports
      (stateAfter (onOutputs (Outputs.write bytes) >>= rest) s).outputs.ports := by
  rw [List.map_cons, ← List.singleton_append, eventsOf_append]
  refine Ports.Follows.bind (fun s : Session => s.outputs.ports) (write_follows bytes s)
    (fun e s' he => ?_) fun _ s' hok => ?_
  · rcases Outputs.write_fails (onOutputs_eq_error he) with ⟨node, hnode⟩ | hrefused
    · exact .inl (eventsOf_debug_file hnode)
    · exact .inr hrefused
  · have hsame := eventsOf_write bytes s (chunks.map .debug)
    rw [stateAfter_of_ok hok] at hsame
    rw [← hsame]
    exact hrest s'

theorem message_follows (text : String) (s : Session) :
    Ports.Follows (s.eventsOf (s.workUtterances Registry.standard (.message text)))
      s.outputs.ports (stateAfter (debugMessage text) s).outputs.ports := by
  have hheader : debugMessage text s =
      (onOutputs (Outputs.writeText (messageHeader s.program s.level s.location)) >>= fun _ =>
        onOutputs (Outputs.writeText text) >>= fun _ => onOutputs (Outputs.writeText "\n")) s :=
    bind_congr_left (get_bind _ s) _
  rw [stateAfter_congr hheader]
  refine write_bind_follows [Utf8.encode text, Utf8.encode "\n"] fun s₁ => ?_
  exact write_bind_follows [Utf8.encode "\n"] fun s₂ => write_follows _ s₂

/-- The pending line and a text are written in one piece. -/
theorem outputs_line (text : String) (s : Session) :
    ([TraceMark.fragment (Utf8.encode text), .finish].foldl Tracer.take s.tracer).outputs =
      stateAfter (Outputs.write (s.tracer.pending.bytes ++ Utf8.encode (text ++ "\n")))
        s.outputs := by
  have hbytes : (s.tracer.pending.pushBytes (Utf8.encode text)).bytes ++ Utf8.encode "\n" =
      s.tracer.pending.bytes ++ Utf8.encode (text ++ "\n") := by
    rw [LineBuffer.bytes_pushBytes, Utf8.encode_append, List.append_assoc]
  rw [← hbytes]
  rfl

theorem alarm_follows (message : String) (s : Session) :
    Ports.Follows (s.eventsOf [.alarm s.program message]) s.outputs.ports
      ((stateAfter flushAll s).mapPorts (sendAlarm s.program message)).outputs.ports := by
  have hflush := flush_follows s
  have halarm := sendAlarm_follows s.program message (stateAfter flushAll s).outputs.ports
  have hcolours : (stateAfter flushAll s).outputs.ports.err.colours = s.outputs.ports.err.colours :=
    hflush.colours .err
  rw [hcolours] at halarm
  have hboth := hflush.trans halarm
  have hevents : s.eventsOf [.alarm s.program message] = s.eventsOf [.flush] ++
      (Ports.carried .out false [.flush]
        ++ Ports.carried .err s.outputs.ports.err.colours (alarmRequests s.program message)) := by
    simp only [eventsOf, List.flatMap_singleton, Utterance.events, List.append_assoc]
  rw [hevents]
  exact hboth

theorem outputs_mapPorts (f : Ports → Ports) (s : Session) :
    (s.mapPorts f).outputs = { s.outputs with ports := f s.outputs.ports } := rfl

/-- That the pending line is thrown away makes no difference to the outputs. -/
theorem outputs_alarm (message : String) (s : Session) (pending : LineBuffer) :
    ((stateAfter flushAll { s with tracer.pending := pending }).mapPorts
        (sendAlarm (stateAfter flushAll { s with tracer.pending := pending }).program
          message)).outputs =
      ((stateAfter flushAll s).mapPorts (sendAlarm s.program message)).outputs := by
  have hwrites : Writes { s with tracer.pending := pending } (stateAfter flushAll _) :=
    onTracer_writes (Tracer.onOutputs Outputs.flushAll) _
  have hprogram := congrArg Session.program hwrites
  have houtputs : (stateAfter flushAll { s with tracer.pending := pending }).outputs =
      (stateAfter flushAll s).outputs := by
    unfold flushAll
    rw [outputs_onOutputs, outputs_onOutputs]
    rfl
  rw [outputs_mapPorts, outputs_mapPorts, houtputs, hprogram]

/-- What tracing a call comes to: a line, nothing yet, or the end of the program. -/
theorem traceCall_cases (builtins : Registry) (phase : Phase) (traced : TracedCall) (s : Session) :
    (∃ bytes s', s.traceUtterances builtins phase traced = [.debug bytes] ∧
      EndsIn (traceCall builtins phase traced) s s' ∧
      s'.outputs = stateAfter (Outputs.write bytes) s.outputs) ∨
    (∃ s', s.traceUtterances builtins phase traced = [] ∧
      EndsIn (traceCall builtins phase traced) s s' ∧ s'.outputs = s.outputs) ∨
    ∃ message s', s.traceUtterances builtins phase traced = [.alarm s.program message] ∧
      traceCall builtins phase traced s = .error .abort s' ∧
      s'.outputs = ((stateAfter flushAll s).mapPorts (sendAlarm s.program message)).outputs := by
  cases phase with
  | prepre =>
    have hends : EndsIn (traceCall builtins .prepre traced) s _ :=
      tracePrepre_endsIn traced.call s
    exact .inl ⟨_, _, rfl, hends, outputs_line _ s⟩
  | post =>
    have hends : EndsIn (traceCall builtins .post traced) s _ :=
      tracePost_endsIn traced.call traced.result s
    exact .inl ⟨_, _, rfl, hends, outputs_line _ s⟩
  | pre =>
    unfold traceUtterances
    simp only
    cases hu : s.traceSettings.unknownBuiltin? builtins traced.call with
    | some id => exact .inr (.inr ⟨_, _, rfl, tracePre_of_unknown hu, outputs_alarm _ s .empty⟩)
    | none =>
      have hmarks : (TraceAct.pre builtins traced.call).marks? s.traceSettings =
          some (.fragment (Utf8.encode (s.traceSettings.preText builtins traced.call))
            :: if s.level.has .call then [.finish] else []) := by
        simp only [TraceAct.marks?, hu]
        rfl
      have hends : EndsIn (traceCall builtins .pre traced) s _ := tracePre_endsIn hmarks
      by_cases hcall : s.level.has .call
      · simp only [hcall, if_true] at hends ⊢
        exact .inl ⟨_, _, rfl, hends, outputs_line _ s⟩
      · simp only [hcall, Bool.false_eq_true, if_false] at hends ⊢
        exact .inr (.inl ⟨_, trivial, hends, rfl⟩)

theorem trace_follows (builtins : Registry) (phase : Phase) (traced : TracedCall) (s : Session) :
    Ports.Follows (s.eventsOf (s.traceUtterances builtins phase traced)) s.outputs.ports
      (stateAfter (traceCall builtins phase traced) s).outputs.ports := by
  rcases traceCall_cases builtins phase traced s with ⟨bytes, s', hwords, hends, houtputs⟩ |
    ⟨s', hwords, hends, houtputs⟩ | ⟨message, s', hwords, habort, houtputs⟩
  · rw [hwords, hends.stateAfter, houtputs, ← outputs_onOutputs]
    exact write_follows bytes s
  · rw [hwords, hends.stateAfter, houtputs]
    exact .refl _
  · rw [hwords, stateAfter_of_error habort, houtputs]
    exact alarm_follows message s

/-- What the work of a step brings to the log is what it puts into words. -/
theorem work_follows (builtins : Registry) (step : Step) (s : Session) :
    Ports.Follows (s.eventsOf (s.workUtterances builtins step)) s.outputs.ports
      (stateAfter (s.work builtins step) s).outputs.ports := by
  cases step with
  | location position =>
    show Ports.Follows [] s.outputs.ports (stateAfter (moveTo position) s).outputs.ports
    unfold moveTo
    cases position.isStray <;> exact .refl _
  | debugMode flags =>
    simp only [work]
    split <;> exact .refl _
  | debugFile selector =>
    simp only [work]
    split
    · rename_i outputs h
      show Ports.Follows [] s.outputs.ports outputs.ports
      exact Outputs.redirect_follows h
    · exact .refl _
  | trace phase traced => exact trace_follows builtins phase traced s
  | message text =>
    simp only [work, whileDoing]
    rw [stateAfter_mapError]
    exact message_follows text s
  | numeric check =>
    simp only [work, workUtterances]
    cases check.value? s.blanks with
    | some value => exact print_follows _ s
    | none => exact .refl _
  | flush =>
    simp only [work, whileDoing]
    rw [stateAfter_mapError]
    exact flush_follows s
  | error report => exact .refl _
  | warn report => exact .refl _
  | _ => exact print_follows _ s

/-- After a complaint there is at most something to print. -/
theorem work_of_complaint (builtins : Registry) {step : Step} {s : Session} {c : Complaint}
    (h : s.complaint? step = some c) :
    (s.work builtins step = pure () ∧ s.workUtterances builtins step = []) ∨
      ∃ text, s.work builtins step = print text ∧
        s.workUtterances builtins step = [.printed text] := by
  cases step with
  | debugMode flags =>
    simp only [complaint?] at h
    simp only [work]
    split at h
    · cases h
    · exact .inl ⟨rfl, rfl⟩
  | debugFile selector =>
    simp only [complaint?] at h
    simp only [work]
    split at h
    · cases h
    · exact .inl ⟨rfl, rfl⟩
  | argc check => exact .inr ⟨_, rfl, rfl⟩
  | numeric check =>
    simp only [work, workUtterances]
    cases check.value? s.blanks with
    | some value => exact .inr ⟨_, rfl, rfl⟩
    | none => exact .inl ⟨rfl, rfl⟩
  | error report => exact .inl ⟨rfl, rfl⟩
  | warn report => exact .inl ⟨rfl, rfl⟩
  | _ => cases h

theorem reported_follows (s : Session) (c : Complaint) :
    Ports.Follows (s.eventsOf (if s.drops c then [] else [.report (s.diagnostic c)]))
      s.outputs.ports (s.reported c).outputs.ports := by
  unfold reported
  by_cases hdrops : s.drops c
  · rw [if_pos hdrops, if_pos hdrops]
    exact .refl _
  · rw [if_neg hdrops, if_neg hdrops]
    unfold eventsOf
    rw [List.flatMap_singleton]
    exact (s.diagnostic c).send_follows s.outputs.ports _

/-- What a step brings to the log is what it puts into words. -/
theorem takeStep_follows {s : Session} (hplaced : s.location.isStray = false) (builtins : Registry)
    (step : Step) :
    Ports.Follows (s.eventsOf (s.utterances builtins step)) s.outputs.ports
      (stateAfter (takeStep builtins step) s).outputs.ports := by
  unfold utterances
  cases h : s.complaint? step with
  | none =>
    rw [stateAfter_congr (takeStep_of_no_complaint h)]
    exact work_follows builtins step s
  | some c =>
    have hreported := reported_follows s c
    simp only
    cases hv : (s.reporter.note c).1 with
    | error stop =>
      rw [stateAfter_of_error (takeStep_of_ended hplaced h hv), List.append_nil]
      exact hreported
    | ok _ =>
      rw [stateAfter_congr (takeStep_of_complaint hplaced h hv)]
      rcases work_of_complaint builtins h with ⟨hwork, hwords⟩ | ⟨text, hwork, hwords⟩
      · rw [hwork, hwords, List.append_nil]
        exact hreported
      · have hprint : Ports.Follows (s.eventsOf [.printed text]) (s.reported c).outputs.ports
            (stateAfter (print text) (s.reported c)).outputs.ports :=
          print_follows text (s.reported c)
        rw [hwork, hwords, eventsOf_append]
        exact hreported.trans hprint

end Session

end MacroTrace
