import MacroTrace.Proofs.Transparency
import MacroTrace.Proofs.Verdicts
/-!
# Sessions that differ in colours alone

Two captures of the same streams, of which one records the colours of standard error and the other
drops them (`Ports.Uncoloured`), and the outputs and sessions built on them. Whatever a session does
is done by both in the same way, and keeps them alike; the same goes through the streams in the same
order, but where the one has an escape sequence, the other has nothing (`Event.Uncoloured`).
-/

namespace MacroTrace

/-! ## The streams -/

/-- The same event, or an escape sequence at standard error in the one case and nothing in the
other. -/
inductive Event.Uncoloured : Event → Event → Prop
  | same (event : Event) : Uncoloured event event
  | set (style : Style) : Uncoloured (.wrote .err (Utf8.encode style.escapes)) (.wrote .err [])
  | reset : Uncoloured (.wrote .err (Utf8.encode Style.plain)) (.wrote .err [])

namespace Ports

/-- Fresh captures of both streams, which carry out whatever they are asked for; that of standard
error records colours or drops them. -/
def captures (colours : Bool) : Ports := { err.colours := colours }

/-- Two states of willing streams differ in the colours of standard error alone. -/
structure Uncoloured (s t : Ports) : Prop where
  willing : s.Willing
  coloured : s.err.colours = true
  same : t = { s with err.colours := false, log := t.log }
  log : List.Forall₂ Event.Uncoloured s.log.toList t.log.toList

theorem uncoloured_captures : (captures true).Uncoloured (captures false) where
  willing := ⟨fun p => by cases p <;> rfl, unrefused_of_all rfl⟩
  coloured := rfl
  same := rfl
  log := .nil

/-- What goes through when standard error carries out a request, with and without colours. -/
theorem uncoloured_effect (request : Request) :
    Event.Uncoloured (effect .err true request) (effect .err false request) := by
  cases request with
  | write bytes => exact .same _
  | flush => exact .same _
  | paint style => exact .set style
  | unpaint => exact .reset

theorem Uncoloured.willing' {s t : Ports} (h : s.Uncoloured t) : t.Willing := by
  have hsame := h.same
  constructor
  · intro p
    have hp := h.willing.behaviour p
    rw [hsame]
    cases p <;> exact hp
  · intro p
    have hp := h.willing.unrefused p
    rw [hsame]
    cases p <;> exact hp

theorem uncoloured_push {s t : Ports}
    (h : List.Forall₂ Event.Uncoloured s.log.toList t.log.toList)
    {event event' : Event} (hevent : Event.Uncoloured event event') :
    List.Forall₂ Event.Uncoloured (s.log.push event).toList (t.log.push event').toList := by
  rw [Array.toList_push, Array.toList_push]
  exact List.rel_append h (.cons hevent .nil)

/-- A request makes no difference to the streams but the one that there is. -/
theorem uncoloured_ask (p : Port) (request : Request) : Respects Uncoloured (ask p request) := by
  refine ⟨fun {s t} h => ?_⟩
  by_cases hv : request.isVoid
  · rw [ask_of_void hv, ask_of_void hv]
    exact .ok () h
  · rw [h.willing.ask hv, h.willing'.ask hv]
    have hlog := h.log
    obtain ⟨log, rfl⟩ : ∃ log, t = { s with err.colours := false, log } := ⟨t.log, h.same⟩
    refine .ok () ?_
    cases p with
    | out =>
      exact ⟨h.willing.afterReply .out request _, h.coloured, rfl, uncoloured_push hlog (.same _)⟩
    | err =>
      have heffect := uncoloured_effect request
      rw [← h.coloured] at heffect
      exact ⟨h.willing.afterReply .err request _, h.coloured, rfl, uncoloured_push hlog heffect⟩

theorem uncoloured_askAll (p : Port) (requests : List Request) :
    Respects Uncoloured (askAll p requests) := by
  induction requests with
  | nil => exact .pure ()
  | cons request rest ih => exact .bind (uncoloured_ask p request) fun _ => ih

theorem Uncoloured.after {s t : Ports} {attempt : EStateM SystemError Ports Unit}
    (h : s.Uncoloured t) (hattempt : Respects Uncoloured attempt) :
    (Ports.after attempt s).Uncoloured (Ports.after attempt t) := by
  rw [after_eq, after_eq]
  exact hattempt.stateAfter h

/-- The journal has the same entries at the same places. -/
theorem Uncoloured.note {s t : Ports} (h : s.Uncoloured t) (level : JournalLevel)
    (origin message : String) :
    (s.note level origin message).Uncoloured (t.note level origin message) := by
  have hlog := h.log
  have hsize : t.log.size = s.log.size := by simpa using hlog.length_eq.symm
  obtain ⟨log, rfl⟩ : ∃ log, t = { s with err.colours := false, log } := ⟨t.log, h.same⟩
  exact ⟨h.willing.note level origin message, h.coloured, by simp [Ports.note, hsize], hlog⟩

theorem Uncoloured.send {s t : Ports} (h : s.Uncoloured t) (d : Diagnostic) :
    (d.send s).Uncoloured (d.send t) := by
  have hflush := h.after (uncoloured_ask .out .flush)
  have hasked := (uncoloured_askAll .err d.requests).alike hflush
  unfold Diagnostic.send
  generalize askAll .err d.requests (Ports.after (ask .out .flush) s) = r at hasked ⊢
  generalize askAll .err d.requests (Ports.after (ask .out .flush) t) = r' at hasked ⊢
  cases hasked with
  | ok u hshown => exact hshown
  | error cause hshown => exact hshown.note ..

theorem Uncoloured.sendAlarm {s t : Ports} (h : s.Uncoloured t) (program message : String) :
    (sendAlarm program message s).Uncoloured (sendAlarm program message t) :=
  ((h.note ..).after (uncoloured_ask .out .flush)).after (uncoloured_askAll .err _)

end Ports

/-! ## Everything that is written to -/

/-- Two states of the outputs differ in the colours of standard error alone. -/
def Outputs.Uncoloured (o o' : Outputs) : Prop :=
  ∃ ports, o' = { o with ports } ∧ o.ports.Uncoloured ports

/-- Two tracers differ in the colours of standard error alone. -/
def Tracer.Uncoloured (t t' : Tracer) : Prop :=
  ∃ outputs, t' = { t with outputs } ∧ t.outputs.Uncoloured outputs

/-- Two sessions differ in the colours of standard error alone. -/
def Session.Uncoloured (s s' : Session) : Prop :=
  ∃ tracer, s' = { s with tracer } ∧ s.tracer.Uncoloured tracer

namespace Outputs

theorem uncoloured_onPorts {α : Type} {action : EStateM SystemError Ports α}
    (h : Respects Ports.Uncoloured action) : Respects Uncoloured (onPorts action) := by
  refine ⟨?_⟩
  rintro o _ ⟨ports, rfl, hports⟩
  have halike := h.alike hports
  unfold onPorts
  simp only
  generalize action o.ports = r at halike ⊢
  generalize action ports = r' at halike ⊢
  cases halike with
  | ok a h => exact .ok a ⟨_, rfl, h⟩
  | error cause h => exact .error cause ⟨_, rfl, h⟩

theorem uncoloured_onFile
    (action : FileWriter → FileStore → Except SystemError Unit × FileWriter × FileStore) :
    Respects Uncoloured (onFile action) := by
  refine ⟨?_⟩
  rintro o _ ⟨ports, rfl, hports⟩
  unfold onFile
  simp only
  split
  · rename_i writer _
    obtain ⟨result, writer', store⟩ := action writer o.store
    cases result with
    | ok u => exact .ok () ⟨ports, rfl, hports⟩
    | error cause => exact .error cause ⟨ports, rfl, hports⟩
  · exact .ok () ⟨ports, rfl, hports⟩

theorem uncoloured_write (bytes : Bytes) : Respects Uncoloured (write bytes) := by
  refine .get_bind (fun o => ?_) ?_
  · cases o.active with
    | stderr => exact uncoloured_onPorts (Ports.uncoloured_ask .err _)
    | stdout => exact uncoloured_onPorts (Ports.uncoloured_ask .out _)
    | file writer => exact uncoloured_onFile _
    | discard => exact .pure ()
  · rintro o _ ⟨ports, rfl, -⟩
    rfl

theorem uncoloured_flushAll : Respects Uncoloured flushAll :=
  .bind (uncoloured_onPorts (Ports.uncoloured_ask .out .flush)) fun _ =>
    .bind (uncoloured_onPorts (Ports.uncoloured_ask .err .flush)) fun _ => uncoloured_onFile _

theorem Uncoloured.replace {o o' : Outputs} (h : o.Uncoloured o') (next : Destination) :
    (o.replace next).Uncoloured (o'.replace next) := by
  obtain ⟨ports, rfl, hports⟩ := h
  have hclosed : o.closedPorts.Uncoloured { o with ports }.closedPorts := by
    unfold closedPorts
    simp only
    cases o.active.closingFault? o.store with
    | some fault => exact hports.note ..
    | none => exact hports
  exact ⟨_, rfl, hclosed⟩

theorem Uncoloured.isShadowed {o o' : Outputs} (h : o.Uncoloured o') :
    o'.isShadowed = o.isShadowed := by
  obtain ⟨ports, rfl, -⟩ := h
  rfl

theorem Uncoloured.adopt {o o' : Outputs} (h : o.Uncoloured o') (next : Destination) :
    (o.adopt next).Uncoloured (o'.adopt next) := by
  have hnext := h.replace next
  unfold Outputs.adopt
  simp only [hnext.isShadowed]
  split
  · exact hnext.replace .stdout
  · exact hnext

/-- Outputs are set up in the same way with and without colours. -/
theorem uncoloured_start (store : FileStore) (outIdentity errIdentity : Option Identity) :
    (start (.captures true) store outIdentity errIdentity).Uncoloured
      (start (.captures false) store outIdentity errIdentity) :=
  Uncoloured.adopt ⟨.captures false, rfl, Ports.uncoloured_captures⟩ .stderr

/-- Where debug output is to go is settled without the streams. -/
theorem Uncoloured.redirect {o o' : Outputs} (h : o.Uncoloured o') (target : DebugTarget) :
    (∃ r r', o.redirect target = .ok r ∧ o'.redirect target = .ok r' ∧ r.Uncoloured r') ∨
      ∃ cause, o.redirect target = .error cause ∧ o'.redirect target = .error cause := by
  cases target with
  | stderr => exact .inl ⟨_, _, rfl, rfl, h.adopt .stderr⟩
  | discard => exact .inl ⟨_, _, rfl, rfl, h.adopt .discard⟩
  | file path =>
    obtain ⟨ports, rfl, hports⟩ := h
    unfold Outputs.redirect
    simp only
    cases o.store.openAppend path with
    | ok opened =>
      have hopened : Uncoloured { o with store := opened.2 } { o with store := opened.2, ports } :=
        ⟨ports, rfl, hports⟩
      exact .inl ⟨_, _, rfl, rfl, hopened.adopt _⟩
    | error cause => exact .inr ⟨_, rfl, rfl⟩

end Outputs

namespace Tracer

theorem uncoloured_onOutputs {ε α : Type} {action : EStateM ε Outputs α}
    (h : Respects Outputs.Uncoloured action) : Respects Uncoloured (onOutputs action) := by
  refine ⟨?_⟩
  rintro t _ ⟨outputs, rfl, houtputs⟩
  have halike := h.alike houtputs
  unfold onOutputs
  simp only
  generalize action t.outputs = r at halike ⊢
  generalize action outputs = r' at halike ⊢
  cases halike with
  | ok a h => exact .ok a ⟨_, rfl, h⟩
  | error cause h => exact .error cause ⟨_, rfl, h⟩

theorem uncoloured_reset : Respects Uncoloured reset := by
  refine .modify ?_
  rintro t _ ⟨outputs, rfl, houtputs⟩
  exact ⟨outputs, rfl, houtputs⟩

theorem uncoloured_say (o : TemplateOptions) (phrase : Phrase) :
    Respects Uncoloured (say o phrase) := by
  refine ⟨?_⟩
  rintro t _ ⟨outputs, rfl, houtputs⟩
  unfold say
  simp only
  cases t.pending.format o phrase.template phrase.args with
  | ok pending => exact .ok () ⟨outputs, rfl, houtputs⟩
  | error breach => exact .error _ ⟨outputs, rfl, houtputs⟩

theorem uncoloured_sayAll (o : TemplateOptions) (phrases : List Phrase) :
    Respects Uncoloured (sayAll o phrases) := by
  induction phrases with
  | nil => exact .pure ()
  | cons phrase rest ih => exact .bind (uncoloured_say o phrase) fun _ => ih

theorem uncoloured_sayArguments (o : TemplateOptions) (builtins : Registry) (args : List Argument)
    (isFirst : Bool) : Respects Uncoloured (sayArguments o builtins args isFirst) := by
  induction args generalizing isFirst with
  | nil => exact .pure ()
  | cons arg rest ih =>
    have harg : Respects Uncoloured (sayArgument o builtins arg) := by
      unfold sayArgument
      split
      · exact uncoloured_say o _
      · exact .bind uncoloured_reset fun _ => .throw _
    exact .bind (uncoloured_sayAll o _) fun _ => .bind harg fun _ => ih false

theorem uncoloured_finishLine : Respects Uncoloured finishLine := by
  refine ⟨?_⟩
  rintro t _ ⟨outputs, rfl, houtputs⟩
  have halike := (Outputs.uncoloured_write (t.pending.bytes ++ Utf8.encode "\n")).alike houtputs
  unfold finishLine LineBuffer.take
  simp only
  generalize Outputs.write _ t.outputs = r at halike ⊢
  generalize Outputs.write _ outputs = r' at halike ⊢
  cases halike with
  | ok a h => exact .ok () ⟨_, rfl, h⟩
  | error cause h => exact .error _ ⟨_, rfl, h⟩

theorem uncoloured_prepre (t : TraceSettings) (call : Call) : Respects Uncoloured (prepre t call) :=
  .bind (uncoloured_sayAll _ _) fun _ => uncoloured_finishLine

theorem uncoloured_pre (t : TraceSettings) (builtins : Registry) (call : Call) :
    Respects Uncoloured (pre t builtins call) := by
  have hbrackets : Respects Uncoloured (sayBrackets t builtins call) := by
    unfold sayBrackets
    split
    · exact .bind (uncoloured_say _ _) fun _ =>
        .bind (uncoloured_sayArguments _ builtins _ true) fun _ => uncoloured_say _ _
    · exact .pure ()
  refine .bind (uncoloured_sayAll _ _) fun _ => .bind (uncoloured_say _ _) fun _ =>
    .bind hbrackets fun _ => ?_
  split
  · exact .bind (uncoloured_say _ _) fun _ => uncoloured_finishLine
  · exact .pure ()

theorem uncoloured_post (t : TraceSettings) (call : Call) (expansion : Option String) :
    Respects Uncoloured (post t call expansion) :=
  .bind (uncoloured_sayAll _ _) fun _ => uncoloured_finishLine

end Tracer

namespace Session

theorem uncoloured_onTracer {ε α : Type} {action : EStateM ε Tracer α}
    (h : Respects Tracer.Uncoloured action) : Respects Uncoloured (onTracer action) := by
  refine ⟨?_⟩
  rintro s _ ⟨tracer, rfl, htracer⟩
  have halike := h.alike htracer
  unfold onTracer
  simp only
  generalize action s.tracer = r at halike ⊢
  generalize action tracer = r' at halike ⊢
  cases halike with
  | ok a h => exact .ok a ⟨_, rfl, h⟩
  | error cause h => exact .error cause ⟨_, rfl, h⟩

theorem uncoloured_onOutputs {ε α : Type} {action : EStateM ε Outputs α}
    (h : Respects Outputs.Uncoloured action) : Respects Uncoloured (onOutputs action) :=
  uncoloured_onTracer (Tracer.uncoloured_onOutputs h)

theorem uncoloured_mapError {ε δ α : Type} (f : ε → δ) {action : EStateM ε Session α}
    (h : Respects Uncoloured action) : Respects Uncoloured (mapError f action) := by
  refine ⟨fun {s t} hst => ?_⟩
  have halike := h.alike hst
  unfold mapError
  generalize action s = r at halike ⊢
  generalize action t = r' at halike ⊢
  cases halike with
  | ok a h => exact .ok a h
  | error e h => exact .error (f e) h

theorem uncoloured_flushAll : Respects Uncoloured flushAll :=
  uncoloured_onOutputs Outputs.uncoloured_flushAll

theorem uncoloured_print (text : String) : Respects Uncoloured (print text) :=
  uncoloured_mapError _ (uncoloured_onOutputs
    (Outputs.uncoloured_onPorts (Ports.uncoloured_ask .out _)))

theorem uncoloured_debugMessage (text : String) : Respects Uncoloured (debugMessage text) := by
  have hwrite : ∀ bytes, Respects Uncoloured (onOutputs (Outputs.write bytes)) :=
    fun bytes => uncoloured_onOutputs (Outputs.uncoloured_write bytes)
  have hheader : Respects Uncoloured writeMessageHeader := by
    refine .get_bind (fun s => hwrite _) ?_
    rintro s _ ⟨tracer, rfl, -⟩
    rfl
  exact .bind hheader fun _ => .bind (hwrite _) fun _ => hwrite _

theorem Uncoloured.mapPorts {s t : Session} (h : s.Uncoloured t) {f : Ports → Ports}
    (hf : ∀ {p q : Ports}, p.Uncoloured q → (f p).Uncoloured (f q)) :
    (s.mapPorts f).Uncoloured (t.mapPorts f) := by
  obtain ⟨tracer, rfl, outputs, rfl, ports, rfl, hports⟩ := h
  exact ⟨_, rfl, _, rfl, _, rfl, hf hports⟩

theorem uncoloured_internalError (message : String) :
    Respects Uncoloured (internalError message) := by
  refine ⟨fun {s t} h => ?_⟩
  have hprogram : t.program = s.program := by
    obtain ⟨tracer, rfl, -⟩ := h
    rfl
  unfold internalError
  rw [hprogram]
  exact .error _ (h.mapPorts fun h => h.sendAlarm s.program message)

theorem uncoloured_traceCall (builtins : Registry) (phase : Phase) (traced : TracedCall) :
    Respects Uncoloured (traceCall builtins phase traced) := by
  have hsettings : ∀ {s t : Session}, s.Uncoloured t → t.traceSettings = s.traceSettings := by
    rintro s _ ⟨tracer, rfl, -⟩
    rfl
  cases phase with
  | prepre =>
    refine .get_bind (fun s => uncoloured_onTracer (Tracer.uncoloured_prepre _ _)) fun h => ?_
    rw [hsettings h]
  | pre =>
    refine .get_bind (fun s => ?_) fun h => ?_
    · refine .tryCatch (uncoloured_onTracer (Tracer.uncoloured_pre _ _ _)) fun stop => ?_
      split
      · exact .bind (.tryCatch (uncoloured_mapError _ uncoloured_flushAll) fun _ => .pure ())
          fun _ => uncoloured_internalError _
      · exact .throw _
    · rw [hsettings h]
  | post =>
    refine .get_bind (fun s => uncoloured_onTracer (Tracer.uncoloured_post _ _ _)) fun h => ?_
    rw [hsettings h]

/-! ### Steps -/

variable {s t : Session}

theorem Uncoloured.outputs (h : s.Uncoloured t) : s.outputs.Uncoloured t.outputs := by
  obtain ⟨tracer, rfl, outputs, rfl, houtputs⟩ := h
  exact houtputs

theorem Uncoloured.complaint? (h : s.Uncoloured t) (step : Step) :
    t.complaint? step = s.complaint? step := by
  cases step with
  | debugFile selector =>
    rcases h.outputs.redirect (.ofSelector selector) with ⟨r, r', hr, hr', -⟩ | ⟨cause, hr, hr'⟩
    · simp only [Session.complaint?, hr, hr']
    · simp only [Session.complaint?, hr, hr']
  | _ =>
    obtain ⟨tracer, rfl, -⟩ := h
    rfl

theorem uncoloured_moveTo (position : Location) : Respects Uncoloured (moveTo position) := by
  refine ⟨?_⟩
  rintro s _ ⟨tracer, rfl, htracer⟩
  unfold moveTo
  cases position.isStray with
  | true => exact .error _ ⟨tracer, rfl, htracer⟩
  | false => exact .ok _ ⟨tracer, rfl, htracer⟩

/-- What a step does besides complaining. -/
theorem Uncoloured.work (h : s.Uncoloured t) (builtins : Registry) (step : Step) {s₁ t₁ : Session}
    (h₁ : s₁.Uncoloured t₁) :
    Alike Uncoloured (s.work builtins step s₁) (t.work builtins step t₁) := by
  cases step with
  | location position => exact (uncoloured_moveTo position).alike h₁
  | debugMode flags =>
    have hset : ∀ level, Respects Uncoloured (setLevel level) := by
      intro level
      refine .bind (.modify ?_) fun _ => uncoloured_onTracer Tracer.uncoloured_reset
      rintro s _ ⟨tracer, rfl, htracer⟩
      exact ⟨tracer, rfl, htracer⟩
    simp only [Session.work]
    cases Level.decode flags with
    | ok level => exact (hset level).alike h₁
    | error cause => exact .ok _ h₁
  | debugFile selector =>
    rcases h.outputs.redirect (.ofSelector selector) with
      ⟨r, r', hr, hr', halike⟩ | ⟨cause, hr, hr'⟩
    · simp only [Session.work, hr, hr']
      obtain ⟨tracer, rfl, outputs, rfl, -⟩ := h₁
      exact .ok _ ⟨_, rfl, _, rfl, halike⟩
    · simp only [Session.work, hr, hr']
      exact .ok _ h₁
  | trace phase traced => exact (uncoloured_traceCall builtins phase traced).alike h₁
  | message text => exact (uncoloured_mapError _ (uncoloured_debugMessage text)).alike h₁
  | output text => exact (uncoloured_print text).alike h₁
  | argc check => exact (uncoloured_print _).alike h₁
  | numeric check =>
    obtain ⟨tracer, rfl, -⟩ := h
    simp only [Session.work]
    cases check.value? s.blanks with
    | some value => exact (uncoloured_print _).alike h₁
    | none => exact .ok _ h₁
  | dumpArgs dump =>
    obtain ⟨tracer, rfl, -⟩ := h
    exact (uncoloured_print _).alike h₁
  | flush => exact (uncoloured_mapError _ uncoloured_flushAll).alike h₁
  | error report => exact .ok _ h₁
  | warn report => exact .ok _ h₁

theorem Uncoloured.reported (h : s.Uncoloured t) (c : Complaint) :
    (s.reported c).Uncoloured (t.reported c) := by
  have hdrops : t.drops c = s.drops c := by
    obtain ⟨tracer, rfl, -⟩ := h
    rfl
  unfold Session.reported
  rw [hdrops]
  split
  · exact h
  · obtain ⟨tracer, rfl, outputs, rfl, ports, rfl, hports⟩ := h
    exact ⟨_, rfl, _, rfl, _, rfl, hports.send (s.diagnostic c)⟩

theorem Uncoloured.location (h : s.Uncoloured t) : t.location = s.location := by
  obtain ⟨tracer, rfl, -⟩ := h
  rfl

theorem Uncoloured.reporter (h : s.Uncoloured t) : t.reporter = s.reporter := by
  obtain ⟨tracer, rfl, -⟩ := h
  rfl

/-- A step makes no difference to two sessions but the one that there is. -/
theorem Uncoloured.takeStep (h : s.Uncoloured t) (hplaced : s.location.isStray = false)
    (builtins : Registry) (step : Step) :
    Alike Uncoloured (takeStep builtins step s) (takeStep builtins step t) := by
  have hplaced' : t.location.isStray = false := by rwa [h.location]
  have hcomplaint := h.complaint? step
  cases hc : s.complaint? step with
  | none =>
    rw [hc] at hcomplaint
    rw [takeStep_of_no_complaint hc, takeStep_of_no_complaint hcomplaint]
    exact h.work builtins step h
  | some c =>
    rw [hc] at hcomplaint
    cases hv : (s.reporter.note c).1 with
    | error stop =>
      have hv' : (t.reporter.note c).1 = .error stop := by rwa [h.reporter]
      rw [takeStep_of_ended hplaced hc hv, takeStep_of_ended hplaced' hcomplaint hv']
      exact .error stop (h.reported c)
    | ok u =>
      have hv' : (t.reporter.note c).1 = .ok () := by rwa [h.reporter]
      rw [takeStep_of_complaint hplaced hc hv, takeStep_of_complaint hplaced' hcomplaint hv']
      exact h.work builtins step (h.reported c)

/-- What a step puts into words does not depend on the colours. -/
theorem Uncoloured.utterances (h : s.Uncoloured t) (builtins : Registry) (step : Step) :
    t.utterances builtins step = s.utterances builtins step := by
  have hcomplaint := h.complaint? step
  obtain ⟨tracer, rfl, outputs, rfl, -⟩ := h
  unfold Session.utterances
  rw [hcomplaint]
  rfl

end Session

end MacroTrace
