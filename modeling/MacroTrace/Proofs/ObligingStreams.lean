import MacroTrace.Proofs.SessionRun
/-!
# Streams that refuse nothing

If the standard streams carry out whatever they are asked for, and the file that debug output goes
to takes whatever it is given, then the outputs are `Obliging`. Nothing that is done with them fails
then, so the only failure of a step is that of a step which asks for a position that makes no sense
(`Session.takeStep_not_system`).
-/

namespace MacroTrace

/-- From every state of a kind an operation comes to its end, in a state of that kind. -/
def EndsWell {ε σ : Type} (I : σ → Prop) (action : EStateM ε σ Unit) : Prop :=
  ∀ s, I s → ∃ s', action s = .ok () s' ∧ I s'

namespace EndsWell

variable {ε δ σ : Type} {I : σ → Prop}

theorem bind {first second : EStateM ε σ Unit} (hfirst : EndsWell I first)
    (hsecond : EndsWell I second) : EndsWell I (first >>= fun _ => second) := by
  intro s h
  obtain ⟨s₁, hs₁, h₁⟩ := hfirst s h
  obtain ⟨s₂, hs₂, h₂⟩ := hsecond s₁ h₁
  exact ⟨s₂, (bind_of_ok hs₁).trans hs₂, h₂⟩

theorem mapError {f : ε → δ} {action : EStateM ε σ Unit} (h : EndsWell I action) :
    EndsWell I (Session.mapError f action) := by
  intro s hs
  obtain ⟨s', hs', h'⟩ := h s hs
  exact ⟨s', by simp only [Session.mapError, hs'], h'⟩

theorem stoppedBy_eq {action : EStateM ε σ Unit} (h : EndsWell I action) {s : σ} (hs : I s) :
    stoppedBy action s = none := by
  obtain ⟨s', hs', -⟩ := h s hs
  exact stoppedBy_of_ok hs'

end EndsWell

theorem Ports.Willing.exists_ask {s : Ports} (h : s.Willing) (p : Port) (request : Request) :
    ∃ s', Ports.ask p request s = .ok () s' := by
  by_cases hv : request.isVoid
  · exact ⟨s, Ports.ask_of_void hv s⟩
  · exact ⟨_, h.ask hv⟩

/-! ## Outputs -/

namespace Outputs

/-- The standard streams carry out whatever they are asked for, and if debug output goes to a file,
then that takes whatever it is given. -/
structure Obliging (o : Outputs) : Prop where
  ports : o.ports.Willing
  file : ∀ node, Accepts node o

variable {o o' : Outputs}

theorem Obliging.stays (h : o.Obliging) (hstays : Stays o o') {events : List Event}
    (hfollows : Ports.Follows events o.ports o'.ports) : o'.Obliging where
  ports := hfollows.willing h.ports
  file node := (h.file node).stays hstays

theorem endsWell_ask (p : Port) (request : Request) :
    EndsWell Obliging (onPorts (Ports.ask p request)) := by
  intro o h
  have hstays := onPorts_stays (Ports.ask p request) o
  have hfollows := o.ask_follows p request
  obtain ⟨ports, hask⟩ := h.ports.exists_ask p request
  have hok : onPorts (Ports.ask p request) o = .ok () { o with ports } := by
    simp only [onPorts, hask]
  rw [stateAfter_of_ok hok] at hstays hfollows
  exact ⟨_, hok, h.stays hstays hfollows⟩

theorem endsWell_write (bytes : Bytes) : EndsWell Obliging (write bytes) := by
  intro o h
  have hw := write_eq bytes o
  cases ha : o.active with
  | stderr =>
    simp only [ha] at hw
    obtain ⟨o', ho', hobliging⟩ := endsWell_ask .err (.write bytes) o h
    exact ⟨o', hw.trans ho', hobliging⟩
  | stdout =>
    simp only [ha] at hw
    obtain ⟨o', ho', hobliging⟩ := endsWell_ask .out (.write bytes) o h
    exact ⟨o', hw.trans ho', hobliging⟩
  | file writer =>
    have houtlet : o.active.outlet = .file writer.node := by
      rw [ha]
      rfl
    obtain ⟨o', ho'⟩ := write_of_accepts (h.file writer.node) houtlet bytes
    have hstays := write_stays bytes o
    have hfollows := write_follows false bytes o
    rw [stateAfter_of_ok ho'] at hstays hfollows
    exact ⟨o', ho', h.stays hstays hfollows⟩
  | discard =>
    simp only [ha] at hw
    exact ⟨o, hw, h⟩

theorem endsWell_flushFile : EndsWell Obliging (onFile (·.flush)) := by
  intro o h
  cases ha : o.active with
  | file writer =>
    have htakes : o.store.Takes writer.node := by
      refine h.file writer.node ?_
      rw [ha]
      rfl
    have hok : onFile (·.flush) o = _ := onFile_of_file ha
    simp only [FileWriter.flush_of_takes htakes] at hok
    have hstays := onFile_stays (fun w s => ⟨[], w.flush_adds s⟩) o
    rw [stateAfter_of_ok hok] at hstays
    exact ⟨_, hok, h.stays hstays (Ports.Follows.refl o.ports)⟩
  | _ => exact ⟨o, onFile_of_not_file (by simp [ha]), h⟩

theorem endsWell_flushAll : EndsWell Obliging flushAll :=
  .bind (endsWell_ask .out .flush) (.bind (endsWell_ask .err .flush) endsWell_flushFile)

end Outputs

/-! ## Lines -/

namespace Tracer

theorem endsWell_finishLine : EndsWell (·.outputs.Obliging) finishLine := by
  intro t h
  obtain ⟨outputs, hwrite, hobliging⟩ :=
    Outputs.endsWell_write (t.pending.bytes ++ Utf8.encode "\n") t.outputs h
  exact ⟨⟨.empty, outputs⟩, by simp only [finishLine, LineBuffer.take, hwrite], hobliging⟩

theorem Says.endsWell {o : TemplateOptions} {phrases : List Phrase} {text : String}
    (h : Says o phrases text) : EndsWell (·.outputs.Obliging) (sayAll o phrases) :=
  fun t ht => ⟨_, h t, ht⟩

theorem exists_pre {t : TraceSettings} {builtins : Registry} {call : Call} {tracer : Tracer}
    (h : t.unknownBuiltin? builtins call = none) (hobliging : tracer.outputs.Obliging) :
    ∃ tracer', pre t builtins call tracer = .ok () tracer' := by
  rw [t.pre_of_known builtins call h tracer]
  split
  · obtain ⟨tracer', hline, -⟩ := endsWell_finishLine
      { tracer with pending := tracer.pending.pushText (t.preText builtins call) } hobliging
    exact ⟨tracer', hline⟩
  · exact ⟨_, rfl⟩

end Tracer

/-! ## Steps -/

namespace Session

/-- Nothing is refused that the session writes. -/
def Obliging (s : Session) : Prop := s.outputs.Obliging

variable {s : Session} {builtins : Registry} {steps : List Step}

theorem endsWell_onTracer {ε : Type} {action : EStateM ε Tracer Unit}
    (h : EndsWell (·.outputs.Obliging) action) : EndsWell Obliging (onTracer action) := by
  intro s hs
  obtain ⟨tracer, htracer, hobliging⟩ := h s.tracer hs
  exact ⟨{ s with tracer }, by simp only [onTracer, htracer], hobliging⟩

theorem endsWell_onOutputs {ε : Type} {action : EStateM ε Outputs Unit}
    (h : EndsWell Outputs.Obliging action) : EndsWell Obliging (onOutputs action) := by
  refine endsWell_onTracer fun t ht => ?_
  obtain ⟨outputs, houtputs, hobliging⟩ := h t.outputs ht
  exact ⟨{ t with outputs }, by simp only [Tracer.onOutputs, houtputs], hobliging⟩

theorem endsWell_flushAll : EndsWell Obliging flushAll :=
  endsWell_onOutputs Outputs.endsWell_flushAll

theorem endsWell_print (text : String) : EndsWell Obliging (print text) :=
  .mapError (endsWell_onOutputs (Outputs.endsWell_ask .out _))

theorem endsWell_debugMessage (text : String) : EndsWell Obliging (debugMessage text) := by
  have hwrite : ∀ bytes, EndsWell Obliging (onOutputs (Outputs.write bytes)) :=
    fun bytes => endsWell_onOutputs (Outputs.endsWell_write bytes)
  have hheader : EndsWell Obliging writeMessageHeader := fun s hs => hwrite _ s hs
  exact .bind hheader (.bind (hwrite _) (hwrite _))

theorem stoppedBy_traceCall_of_obliging {phase : Phase} {traced : TracedCall}
    (h : s.cannotTrace builtins phase traced = false) (hs : s.Obliging) :
    stoppedBy (traceCall builtins phase traced) s = none := by
  have hline : ∀ {o phrases text}, Tracer.Says o phrases text → EndsWell Obliging
      (onTracer (Tracer.sayAll o phrases >>= fun _ => Tracer.finishLine)) :=
    fun hsays => endsWell_onTracer (.bind hsays.endsWell Tracer.endsWell_finishLine)
  cases phase with
  | prepre =>
    have hends := (hline (s.traceSettings.says_prepre traced.call)).stoppedBy_eq hs
    exact (stoppedBy_congr (get_bind _ s)).trans hends
  | post =>
    have hends := (hline (s.traceSettings.says_post traced.call traced.result)).stoppedBy_eq hs
    exact (stoppedBy_congr (get_bind _ s)).trans hends
  | pre =>
    have hknown : s.traceSettings.unknownBuiltin? builtins traced.call = none := by
      simpa [cannotTrace] using h
    obtain ⟨tracer, htracer⟩ := Tracer.exists_pre hknown hs
    have hpre : onTracer (Tracer.pre s.traceSettings builtins traced.call) s =
        .ok () { s with tracer } := by
      simp only [onTracer, htracer]
    exact stoppedBy_of_ok (tryCatch_of_ok hpre)

/-- Without a complaint, a step fails only if it asks for a position that makes no sense. -/
theorem work_not_system {step : Step} (h : s.complaint? step = none) (hs : s.Obliging)
    (doing : String) (cause : SystemError) :
    stoppedBy (s.work builtins step) s ≠ some (.failure (.system doing cause)) := by
  have hgoesOn : ∀ {action : Act Unit}, stoppedBy action s = none →
      stoppedBy action s ≠ some (.failure (.system doing cause)) := by
    intro action hnone hstop
    rw [hnone] at hstop
    cases hstop
  have hends : ∀ {action : Act Unit}, EndsWell Obliging action →
      stoppedBy action s ≠ some (.failure (.system doing cause)) :=
    fun haction => hgoesOn (haction.stoppedBy_eq hs)
  cases step with
  | location position =>
    show stoppedBy (moveTo position) s ≠ _
    unfold moveTo
    cases position.isStray with
    | true =>
      intro hstop
      cases hstop
    | false => exact hgoesOn rfl
  | debugMode flags =>
    simp only [work]
    split <;> exact hgoesOn rfl
  | debugFile selector =>
    simp only [work]
    split <;> exact hgoesOn rfl
  | trace phase traced =>
    simp only [work]
    intro hstop
    cases hc : s.cannotTrace builtins phase traced with
    | true =>
      rw [traceCall_aborts_of hc] at hstop
      cases hstop
    | false =>
      rw [stoppedBy_traceCall_of_obliging hc hs] at hstop
      cases hstop
  | message text => exact hends (.mapError (endsWell_debugMessage text))
  | numeric check =>
    simp only [work]
    split
    · exact hends (endsWell_print _)
    · exact hgoesOn rfl
  | flush => exact hends (.mapError endsWell_flushAll)
  | error report => exact hgoesOn rfl
  | warn report => exact hgoesOn rfl
  | _ => exact hends (endsWell_print _)

theorem Obliging.reported (h : s.Obliging) (c : Complaint) : (s.reported c).Obliging :=
  Outputs.Obliging.stays h (reported_stays s c) (reported_follows s c)

/-- A step that takes place does not fail over what it writes. -/
theorem takeStep_not_system (hplaced : s.location.isStray = false) (hs : s.Obliging)
    (builtins : Registry) (step : Step) (doing : String) (cause : SystemError) :
    stoppedBy (takeStep builtins step) s ≠ some (.failure (.system doing cause)) := by
  cases hc : s.complaint? step with
  | none =>
    rw [stoppedBy_congr (takeStep_of_no_complaint hc)]
    exact work_not_system hc hs doing cause
  | some c =>
    cases hv : (s.reporter.note c).1 with
    | error stop =>
      rw [stoppedBy_of_error (takeStep_of_ended hplaced hc hv)]
      rintro ⟨⟩
      rcases note_cases s.reporter c with ⟨breach, hfull⟩ | hverdict
      · rw [hv] at hfull
        cases hfull
      · rw [hv] at hverdict
        split at hverdict <;> cases hverdict
    | ok _ =>
      rw [stoppedBy_congr (takeStep_of_complaint hplaced hc hv)]
      rcases work_of_complaint builtins hc with ⟨hwork, -⟩ | ⟨text, hwork, -⟩
      · rw [hwork]
        intro hstop
        cases hstop
      · rw [hwork, (endsWell_print text).stoppedBy_eq (hs.reported c)]
        intro hstop
        cases hstop

end Session

end MacroTrace
