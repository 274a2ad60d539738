import MacroTrace.Proofs.Transparency
/-!
# Warnings that are suppressed

While warnings are suppressed, a step that only warns does nothing at all, and a check of arguments
only gives its answer, as it does when no switch is set (`Session.suppressed_without_trace`). That
warnings are fatal then matters for errors alone, and among them only for those that do not end the
run by themselves.
-/

namespace MacroTrace

namespace Step

/-- Whether a step does nothing but warn. -/
def onlyWarns : Step → Bool
  | .warn _ => true
  | .debugMode flags =>
    match Level.decode flags with
    | .ok _ => false
    | .error _ => true
  | _ => false

/-- Whether a step checks arguments. -/
def isCheck : Step → Bool
  | .argc _ | .numeric _ => true
  | _ => false

/-- What a check of arguments prints. -/
def answer (blanks : Blanks) : Step → String
  | .argc check => s!"{check.isEmpty}\n"
  | .numeric check =>
    match check.value? blanks with
    | some value => s!"{value}\n"
    | none => ""
  | _ => ""

end Step

namespace Session

/-- The session with switches set. -/
def withSwitches (suppressWarnings fatalWarnings : Bool) (s : Session) : Session :=
  { s with reporter.suppressWarnings := suppressWarnings, reporter.fatalWarnings := fatalWarnings }

/-- Warnings are suppressed, there has been none, and the position makes sense. -/
structure IsHushed (s : Session) : Prop where
  suppress : s.reporter.suppressWarnings = true
  warnings : s.reporter.warnings = 0
  placed : s.location.isStray = false

variable {s s' : Session} {builtins : Registry} {step : Step} {steps : List Step}

theorem isHushed_ofConfig {config : Config} {outputs : Outputs}
    (h : ofConfig config outputs = .ok s) (hsuppress : config.suppressWarnings = true) :
    s.IsHushed := by
  obtain ⟨level, outputs', rfl, -⟩ := ofConfig_eq_ok h
  exact ⟨hsuppress, rfl, rfl⟩

/-! ## Steps that only warn -/

theorem warnings_note {r : Reporter} (h : r.suppressWarnings = true) (c : Complaint) :
    (r.note c).2.warnings = r.warnings := by
  unfold Reporter.note
  cases c.severity with
  | error =>
    simp only [Reporter.noteError]
    cases countOne r.errors <;> rfl
  | warning => simp only [h, if_true]

theorem IsHushed.takeStep (h : s.IsHushed) (builtins : Registry) (step : Step) :
    (stateAfter (Session.takeStep builtins step) s).IsHushed := by
  have hswitches := switches_takeStep h.placed builtins step
  refine ⟨hswitches.1.trans h.suppress, ?_, placed_takeStep h.placed⟩
  rw [reporter_takeStep h.placed]
  cases s.complaint? step with
  | none => exact h.warnings
  | some c => exact (warnings_note h.suppress c).trans h.warnings

theorem IsHushed.takeSteps (h : s.IsHushed) (builtins : Registry) (steps : List Step) :
    (stateAfter (Session.takeSteps builtins steps) s).IsHushed := by
  have hroom : ([] : List Complaint).length + steps.length ≤ steps.length := by simp
  exact takeSteps_keeps (I := fun _ s => s.IsHushed) (fun _ h step => h.takeStep builtins step) h
    hroom

/-- A warning that is suppressed leaves only the work of the step to do. -/
theorem takeStep_of_dropped (h : s.IsHushed) {c : Complaint} (hc : s.complaint? step = some c)
    (hwarning : c.severity = .warning) : takeStep builtins step s = s.work builtins step s := by
  have hdrops : s.drops c := by simp [drops, hwarning, h.suppress]
  have hnote := note_of_drops hdrops
  have hgoes : (s.reporter.note c).1 = .ok () := by rw [hnote]
  have hreported : s.reported c = s := by
    unfold reported
    rw [if_pos hdrops]
  rw [takeStep_of_complaint h.placed hc hgoes, hreported]

theorem takeStep_of_onlyWarns (h : s.IsHushed) (hstep : step.onlyWarns) :
    takeStep builtins step s = .ok () s := by
  cases step with
  | warn report =>
    have hc : s.complaint? (.warn report) = some _ := rfl
    exact takeStep_of_dropped h hc rfl
  | debugMode flags =>
    simp only [Step.onlyWarns] at hstep
    cases hd : Level.decode flags with
    | ok level =>
      rw [hd] at hstep
      cases hstep
    | error cause =>
      have hc : s.complaint? (.debugMode flags) =
          some (.warning s!"debugmode: bad debug flags: `{cause.flags}'") := by
        simp only [complaint?, hd]
      rw [takeStep_of_dropped h hc rfl]
      simp only [work, hd]
      rfl
  | _ => cases hstep

/-- Steps that only warn may as well be left out. -/
theorem takeSteps_filter (h : s.IsHushed) (builtins : Registry) (steps : List Step) :
    takeSteps builtins steps s = takeSteps builtins (steps.filter (!·.onlyWarns)) s := by
  induction steps generalizing s with
  | nil => rfl
  | cons step rest ih =>
    cases hw : step.onlyWarns with
    | true =>
      rw [takeSteps_of_ok (takeStep_of_onlyWarns h hw), List.filter_cons_of_neg (by simp [hw])]
      exact ih h
    | false =>
      rw [List.filter_cons_of_pos (by simp [hw])]
      have hfirst := h.takeStep builtins step
      cases hstep : takeStep builtins step s with
      | ok u s₁ =>
        rw [stateAfter_of_ok hstep] at hfirst
        rw [takeSteps_of_ok hstep, takeSteps_of_ok hstep]
        exact ih hfirst
      | error stop s₁ => rw [takeSteps_of_error hstep, takeSteps_of_error hstep]

/-! ## Checks of arguments -/

theorem severity_of_isCheck (hcheck : step.isCheck) {c : Complaint}
    (hc : s.complaint? step = some c) : c.severity = .warning := by
  cases step with
  | argc check =>
    simp only [complaint?, CountCheck.complaint?] at hc
    split at hc
    · cases hc
      rfl
    · split at hc
      · split at hc
        · cases hc
          rfl
        · cases hc
      · cases hc
  | numeric check =>
    simp only [complaint?, NumberCheck.complaint?] at hc
    split at hc
    · cases hc
      rfl
    · split at hc
      · cases hc
      · cases hc
        rfl
  | _ => cases hcheck

theorem print_nothing (s : Session) : print "" s = .ok () s := rfl

/-- The work of a check is to print its answer. -/
theorem work_of_isCheck (hcheck : step.isCheck) (s t : Session) (builtins : Registry) :
    s.work builtins step t = print (step.answer s.blanks) t := by
  cases step with
  | argc check => rfl
  | numeric check =>
    simp only [work, Step.answer]
    cases check.value? s.blanks with
    | some value => rfl
    | none => exact (print_nothing t).symm
  | _ => cases hcheck

theorem shown_of_isCheck (hcheck : step.isCheck) (s : Session) (builtins : Registry)
    (colours : Bool) :
    ((s.workUtterances builtins step).filterMap Remark.ofUtterance?).flatMap
      (Remark.bytesTo colours .out) = Utf8.encode (step.answer s.blanks) := by
  cases step with
  | argc check => simp [workUtterances, Step.answer, Remark.ofUtterance?, Remark.bytesTo]
  | numeric check =>
    simp only [workUtterances, Step.answer]
    cases check.value? s.blanks <;> simp [Remark.ofUtterance?, Remark.bytesTo]
  | _ => cases hcheck

/-- Printing goes wrong only if standard output refuses the text. -/
theorem print_ends {text : String} (hdone : (stateAfter (print text) s).outputs.ports.Unrefused) :
    stoppedBy (print text) s = none := by
  cases hstop : stoppedBy (print text) s with
  | none => rfl
  | some stop =>
    have herror := eq_error_of_stoppedBy hstop
    generalize stateAfter (print text) s = s' at herror hdone
    unfold print whileDoing mapError at herror
    cases hw : writeOut text s with
    | ok u s₁ =>
      rw [hw] at herror
      cases herror
    | error cause s₁ =>
      rw [hw] at herror
      cases herror
      obtain ⟨ports, hask, hports⟩ := Outputs.onPorts_eq_error (onOutputs_eq_error hw)
      rw [hports] at hdone
      exact absurd hdone (Ports.not_unrefused_of_ask hask)

/-- What a check that goes on shows at standard output is its answer. -/
theorem check_answers (hplaced : s.location.isStray = false) (hcheck : step.isCheck)
    (hgoes : ∀ c, s.complaint? step = some c → (s.reporter.note c).1 = .ok ())
    (hdone : (stateAfter (takeStep builtins step) s).outputs.ports.Unrefused) :
    stoppedBy (takeStep builtins step) s = none ∧
      (stateAfter (takeStep builtins step) s).outputs.ports.textAt .out =
        s.outputs.ports.textAt .out ++ Utf8.encode (step.answer s.blanks) := by
  have hprint : ∃ t, takeStep builtins step s = print (step.answer s.blanks) t := by
    cases hc : s.complaint? step with
    | none => exact ⟨s, by rw [takeStep_of_no_complaint hc, work_of_isCheck hcheck]⟩
    | some c =>
      exact ⟨s.reported c, by
        rw [takeStep_of_complaint hplaced hc (hgoes c hc), work_of_isCheck hcheck]⟩
  have hwords : ((s.utterances builtins step).filterMap Remark.ofUtterance?).flatMap
      (Remark.bytesTo s.outputs.ports.err.colours .out) = Utf8.encode (step.answer s.blanks) := by
    unfold utterances
    cases hc : s.complaint? step with
    | none => exact shown_of_isCheck hcheck s builtins _
    | some c =>
      simp only [hgoes c hc, List.filterMap_append, List.flatMap_append,
        shown_of_isCheck hcheck s builtins]
      cases s.drops c <;> simp [Remark.ofUtterance?, Remark.bytesTo]
  have htrace : ∀ phase traced, step ≠ .trace phase traced := by
    rintro phase traced rfl
    cases hcheck
  have hmessage : ∀ text, step ≠ .message text := by
    rintro text rfl
    cases hcheck
  refine ⟨?_, ?_⟩
  · obtain ⟨t, ht⟩ := hprint
    rw [stateAfter_congr ht] at hdone
    rw [stoppedBy_congr ht]
    exact print_ends hdone
  · unfold Ports.textAt
    rw [(takeStep_follows hplaced builtins step).log hdone, List.flatMap_append,
      bytesTo_plain .out (utterances_plain htrace hmessage), hwords]

theorem err_print (text : String) (s : Session) :
    (stateAfter (print text) s).outputs.ports.err = s.outputs.ports.err := by
  have hask : ∀ (request : Request) (ports : Ports),
      (stateAfter (Ports.ask .out request) ports).err = ports.err := by
    intro request ports
    by_cases hv : request.isVoid
    · rw [stateAfter_of_ok (Ports.ask_of_void hv ports)]
    · have ha := Ports.ask_eq (p := .out) hv ports
      split at ha
      · rw [stateAfter_of_ok ha]
        rfl
      · rw [stateAfter_of_error ha]
        rfl
  unfold print whileDoing writeOut
  rw [stateAfter_mapError, outputs_onOutputs, Outputs.stateAfter_onPorts]
  exact hask _ _

/-- While warnings are suppressed, a check only prints its answer. -/
theorem takeStep_of_isCheck (h : s.IsHushed) (hcheck : step.isCheck) (builtins : Registry) :
    takeStep builtins step s = print (step.answer s.blanks) s := by
  rw [← work_of_isCheck hcheck s s builtins]
  cases hc : s.complaint? step with
  | none => exact takeStep_of_no_complaint hc
  | some c => exact takeStep_of_dropped h hc (severity_of_isCheck hcheck hc)

/-- With both switches off the run goes on after a warning, if there has been none before. -/
theorem note_of_switches_off {c : Complaint} (h : s.IsHushed) (hwarning : c.severity = .warning) :
    ((s.withSwitches false false).reporter.note c).1 = .ok () := by
  have hcount : countOne s.reporter.warnings = .ok 1 := by
    rw [h.warnings]
    rfl
  unfold Reporter.note Reporter.noteWarning
  rw [hwarning]
  have hwarnings : (s.withSwitches false false).reporter.warnings = s.reporter.warnings := rfl
  simp only [hwarnings, hcount]
  rfl

/-! ## Fatal warnings -/

/-- Whether errors and warnings that do not end the run by themselves end it. -/
def withFatal (fatal : Bool) (s : Session) : Session :=
  { s with reporter.fatalWarnings := fatal }

/-- The result of an operation, with the switch set afterwards. -/
def setFatal {ε α : Type} (fatal : Bool) :
    EStateM.Result ε Session α → EStateM.Result ε Session α
  | .ok a s => .ok a (s.withFatal fatal)
  | .error e s => .error e (s.withFatal fatal)

/-- An operation does not look at whether warnings are fatal. -/
abbrev Overlooks {ε α : Type} (fatal : Bool) (action : EStateM ε Session α) : Prop :=
  Respects (fun s t => t = s.withFatal fatal) action

namespace Overlooks

variable {ε δ α β : Type} {fatal : Bool}

theorem eq {action : EStateM ε Session α} (h : Overlooks fatal action) (s : Session) :
    action (s.withFatal fatal) = setFatal fatal (action s) := by
  have halike := h.alike (s := s) rfl
  generalize action (s.withFatal fatal) = r' at halike ⊢
  generalize action s = r at halike ⊢
  cases halike with
  | ok a h => exact congrArg (EStateM.Result.ok a) h
  | error e h => exact congrArg (EStateM.Result.error e) h

theorem mapError {f : ε → δ} {action : EStateM ε Session α} (h : Overlooks fatal action) :
    Overlooks fatal (Session.mapError f action) := by
  refine ⟨?_⟩
  rintro s _ rfl
  unfold Session.mapError
  rw [h.eq s]
  cases action s with
  | ok a s' => exact .ok a rfl
  | error e s' => exact .error (f e) rfl

theorem onTracer (action : EStateM ε Tracer α) : Overlooks fatal (Session.onTracer action) := by
  refine ⟨?_⟩
  rintro s _ rfl
  have htracer : (s.withFatal fatal).tracer = s.tracer := rfl
  unfold Session.onTracer
  rw [htracer]
  cases action s.tracer with
  | ok a tracer => exact .ok a rfl
  | error e tracer => exact .error e rfl

theorem onOutputs (action : EStateM ε Outputs α) : Overlooks fatal (Session.onOutputs action) :=
  .onTracer _

theorem get_bind {f : Session → EStateM ε Session α} (h : ∀ s, Overlooks fatal (f s))
    (hf : ∀ s, f (s.withFatal fatal) = f s) : Overlooks fatal (get >>= f) :=
  Respects.get_bind h fun {s _} hst => hst ▸ hf s

theorem modify {f : Session → Session} (h : ∀ s, f (s.withFatal fatal) = (f s).withFatal fatal) :
    Overlooks fatal (modify f : EStateM ε Session PUnit) :=
  Respects.modify fun {s _} hst => hst ▸ h s

theorem whileDoing (doing : String) {action : EStateM SystemError Session α}
    (h : Overlooks fatal action) : Overlooks fatal (Session.whileDoing doing action) := h.mapError

theorem print (text : String) : Overlooks fatal (Session.print text) :=
  .whileDoing _ (.onOutputs _)

theorem flushAll : Overlooks fatal Session.flushAll := .onOutputs _

theorem debugMessage (text : String) : Overlooks fatal (Session.debugMessage text) :=
  .bind (get_bind (fun _ => .onOutputs _) fun _ => rfl) fun _ =>
    .bind (onOutputs _) fun _ => onOutputs _

theorem internalError (message : String) : Overlooks fatal (Session.internalError message) := by
  refine ⟨?_⟩
  rintro s _ rfl
  exact .error _ rfl

theorem traceCall (builtins : Registry) (phase : Phase) (traced : TracedCall) :
    Overlooks fatal (Session.traceCall builtins phase traced) := by
  cases phase with
  | prepre => exact .get_bind (fun _ => .onTracer _) fun _ => rfl
  | post => exact .get_bind (fun _ => .onTracer _) fun _ => rfl
  | pre =>
    refine .get_bind (fun s => ?_) fun _ => rfl
    refine .tryCatch (onTracer _) fun e => ?_
    split
    · exact .bind (.tryCatch flushAll.mapError fun _ => .pure ()) fun _ => internalError _
    · exact .throw _

/-- What a step does besides complaining has nothing to do with the switch. -/
theorem work (s : Session) (builtins : Registry) (step : Step) :
    Overlooks fatal (s.work builtins step) := by
  cases step with
  | location position =>
    show Overlooks fatal (moveTo position)
    unfold moveTo
    cases position.isStray
    · exact .modify fun _ => rfl
    · exact .bind (.throw _) fun _ => modify fun _ => rfl
  | debugMode flags =>
    simp only [Session.work]
    split
    · exact .bind (modify fun _ => rfl) fun _ => onTracer _
    · exact .pure ()
  | debugFile selector =>
    simp only [Session.work]
    split
    · exact .modify fun _ => rfl
    · exact .pure ()
  | trace phase traced => exact .traceCall builtins phase traced
  | message text => exact .whileDoing _ (.debugMessage text)
  | numeric check =>
    simp only [Session.work]
    split
    · exact .print _
    · exact .pure ()
  | flush => exact .whileDoing _ .flushAll
  | error report => exact .pure ()
  | warn report => exact .pure ()
  | _ => exact .print _

end Overlooks

variable {fatal : Bool}

theorem IsHushed.withFatal (h : s.IsHushed) (fatal : Bool) : (s.withFatal fatal).IsHushed :=
  ⟨h.suppress, h.warnings, h.placed⟩

theorem complaint?_withFatal (s : Session) (fatal : Bool) (step : Step) :
    (s.withFatal fatal).complaint? step = s.complaint? step := by
  cases step <;> rfl

theorem work_withFatal (builtins : Registry) (step : Step) :
    (s.withFatal fatal).work builtins step = s.work builtins step := by
  cases step <;> rfl

/-- An error with a status of its own is noted in the same way. -/
theorem note_withFatal (s : Session) (fatal : Bool) {c : Complaint} (herror : c.severity = .error)
    (hstatus : c.status ≠ .success) :
    (s.withFatal fatal).reporter.note c =
      ((s.reporter.note c).1, { (s.reporter.note c).2 with fatalWarnings := fatal }) := by
  unfold Reporter.note Reporter.noteError Reporter.errorStatus
  simp only [herror, hstatus, decide_false, Bool.false_and, Bool.false_eq_true, if_false]
  have herrors : (s.withFatal fatal).reporter.errors = s.reporter.errors := rfl
  rw [herrors]
  cases countOne s.reporter.errors <;> rfl

theorem takeStep_withFatal (h : s.IsHushed) (fatal : Bool) (builtins : Registry) {step : Step}
    (hstatus : ∀ c, s.complaint? step = some c → c.severity = .error → c.status ≠ .success) :
    takeStep builtins step (s.withFatal fatal) = setFatal fatal (takeStep builtins step s) := by
  have hwork : ∀ t, s.work builtins step (t.withFatal fatal) =
      setFatal fatal (s.work builtins step t) := (Overlooks.work s builtins step).eq
  cases hc : s.complaint? step with
  | none =>
    have hc' := (s.complaint?_withFatal fatal step).trans hc
    rw [takeStep_of_no_complaint hc', takeStep_of_no_complaint hc, work_withFatal]
    exact hwork s
  | some c =>
    have hc' := (s.complaint?_withFatal fatal step).trans hc
    cases hseverity : c.severity with
    | warning =>
      rw [takeStep_of_dropped (h.withFatal fatal) hc' hseverity,
        takeStep_of_dropped h hc hseverity, work_withFatal]
      exact hwork s
    | error =>
      have hnote := s.note_withFatal fatal hseverity (hstatus c hc hseverity)
      have hreported : (s.withFatal fatal).reported c = (s.reported c).withFatal fatal := by
        have hshown : s.drops c = false := by simp [drops, hseverity]
        have hshown' : (s.withFatal fatal).drops c = false := by simp [drops, hseverity]
        unfold reported
        rw [hnote]
        simp only [hshown, hshown', Bool.false_eq_true, if_false]
        rfl
      have hverdict := congrArg Prod.fst hnote
      cases hv : (s.reporter.note c).1 with
      | error stop =>
        have hv' := hverdict.trans hv
        rw [takeStep_of_ended (h.withFatal fatal).placed hc' hv', takeStep_of_ended h.placed hc hv,
          hreported]
        rfl
      | ok u =>
        have hv' := hverdict.trans hv
        rw [takeStep_of_complaint (h.withFatal fatal).placed hc' hv',
          takeStep_of_complaint h.placed hc hv, hreported, work_withFatal]
        exact hwork _

theorem takeSteps_withFatal (h : s.IsHushed) (fatal : Bool) (builtins : Registry)
    (hstatus : ∀ c ∈ s.complaints builtins steps, c.severity = .error → c.status ≠ .success) :
    takeSteps builtins steps (s.withFatal fatal) = setFatal fatal (takeSteps builtins steps s) := by
  induction steps generalizing s with
  | nil => rfl
  | cons step rest ih =>
    have hfirst : ∀ c, s.complaint? step = some c → c.severity = .error →
        c.status ≠ .success := by
      intro c hc
      refine hstatus c ?_
      rw [complaints, hc]
      simp
    have hstep' := takeStep_withFatal h fatal builtins hfirst
    have hnext := h.takeStep builtins step
    cases hstep : takeStep builtins step s with
    | ok u s₁ =>
      rw [hstep] at hstep'
      rw [stateAfter_of_ok hstep] at hnext
      rw [takeSteps_of_ok hstep, takeSteps_of_ok hstep']
      refine ih hnext fun c hc => hstatus c ?_
      rw [complaints, hstep]
      exact List.mem_append_right _ hc
    | error stop s₁ =>
      rw [hstep] at hstep'
      rw [takeSteps_of_error hstep, takeSteps_of_error hstep']
      rfl

theorem replaySteps_withFatal (h : s.IsHushed) (fatal : Bool)
    (hstatus : ∀ c ∈ s.complaints Registry.standard steps, c.severity = .error →
      c.status ≠ .success) :
    (s.withFatal fatal).replaySteps steps =
      ((s.replaySteps steps).1, (s.replaySteps steps).2.withFatal fatal) := by
  have hflush : ∀ u : Session, flushAll (u.withFatal fatal) = setFatal fatal (flushAll u) :=
    Overlooks.flushAll.eq
  unfold replaySteps
  rw [takeSteps_withFatal h fatal Registry.standard hstatus]
  cases takeSteps Registry.standard steps s with
  | ok u s' =>
    simp only [setFatal]
    rw [hflush]
    cases flushAll s' <;> rfl
  | error stop s' =>
    cases stop with
    | exit status =>
      simp only [setFatal]
      unfold afterFlush
      rw [hflush]
      cases flushAll s' <;> rfl
    | _ => rfl

/-- The switch is set from the configuration, and nothing else depends on it at the start. -/
theorem ofConfig_withFatal (config : Config) (outputs : Outputs) (fatal : Bool) :
    ofConfig { config with fatalWarnings := fatal } outputs =
      (ofConfig config outputs).map (withFatal fatal) := by
  rw [ofConfig_eq, ofConfig_eq]
  simp only [bind, Except.bind]
  rcases config.debugFlags with _ | flags
  · rcases config.debugFile with _ | path
    · rfl
    · simp only [pure, Except.pure]
      cases outputs.redirect (.ofSelector (some path)) <;> rfl
  · simp only
    cases (Level.decode (some flags)).mapError Failure.badFlag with
    | error failure => rfl
    | ok level =>
      rcases config.debugFile with _ | path
      · rfl
      · simp only
        cases outputs.redirect (.ofSelector (some path)) <;> rfl

/-- While warnings are suppressed, whether or not they are fatal, a replay is the same without the
steps that only warn: it does the same to the streams and the files, and ends in the same way. No
warning is ever counted. A check of arguments prints its answer, as it does when neither switch is
set, and does nothing else; so it stops the run only if standard output refuses the answer. That
warnings are fatal matters only if there is an error that asks for no status of its own. -/
theorem suppressed_without_trace {config : Config} {outputs : Outputs}
    (h : ofConfig config outputs = .ok s) (hsuppress : config.suppressWarnings = true)
    (steps : List Step) :
    s.replaySteps steps = s.replaySteps (steps.filter (!·.onlyWarns)) ∧
    (∀ before, (stateAfter (takeSteps Registry.standard before) s).reporter.warnings = 0) ∧
    (∀ before s₁ step, takeSteps Registry.standard before s = .ok () s₁ → step.isCheck →
      let answer := step.answer s₁.blanks
      let quiet := stateAfter (takeStep Registry.standard step) s₁
      let loud := stateAfter (takeStep Registry.standard step) (s₁.withSwitches false false)
      takeStep Registry.standard step s₁ = print answer s₁ ∧
      quiet.outputs.ports.err = s₁.outputs.ports.err ∧
      (quiet.outputs.ports.Unrefused →
        stoppedBy (takeStep Registry.standard step) s₁ = none ∧
        quiet.outputs.ports.textAt .out =
          s₁.outputs.ports.textAt .out ++ Utf8.encode answer) ∧
      (loud.outputs.ports.Unrefused →
        stoppedBy (takeStep Registry.standard step) (s₁.withSwitches false false) = none ∧
        loud.outputs.ports.textAt .out =
          s₁.outputs.ports.textAt .out ++ Utf8.encode answer)) ∧
    ∀ fatal,
      ofConfig { config with fatalWarnings := fatal } outputs = .ok (s.withFatal fatal) ∧
      ((∀ c ∈ s.complaints Registry.standard steps, c.severity = .error →
          c.status ≠ .success) →
        (s.withFatal fatal).replaySteps steps =
          ((s.replaySteps steps).1, (s.replaySteps steps).2.withFatal fatal)) := by
  have hhushed := isHushed_ofConfig h hsuppress
  refine ⟨replaySteps_congr (takeSteps_filter hhushed Registry.standard steps),
    fun before => (hhushed.takeSteps Registry.standard before).warnings,
    fun before s₁ step hrun hcheck => ?_, fun fatal => ⟨?_, replaySteps_withFatal hhushed fatal⟩⟩
  · intro answer quiet loud
    have hreached := hhushed.takeSteps Registry.standard before
    rw [stateAfter_of_ok hrun] at hreached
    have hprint := takeStep_of_isCheck hreached hcheck Registry.standard
    refine ⟨hprint, ?_, fun hdone => ?_, fun hdone => ?_⟩
    · show (stateAfter (takeStep Registry.standard step) s₁).outputs.ports.err = _
      rw [stateAfter_congr hprint]
      exact err_print answer s₁
    · refine check_answers hreached.placed hcheck (fun c hc => ?_) hdone
      have hdrops : s₁.drops c := by
        simp [drops, severity_of_isCheck hcheck hc, hreached.suppress]
      rw [note_of_drops hdrops]
    · have hplaced : (s₁.withSwitches false false).location.isStray = false := hreached.placed
      exact check_answers hplaced hcheck
        (fun c hc => note_of_switches_off hreached (severity_of_isCheck hcheck hc)) hdone
  · rw [ofConfig_withFatal, h]
    rfl

/-- Warnings of every kind between an answer and an error. -/
def hushedScript : List Step :=
  [.warn { text := "w" }, .debugMode (some "?"), .argc { name := "f", count := 1, least := 1 },
    .numeric { name := "f", text := "x" }, .error { status := 2, text := "e" }]

/-- A session in which warnings are both suppressed and fatal. -/
def hushedSession : Session :=
  { plainSession with reporter := { suppressWarnings := true, fatalWarnings := true } }

theorem suppressed_without_trace_hushedScript :
    ofConfig { suppressWarnings := true, fatalWarnings := true }
        (.start {} (.initial 0) none none) = .ok hushedSession ∧
      (hushedSession.replaySteps hushedScript).1 = .exited 2 ∧
      ((hushedSession.withFatal false).replaySteps hushedScript).1 = .exited 2 ∧
      (hushedSession.replaySteps hushedScript).2.outputs.ports.textAt .err =
        Utf8.encode "m4: e\n" := by
  have hconfig : ofConfig { suppressWarnings := true, fatalWarnings := true }
      (.start {} (.initial 0) none none) = .ok hushedSession := rfl
  have hstatus : ∀ c ∈ hushedSession.complaints Registry.standard hushedScript,
      c.severity = .error → c.status ≠ .success := by
    have hall : (hushedSession.complaints Registry.standard hushedScript).all
        (fun c => c.isWarning || c.status != .success) := by cbv
    intro c hc herror hsuccess
    have hone := List.all_eq_true.mp hall c hc
    simp [Complaint.isWarning, herror, hsuccess] at hone
  have hending : (hushedSession.replaySteps hushedScript).1 = .exited 2 := by cbv
  obtain ⟨hfiltered, -, -, hfatal⟩ := suppressed_without_trace hconfig rfl hushedScript
  refine ⟨hconfig, hending, ?_, ?_⟩
  · rw [(hfatal false).2 hstatus]
    exact hending
  · rw [hfiltered]
    cbv

end Session

end MacroTrace
