import MacroTrace.Replay
import MacroTrace.Proofs.TraceLines
/-!
# What a step complains about, and what else it does

A step first checks what it is given. If it finds fault with it, it reports an error or a warning,
its `Complaint`; and if that does not end the run, it goes on with its work (`Session.work`), as far
as there is any left. The complaint can be told beforehand from the session and the step, and the
work never reports anything.
-/

namespace MacroTrace

/-- Something that is reported at the current position. -/
structure Complaint where
  severity : Severity
  /-- The status that an error asks for. -/
  status : ExitStatus := .success
  /-- The number of the system's error behind it; zero if there is none. -/
  errnum : Int32 := 0
  message : String
deriving DecidableEq, Repr

/-- A warning that has no error of the system behind it. -/
def Complaint.warning (message : String) : Complaint := { severity := .warning, message }

namespace CountCheck

/-- How many arguments there are besides the name of the builtin. -/
def supplied (check : CountCheck) : Nat := check.count.toNat - 1

/-- The complaint about a number of arguments, if it is not right. -/
def complaint? (check : CountCheck) : Option Complaint :=
  if check.supplied < check.least.toNat then
    some (.warning
      s!"{check.name}: too few arguments: {check.supplied} < {check.least.toNat}")
  else
    match check.most with
    | some most =>
      if most.toNat < check.supplied then
        some (.warning
          s!"{check.name}: extra arguments ignored: {check.supplied} > {most.toNat}")
      else none
    | none => none

/-- Whether the call may be taken to expand to nothing. -/
def isEmpty (check : CountCheck) : Bool := check.supplied < check.least.toNat && !check.sideEffect

end CountCheck

namespace NumberCheck

/-- The text of the argument from the first character that is not blank. -/
def trimmed (blanks : Blanks) (check : NumberCheck) : List Char :=
  Numeral.skipBlanks blanks check.text.toList

/-- The complaint about a numeric argument, if it is blank or no numeral. -/
def complaint? (blanks : Blanks) (check : NumberCheck) : Option Complaint :=
  if (check.trimmed blanks).isEmpty then
    some (.warning s!"{check.name}: empty string treated as 0")
  else
    match Numeral.read? blanks (check.trimmed blanks) with
    | some _ => none
    | none => some (.warning s!"{check.name}: non-numeric argument `{check.text}'")

def value? (blanks : Blanks) (check : NumberCheck) : Option Int :=
  if (check.trimmed blanks).isEmpty then some 0
  else Numeral.read? blanks (check.trimmed blanks)

end NumberCheck

namespace Session

/-- What a step complains about, if it finds fault with anything. -/
def complaint? (s : Session) : Step → Option Complaint
  | .error report => some
    { severity := .error, status := report.status, errnum := report.errnum, message := report.text }
  | .warn report => some { severity := .warning, errnum := report.errnum, message := report.text }
  | .debugMode flags =>
    match Level.decode flags with
    | .ok _ => none
    | .error cause => some (.warning s!"debugmode: bad debug flags: `{cause.flags}'")
  | .debugFile selector =>
    match s.outputs.redirect (.ofSelector selector) with
    | .ok _ => none
    | .error failure =>
      let name := selector.getD ""
      some
        { severity := .error
          errnum := (failure.cause?.bind SystemError.number?).getD 0
          message := s!"debugfile: cannot set debug file `{name}'" }
  | .argc check => check.complaint?
  | .numeric check => check.complaint? s.blanks
  | _ => none

def raise (c : Complaint) : Act Unit :=
  match c.severity with
  | .error => error c.status c.errnum c.message
  | .warning => warn c.errnum c.message

def raiseAny : Option Complaint → Act Unit
  | some c => raise c
  | none => pure ()

/-- What a step does besides complaining. -/
def work (s : Session) (builtins : Registry) : Step → Act Unit
  | .location position => moveTo position
  | .debugMode flags =>
    match Level.decode flags with
    | .ok level => setLevel level
    | .error _ => pure ()
  | .debugFile selector =>
    match s.outputs.redirect (.ofSelector selector) with
    | .ok outputs => modify fun s => { s with tracer.outputs := outputs }
    | .error _ => pure ()
  | .trace phase traced => traceCall builtins phase traced
  | .message text => whileDoing "writing debug message" (debugMessage text)
  | .output text => print text
  | .error _ | .warn _ => pure ()
  | .argc check => print s!"{check.isEmpty}\n"
  | .numeric check =>
    match check.value? s.blanks with
    | some value => print s!"{value}\n"
    | none => pure ()
  | .dumpArgs dump => print (s.dumpArgs dump.args dump.separator dump.isQuoted ++ "\n")
  | .flush => whileDoing "flushing output" flushAll

/-! ## Steps in two parts -/

theorem checkArgCount_eq (check : CountCheck) :
    checkArgCount check.name check.count check.least check.most check.sideEffect =
      (raiseAny check.complaint? >>= fun _ => pure check.isEmpty) := by
  unfold checkArgCount CountCheck.complaint? CountCheck.isEmpty
  show (if check.supplied < check.least.toNat then _ else _) = _
  by_cases hfew : check.supplied < check.least.toNat
  · simp only [hfew, if_true, decide_true, Bool.true_and]
    rfl
  · simp only [hfew, if_false, decide_false, Bool.false_and]
    cases check.most with
    | none => rfl
    | some most =>
      show (if most.toNat < check.supplied then _ else _) = _
      by_cases hmany : most.toNat < check.supplied
      · simp only [hmany, if_true]
        rfl
      · simp only [hmany, if_false]
        rfl

theorem numericArg_eq (check : NumberCheck) (s : Session) :
    numericArg check.name check.text s =
      (raiseAny (check.complaint? s.blanks) >>= fun _ => pure (check.value? s.blanks)) s := by
  unfold numericArg NumberCheck.complaint? NumberCheck.value?
  rw [get_bind]
  show (if (check.trimmed s.blanks).isEmpty then _ else _ : Act (Option Int)) s = _
  by_cases hblank : (check.trimmed s.blanks).isEmpty
  · simp only [hblank, if_true]
    rfl
  · simp only [hblank, Bool.false_eq_true, if_false]
    show (match Numeral.read? s.blanks (check.trimmed s.blanks) with
      | some value => pure (some value)
      | none => _ : Act (Option Int)) s = _
    cases Numeral.read? s.blanks (check.trimmed s.blanks) <;> rfl

/-- A step complains, if it has anything to complain about, and then does the rest of its work. -/
theorem takeStep_eq (builtins : Registry) (step : Step) (s : Session) :
    takeStep builtins step s =
      (raiseAny (s.complaint? step) >>= fun _ => s.work builtins step) s := by
  cases step with
  | debugMode flags =>
    simp only [takeStep, changeLevel, complaint?, work]
    cases Level.decode flags with
    | ok level => rfl
    | error cause =>
      simp only [bind_pure_unit]
      rfl
  | debugFile selector =>
    simp only [takeStep, changeDebugFile, complaint?, work]
    cases s.outputs.redirect (.ofSelector selector) with
    | ok outputs => rfl
    | error failure =>
      simp only [bind_pure_unit]
      rfl
  | error report =>
    simp only [complaint?, work, bind_pure_unit]
    rfl
  | warn report =>
    simp only [complaint?, work, bind_pure_unit]
    rfl
  | argc check =>
    show (checkArgCount check.name check.count check.least check.most check.sideEffect
      >>= fun empty => print s!"{empty}\n") s = _
    rw [checkArgCount_eq, bind_assoc]
    simp only [pure_bind]
    rfl
  | numeric check =>
    refine (bind_congr_left (numericArg_eq check s) _).trans ?_
    rw [bind_assoc]
    simp only [pure_bind]
    rfl
  | _ => rfl

end Session

/-! ## Complaints -/

/-- Takes note of a complaint, and tells how the run goes on. -/
def Reporter.note (r : Reporter) (c : Complaint) : Except Stop Unit × Reporter :=
  match c.severity with
  | .error => r.noteError c.status
  | .warning => if r.suppressWarnings then (.ok (), r) else r.noteWarning

namespace Session

def drops (s : Session) (c : Complaint) : Bool :=
  c.severity = .warning && s.reporter.suppressWarnings

/-- The report that a complaint becomes. -/
def diagnostic (s : Session) (c : Complaint) : Diagnostic where
  severity := c.severity
  program := s.program
  position := match s.location.reportable with
    | .ok position => position
    | .error _ => none
  message := c.message
  errnum := c.errnum

/-- The session once a complaint has been reported. -/
def reported (s : Session) (c : Complaint) : Session :=
  if s.drops c then s
  else { s.mapPorts (s.diagnostic c).send with reporter := (s.reporter.note c).2 }

/-- The position shown is the one that is asked for. -/
theorem reportPosition_eq {s : Session} (h : s.location.isStray = false) :
    ∃ file line, reportPosition s = .ok (file, line) s ∧
      ∀ c, (if line = 0 then none else some (file, line)) = (s.diagnostic c).position := by
  unfold Location.isStray at h
  unfold reportPosition diagnostic Location.reportable
  cases hf : s.location.file with
  | some file =>
    by_cases hl : s.location.line = 0
    · exact ⟨"", 0, by simp [get_bind, hf, hl]; rfl, fun c => by simp [hl]⟩
    · exact ⟨file, s.location.line, by simp [get_bind, hf, hl]; rfl, fun c => by simp [hl]⟩
  | none =>
    have hl : s.location.line = 0 := by simpa [hf] using h
    exact ⟨"", 0, by simp [get_bind, hf, hl]; rfl, fun c => by simp [hl]⟩

section Reports

variable (s : Session) (status : ExitStatus) (errnum : Int32) (file : String) (line : UInt32)
  (message : String)

theorem errorAt_eq {d : Diagnostic}
    (h : d = { severity := .error, program := s.program, errnum, message
               position := if line = 0 then none else some (file, line) }) :
    errorAt status errnum file line message s = match (s.reporter.noteError status).1 with
      | .ok () =>
        .ok () { s.mapPorts d.send with reporter := (s.reporter.noteError status).2 }
      | .error stop =>
        .error stop { s.mapPorts d.send with reporter := (s.reporter.noteError status).2 } := by
  subst h
  rfl

theorem warnAt_eq {d : Diagnostic} (hshown : s.reporter.suppressWarnings = false)
    (h : d = { severity := .warning, program := s.program, errnum, message
               position := if line = 0 then none else some (file, line) }) :
    warnAt errnum file line message s = match s.reporter.noteWarning.1 with
      | .ok () =>
        .ok () { s.mapPorts d.send with reporter := s.reporter.noteWarning.2 }
      | .error stop =>
        .error stop { s.mapPorts d.send with reporter := s.reporter.noteWarning.2 } := by
  subst h
  unfold warnAt
  rw [hshown]
  rfl

end Reports

/-- Reporting a complaint never fails half way; the reporter alone decides how the run goes on. -/
theorem raise_eq {s : Session} (h : s.location.isStray = false) (c : Complaint) :
    raise c s = match (s.reporter.note c).1 with
      | .ok () => .ok () (s.reported c)
      | .error stop => .error stop (s.reported c) := by
  obtain ⟨file, line, hposition, hshown⟩ := reportPosition_eq h
  have hdiagnostic : s.diagnostic c =
      { severity := c.severity, program := s.program, errnum := c.errnum, message := c.message
        position := if line = 0 then none else some (file, line) } := by
    rw [hshown c]
    rfl
  unfold raise reported drops Reporter.note
  cases hc : c.severity with
  | error =>
    rw [hc] at hdiagnostic
    show (reportPosition >>= fun position =>
      errorAt c.status c.errnum position.1 position.2 c.message) s = _
    rw [bind_of_ok hposition]
    exact errorAt_eq s c.status c.errnum file line c.message hdiagnostic
  | warning =>
    rw [hc] at hdiagnostic
    show (reportPosition >>= fun position =>
      warnAt c.errnum position.1 position.2 c.message) s = _
    rw [bind_of_ok hposition]
    cases hs : s.reporter.suppressWarnings with
    | false => exact warnAt_eq s c.errnum file line c.message hs hdiagnostic
    | true => simp [warnAt, hs]

/-! ## Work -/

/-- Between two sessions at most the pending line and what has been written have changed. -/
def Writes (s s' : Session) : Prop := s' = { s with tracer := s'.tracer }

theorem Writes.refl (s : Session) : Writes s s := rfl

theorem Writes.trans {s s' s'' : Session} (h : Writes s s') (h' : Writes s' s'') :
    Writes s s'' := by
  unfold Writes at h h' ⊢
  rw [h', h]

theorem stateAfter_onTracer {ε α : Type} (action : EStateM ε Tracer α) (s : Session) :
    stateAfter (onTracer action) s = { s with tracer := stateAfter action s.tracer } := by
  unfold stateAfter onTracer
  cases action s.tracer <;> rfl

theorem onTracer_writes {ε α : Type} (action : EStateM ε Tracer α) (s : Session) :
    Writes s (stateAfter (onTracer action) s) := by
  rw [stateAfter_onTracer]
  rfl

theorem mapPorts_writes (f : Ports → Ports) (s : Session) : Writes s (s.mapPorts f) := rfl

theorem debugMessage_writes (text : String) (s : Session) :
    Writes s (stateAfter (debugMessage text) s) := by
  have hheader : Writes s (stateAfter writeMessageHeader s) := by
    unfold writeMessageHeader
    rw [stateAfter_congr (get_bind _ s)]
    exact onTracer_writes _ s
  refine stateAfter_bind (R := Writes) Writes.trans hheader fun _ s₁ _ => ?_
  refine stateAfter_bind (R := Writes) Writes.trans (onTracer_writes _ s₁) fun _ s₂ _ => ?_
  exact onTracer_writes _ s₂

/-- The act by which a call is traced in a phase. -/
def traceAct (builtins : Registry) (phase : Phase) (traced : TracedCall) : TraceAct :=
  match phase with
  | .prepre => .prepre traced.call
  | .pre => .pre builtins traced.call
  | .post => .post traced.call traced.result

/-- Tracing a call does what its marks say. -/
theorem traceCall_endsIn {builtins : Registry} {phase : Phase} {traced : TracedCall} {s : Session}
    {marks : List TraceMark}
    (h : (traceAct builtins phase traced).marks? s.traceSettings = some marks) :
    EndsIn (traceCall builtins phase traced) s
      { s with tracer := marks.foldl Tracer.take s.tracer } := by
  cases phase with
  | prepre =>
    cases h
    exact tracePrepre_endsIn traced.call s
  | pre => exact tracePre_endsIn h
  | post =>
    cases h
    exact tracePost_endsIn traced.call traced.result s

theorem traceCall_aborts {builtins : Registry} {phase : Phase} {traced : TracedCall} {s : Session}
    (h : (traceAct builtins phase traced).marks? s.traceSettings = none) :
    ∃ s', traceCall builtins phase traced s = .error .abort s' ∧ Writes s s' := by
  cases phase with
  | pre =>
    obtain ⟨id, hid⟩ : ∃ id, s.traceSettings.unknownBuiltin? builtins traced.call = some id := by
      cases hu : s.traceSettings.unknownBuiltin? builtins traced.call with
      | some id => exact ⟨id, rfl⟩
      | none => simp [traceAct, TraceAct.marks?, hu] at h
    refine ⟨_, tracePre_of_unknown hid, ?_⟩
    have hdrop : Writes s { s with tracer := s.tracer.take .drop } := rfl
    exact (hdrop.trans (onTracer_writes _ _)).trans (mapPorts_writes _ _)
  | _ => cases h

/-- An operation neither reports anything nor asks for the end of the run: it stops only for a
failure, or because the program ends itself. -/
structure Quiet (action : Act Unit) (s : Session) : Prop where
  reporter : (stateAfter action s).reporter = s.reporter
  placed : s.location.isStray = false → (stateAfter action s).location.isStray = false
  stop : ∀ stop s', action s = .error stop s' → (∃ cause, stop = .failure cause) ∨ stop = .abort

theorem Quiet.pure (s : Session) : Quiet (Pure.pure ()) s where
  reporter := rfl
  placed h := h
  stop _ _ h := by cases h

theorem Quiet.of_writes {action : Act Unit} {s : Session} (h : Writes s (stateAfter action s))
    (hstop : ∀ stop s', action s = .error stop s' →
      (∃ cause, stop = .failure cause) ∨ stop = .abort) :
    Quiet action s where
  reporter := by rw [h]
  placed hs := by
    rw [h]
    exact hs
  stop := hstop

theorem Quiet.whileDoing {action : EStateM SystemError Session Unit} {s : Session}
    (h : Writes s (stateAfter action s)) (doing : String) :
    Quiet (Session.whileDoing doing action) s := by
  refine .of_writes ?_ fun stop s' herror => ?_
  · unfold Session.whileDoing
    rw [stateAfter_mapError]
    exact h
  · unfold Session.whileDoing mapError at herror
    split at herror
    · cases herror
    · cases herror
      exact .inl ⟨_, rfl⟩

theorem print_quiet (text : String) (s : Session) : Quiet (print text) s :=
  .whileDoing (onTracer_writes _ s) _

theorem traceCall_quiet (builtins : Registry) (phase : Phase) (traced : TracedCall) (s : Session) :
    Quiet (traceCall builtins phase traced) s := by
  cases hm : (traceAct builtins phase traced).marks? s.traceSettings with
  | none =>
    obtain ⟨s', habort, hwrites⟩ := traceCall_aborts hm
    refine .of_writes ?_ fun stop s'' herror => ?_
    · rw [stateAfter_of_error habort]
      exact hwrites
    · rw [habort] at herror
      cases herror
      exact .inr rfl
  | some marks =>
    cases traceCall_endsIn hm with
    | ended h =>
      refine .of_writes ?_ fun stop s'' herror => ?_
      · rw [stateAfter_of_ok h]
        rfl
      · rw [h] at herror
        cases herror
    | failed cause h _ =>
      refine .of_writes ?_ fun stop s'' herror => ?_
      · rw [stateAfter_of_error h]
        rfl
      · rw [h] at herror
        cases herror
        exact .inl ⟨cause, rfl⟩

theorem moveTo_quiet (position : Location) (s : Session) : Quiet (moveTo position) s := by
  unfold moveTo
  cases hstray : position.isStray with
  | true =>
    refine .of_writes rfl fun stop s' herror => ?_
    cases herror
    exact .inl ⟨_, rfl⟩
  | false =>
    exact { reporter := rfl, placed := fun _ => hstray, stop := fun _ _ h => by cases h }

/-- The work of a step is quiet: only its complaint is reported. -/
theorem work_quiet (s : Session) (builtins : Registry) (step : Step) (s₁ : Session) :
    Quiet (s.work builtins step) s₁ := by
  cases step with
  | location position => exact moveTo_quiet position s₁
  | debugMode flags =>
    simp only [work]
    split
    · exact { reporter := rfl, placed := fun h => h, stop := fun _ _ h => by cases h }
    · exact .pure s₁
  | debugFile selector =>
    simp only [work]
    split
    · exact .of_writes rfl fun _ _ h => by cases h
    · exact .pure s₁
  | trace phase traced => exact traceCall_quiet builtins phase traced s₁
  | message text => exact .whileDoing (debugMessage_writes text s₁) _
  | numeric check =>
    simp only [work]
    split
    · exact print_quiet _ s₁
    · exact .pure s₁
  | error report => exact .pure s₁
  | warn report => exact .pure s₁
  | flush => exact .whileDoing (onTracer_writes _ s₁) _
  | _ => exact print_quiet _ s₁

/-! ## Whole steps -/

theorem location_reported (s : Session) (c : Complaint) : (s.reported c).location = s.location := by
  unfold reported
  split <;> rfl

theorem note_of_drops {s : Session} {c : Complaint} (h : s.drops c) :
    s.reporter.note c = (.ok (), s.reporter) := by
  obtain ⟨hwarning, hsuppress⟩ := Bool.and_eq_true_iff.mp h
  unfold Reporter.note
  rw [of_decide_eq_true hwarning]
  simp [hsuppress]

theorem reporter_reported (s : Session) (c : Complaint) :
    (s.reported c).reporter = (s.reporter.note c).2 := by
  unfold reported
  split
  · rename_i h
    rw [note_of_drops h]
  · rfl

section Steps

variable {builtins : Registry} {step : Step} {s s' : Session} {c : Complaint} {stop : Stop}

theorem takeStep_of_no_complaint (h : s.complaint? step = none) :
    takeStep builtins step s = s.work builtins step s := by
  rw [takeStep_eq, h]
  rfl

/-- A complaint that ends the run does so before any other work is done. -/
theorem takeStep_of_ended (hplaced : s.location.isStray = false) (h : s.complaint? step = some c)
    (hends : (s.reporter.note c).1 = .error stop) :
    takeStep builtins step s = .error stop (s.reported c) := by
  have hraise : raiseAny (some c) s = .error stop (s.reported c) := by
    show raise c s = _
    rw [raise_eq hplaced, hends]
  rw [takeStep_eq, h, bind_of_error hraise]

/-- After a complaint that does not end the run, the other work is done. -/
theorem takeStep_of_complaint (hplaced : s.location.isStray = false)
    (h : s.complaint? step = some c) (hgoes : (s.reporter.note c).1 = .ok ()) :
    takeStep builtins step s = s.work builtins step (s.reported c) := by
  have hraise : raiseAny (some c) s = .ok () (s.reported c) := by
    show raise c s = _
    rw [raise_eq hplaced, hgoes]
  rw [takeStep_eq, h, bind_of_ok hraise]

/-- The reporter takes note of the complaint, and of nothing else. -/
theorem reporter_takeStep (hplaced : s.location.isStray = false) :
    (stateAfter (takeStep builtins step) s).reporter = match s.complaint? step with
      | some c => (s.reporter.note c).2
      | none => s.reporter := by
  cases h : s.complaint? step with
  | none =>
    rw [stateAfter_congr (takeStep_of_no_complaint h)]
    exact (work_quiet s builtins step s).reporter
  | some c =>
    show _ = (s.reporter.note c).2
    rw [← reporter_reported]
    cases hv : (s.reporter.note c).1 with
    | error stop => rw [stateAfter_of_error (takeStep_of_ended hplaced h hv)]
    | ok _ =>
      rw [stateAfter_congr (takeStep_of_complaint hplaced h hv)]
      exact (work_quiet s builtins step _).reporter

theorem placed_takeStep (hplaced : s.location.isStray = false) :
    (stateAfter (takeStep builtins step) s).location.isStray = false := by
  cases h : s.complaint? step with
  | none =>
    rw [stateAfter_congr (takeStep_of_no_complaint h)]
    exact (work_quiet s builtins step s).placed hplaced
  | some c =>
    have hreported : (s.reported c).location.isStray = false := by rwa [location_reported]
    cases hv : (s.reporter.note c).1 with
    | error stop =>
      rw [stateAfter_of_error (takeStep_of_ended hplaced h hv)]
      exact hreported
    | ok _ =>
      rw [stateAfter_congr (takeStep_of_complaint hplaced h hv)]
      exact (work_quiet s builtins step _).placed hreported

/-- What stops a step: its complaint, a failure, or the program itself. -/
theorem takeStep_stop (hplaced : s.location.isStray = false)
    (h : takeStep builtins step s = .error stop s') :
    (∃ c, s.complaint? step = some c ∧ (s.reporter.note c).1 = .error stop) ∨
      (∃ cause, stop = .failure cause) ∨ stop = .abort := by
  cases hc : s.complaint? step with
  | none =>
    rw [takeStep_of_no_complaint hc] at h
    exact .inr ((work_quiet s builtins step s).stop stop s' h)
  | some c =>
    cases hv : (s.reporter.note c).1 with
    | error ended =>
      rw [takeStep_of_ended hplaced hc hv] at h
      cases h
      exact .inl ⟨c, rfl, hv⟩
    | ok _ =>
      rw [takeStep_of_complaint hplaced hc hv] at h
      exact .inr ((work_quiet s builtins step _).stop stop s' h)

end Steps

/-! ## The start -/

/-- A session is set up with the settings of the configuration; at most the destination is not the
one that the outputs had. -/
theorem ofConfig_eq_ok {config : Config} {outputs : Outputs} {s : Session}
    (h : ofConfig config outputs = .ok s) :
    ∃ level outputs',
      s = { start outputs' with
            program := config.programName, level, limit := config.maxDebugArgLength
            quotes := ⟨config.leftQuote, config.rightQuote⟩
            reporter :=
              { suppressWarnings := config.suppressWarnings
                fatalWarnings := config.fatalWarnings } } ∧
      (outputs' = outputs ∨ ∃ target, outputs.redirect target = .ok outputs') := by
  rw [ofConfig_eq] at h
  rcases hflags : config.debugFlags with _ | flags
  all_goals
    rw [hflags] at h
    obtain ⟨level, -, h⟩ := except_bind_eq_ok h
    rcases hfile : config.debugFile with _ | path
    all_goals
      rw [hfile] at h
      obtain ⟨outputs', hchosen, h⟩ := except_bind_eq_ok h
      cases h
      refine ⟨level, outputs', rfl, ?_⟩
    · cases hchosen
      exact .inl rfl
    · exact .inr ⟨_, hchosen⟩

end Session

end MacroTrace
