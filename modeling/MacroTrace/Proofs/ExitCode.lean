import MacroTrace.Program
import MacroTrace.Proofs.TwoRuns
/-!
# What the exit code tells

The program ends with a status, of which the system hands on the last eight bits. A failure of any
kind leads to a status other than success: the first error marks the run for good, and nothing ever
asks for its end with success. Still a run that went wrong may look like a success from outside,
because a script chooses the status of its errors, and of a multiple of 256 nothing is left.
`Program.success_after_failure_iff` says that there is no other way.
-/

namespace MacroTrace

/-! ## The mark of a failed run -/

/-- Whether an error has been reported is what the status of a reporter says. -/
structure Reporter.Marks (r : Reporter) (isFailed : Bool) : Prop where
  status : r.status = if isFailed then .failure else .success
  errors : isFailed = false → r.errors = 0

theorem Reporter.Marks.note {r : Reporter} {isFailed : Bool} (h : r.Marks isFailed)
    (c : Complaint) : (r.note c).2.Marks (isFailed || c.isError) := by
  unfold Reporter.note Complaint.isError
  cases hc : c.severity with
  | error =>
    simp only [noteError, decide_true, Bool.or_true]
    cases hcount : countOne r.errors with
    | ok errors => exact ⟨rfl, fun hfalse => by cases hfalse⟩
    | error breach =>
      -- The count is full, so this is not the first error.
      have hfailed : isFailed = true := by
        cases isFailed with
        | true => rfl
        | false =>
          rw [h.errors rfl] at hcount
          cases hcount
      refine ⟨?_, fun hfalse => by cases hfalse⟩
      rw [h.status, hfailed]
  | warning =>
    have hkeeps : (isFailed || decide (Severity.warning = .error)) = isFailed :=
      Bool.or_false isFailed
    rw [hkeeps]
    cases r.suppressWarnings with
    | true => exact h
    | false =>
      simp only [noteWarning, Bool.false_eq_true, if_false]
      cases countOne r.warnings with
      | ok warnings => exact ⟨h.status, h.errors⟩
      | error breach => exact h

/-! ## The status that a run is ended with -/

theorem CountCheck.status_of_complaint {check : CountCheck} {c : Complaint}
    (h : check.complaint? = some c) : c.status = .success := by
  unfold CountCheck.complaint? at h
  split at h
  · cases h
    rfl
  · split at h
    · split at h
      · cases h
        rfl
      · cases h
    · cases h

theorem NumberCheck.status_of_complaint {check : NumberCheck} {blanks : Blanks} {c : Complaint}
    (h : check.complaint? blanks = some c) : c.status = .success := by
  unfold NumberCheck.complaint? at h
  split at h
  · cases h
    rfl
  · split at h
    · cases h
    · cases h
      rfl

/-- A complaint ends the run as a failed one, or with the status that it asks for. -/
theorem Complaint.status_of_endsWith {c : Complaint} {suppressWarnings fatalWarnings : Bool}
    {status : ExitStatus} (h : c.endsWith? suppressWarnings fatalWarnings = some status) :
    status = .failure ∨ c.status = status := by
  unfold Complaint.endsWith? at h
  split at h
  · split at h
    · exact .inr (Option.some.inj h)
    · split at h
      · exact .inl (Option.some.inj h).symm
      · cases h
  · split at h
    · exact .inl (Option.some.inj h).symm
    · cases h

namespace Session

variable {s s' : Session} {builtins : Registry} {step : Step} {steps : List Step}
  {isFailed : Bool} {status : ExitStatus}

/-- A session in the course of a run, marked if an error has been reported. -/
structure Marked (isFailed : Bool) (s : Session) : Prop where
  marks : s.reporter.Marks isFailed
  placed : s.location.isStray = false

theorem marked_ofConfig {config : Config} {outputs : Outputs}
    (h : ofConfig config outputs = .ok s) : s.Marked false := by
  obtain ⟨level, outputs', rfl, -⟩ := ofConfig_eq_ok h
  exact ⟨⟨rfl, fun _ => rfl⟩, rfl⟩

theorem Marked.takeStep (h : s.Marked isFailed) (builtins : Registry) (step : Step) :
    (stateAfter (Session.takeStep builtins step) s).Marked
      (isFailed || (s.complaint? step).toList.any (·.isError)) := by
  refine ⟨?_, placed_takeStep h.placed⟩
  rw [reporter_takeStep h.placed]
  cases s.complaint? step with
  | none =>
    rw [Option.toList_none, List.any_nil, Bool.or_false]
    exact h.marks
  | some c =>
    rw [Option.toList_some, List.any_cons, List.any_nil, Bool.or_false]
    exact h.marks.note c

/-- However long a run is, it is marked as failed if and only if an error has been reported. -/
theorem Marked.takeSteps (h : s.Marked isFailed) (builtins : Registry) (steps : List Step) :
    (stateAfter (Session.takeSteps builtins steps) s).Marked
      (isFailed || (s.complaints builtins steps).any (·.isError)) := by
  have hstart : s.Marked (isFailed || [].any Complaint.isError) := by
    rwa [List.any_nil, Bool.or_false]
  refine takeSteps_keeps (I := fun reports s => s.Marked (isFailed || reports.any (·.isError)))
    (fun {reports s} _ h step => ?_) hstart le_rfl
  have hstep := h.takeStep builtins step
  rwa [Bool.or_assoc, ← List.any_append] at hstep

/-- Only an error has a status of its own. -/
theorem error_of_complaint {c : Complaint} (h : s.complaint? step = some c)
    (hstatus : c.status ≠ .success) :
    ∃ report, step = .error report ∧ report.status = c.status := by
  cases step with
  | error report =>
    cases h
    exact ⟨report, rfl, rfl⟩
  | warn report =>
    cases h
    exact absurd rfl hstatus
  | debugMode flags =>
    simp only [complaint?] at h
    split at h
    · cases h
    · cases h
      exact absurd rfl hstatus
  | debugFile selector =>
    simp only [complaint?] at h
    split at h
    · cases h
    · cases h
      exact absurd rfl hstatus
  | argc check => exact absurd (CountCheck.status_of_complaint h) hstatus
  | numeric check => exact absurd (NumberCheck.status_of_complaint h) hstatus
  | _ => cases h

/-- A step that ends the run does so as a failed one, or it is an error with a status. -/
theorem status_of_exit (hplaced : s.location.isStray = false)
    (h : takeStep builtins step s = .error (.exit status) s') :
    status ≠ .success ∧
      (status = .failure ∨ ∃ report, step = .error report ∧ report.status = status) := by
  rcases takeStep_stop hplaced h with ⟨c, hc, hv⟩ | ⟨cause, hcause⟩ | habort
  · rcases note_cases s.reporter c with ⟨breach, hfull⟩ | hverdict
    · rw [hfull] at hv
      cases hv
    · cases hends : c.endsWith? s.reporter.suppressWarnings s.reporter.fatalWarnings with
      | none =>
        rw [hverdict, hends] at hv
        cases hv
      | some ended =>
        rw [hverdict, hends] at hv
        cases hv
        have hstatus : status ≠ .success := fun hsuccess =>
          Complaint.endsWith?_ne_success _ _ c (hsuccess ▸ hends)
        refine ⟨hstatus, ?_⟩
        rcases Complaint.status_of_endsWith hends with hfailure | hown
        · exact .inl hfailure
        · obtain ⟨report, hreport, hsame⟩ := error_of_complaint hc (hown ▸ hstatus)
          exact .inr ⟨report, hreport, hsame.trans hown⟩
  · cases hcause
  · cases habort

theorem ending_of_stop {stop : Stop}
    (h : stoppedBy (takeSteps Registry.standard steps) s = some stop) :
    (s.replaySteps steps).1 = match stop with
      | .exit status => .exited status
      | .failure cause => .failed cause
      | .panic breach => .panicked breach
      | .abort => .aborted := by
  rw [replaySteps_of_error (eq_error_of_stoppedBy h)]
  cases stop <;> rfl

/-- If all steps are taken, then the last flush decides how the replay ends. -/
theorem ending_of_done (h : stoppedBy (takeSteps Registry.standard steps) s = none) :
    (s.replaySteps steps).1 = .finished (s.replaySteps steps).2.reporter.status ∨
      ∃ cause, (s.replaySteps steps).1 = .failed cause := by
  unfold replaySteps
  rw [eq_ok_of_stoppedBy h]
  simp only
  cases flushAll (stateAfter (takeSteps Registry.standard steps) s) with
  | ok u s' => exact .inl rfl
  | error cause s' => exact .inr ⟨_, rfl⟩

theorem status_of_finished (h : (s.replaySteps steps).1 = .finished status) :
    (stateAfter (takeSteps Registry.standard steps) s).reporter.status = status := by
  rw [← reporter_replaySteps]
  cases hstop : stoppedBy (takeSteps Registry.standard steps) s with
  | none =>
    rcases ending_of_done hstop with hended | ⟨cause, hended⟩
    · rw [h] at hended
      exact (Ending.finished.inj hended).symm
    · rw [h] at hended
      cases hended
  | some stop =>
    rw [ending_of_stop hstop] at h
    cases stop <;> cases h

theorem stop_of_exited (h : (s.replaySteps steps).1 = .exited status) :
    stoppedBy (takeSteps Registry.standard steps) s = some (.exit status) := by
  cases hstop : stoppedBy (takeSteps Registry.standard steps) s with
  | none =>
    rcases ending_of_done hstop with hended | ⟨cause, hended⟩
    · rw [h] at hended
      cases hended
    · rw [h] at hended
      cases hended
  | some stop =>
    rw [ending_of_stop hstop] at h
    cases stop with
    | exit ended => rw [Ending.exited.inj h]
    | _ => cases h

end Session

/-! ## Codes -/

/-- Nothing is left of a status in the exit code if it is a multiple of 256. -/
theorem ExitStatus.code_eq_zero_iff (status : ExitStatus) :
    status.code = 0 ↔ 256 ∣ status.toInt := by
  unfold ExitStatus.code UInt8.ofInt
  rw [← UInt8.toNat_inj, UInt8.toNat_ofNat']
  simp only [UInt8.toNat_zero]
  omega

namespace Program

theorem endOf_eq_zero_iff (ending : Ending) :
    endOf ending = .exited 0 ↔
      ∃ status, (ending = .finished status ∨ ending = .exited status) ∧ 256 ∣ status.toInt := by
  cases ending with
  | finished status => simp [endOf, ExitStatus.code_eq_zero_iff]
  | exited status => simp [endOf, ExitStatus.code_eq_zero_iff]
  | failed cause =>
    have hcode : ExitStatus.failure.code ≠ 0 := by decide
    simp [endOf, hcode]
  | panicked breach => simp [endOf, panicCode]
  | aborted => simp [endOf]

/-- What is shown in the end makes no success of a failure. -/
theorem conclude_eq_zero_iff (colours : Bool) (ending : Ending) (ports : Ports) :
    (conclude colours ending ports).1 = .exited 0 ↔ endOf ending = .exited 0 := by
  cases ending with
  | failed cause =>
    have hcode : ExitStatus.failure.code ≠ 0 := by decide
    simp only [conclude]
    split
    · rfl
    · simp [endOf, panicCode, hcode]
  | _ => rfl

variable {c : CommandLine} {out err : Sink} {isTerminal : Bool} {s : FileStore} {outputs : Outputs}

/-- The outputs with which a replay starts, once the files are there that the standard streams lead
to. -/
def startingOutputs (c : CommandLine) (out err : Sink) (isTerminal : Bool) (s : FileStore) :
    Except SystemError Outputs := do
  let s ← openSink err (← openSink out s)
  return initialOutputs out err (coloured c.colour isTerminal) s

theorem run_of_startingOutputs (h : startingOutputs c out err isTerminal s = .ok outputs) :
    ∃ outcome, run c out err isTerminal s = .ok outcome ∧
      outcome.ended =
        (conclude (coloured c.colour isTerminal) (replay c outputs).1
          (replay c outputs).2.ports).1 := by
  obtain ⟨s₁, hout, h⟩ := except_bind_eq_ok h
  obtain ⟨s₂, herr, h⟩ := except_bind_eq_ok h
  cases h
  unfold run
  rw [hout]
  simp only [bind, Except.bind]
  rw [herr]
  refine ⟨_, rfl, ?_⟩
  -- Whether or not the files are closed, the ports stay as they are.
  simp only [apply_ite Outputs.ports, ite_self]

/-- A replay goes wrong: an error is reported in its course, a step asks for its end, or it
fails. -/
inductive WentWrong (c : CommandLine) (outputs : Outputs) : Prop
  | reported {session : Session} {steps : List Step} {complaint : Complaint}
    (h : prepare c outputs = .ok (session, steps))
    (hin : complaint ∈ session.complaints Registry.standard steps) (herror : complaint.isError)
  | exited {status : ExitStatus} (h : (replay c outputs).1 = .exited status)
  | failed {cause : Failure} (h : (replay c outputs).1 = .failed cause)

/-- A replay is ended by an error whose status is a multiple of 256, but not zero. -/
def HidesStatus (c : CommandLine) (outputs : Outputs) : Prop :=
  ∃ session before report later s s',
    prepare c outputs = .ok (session, before ++ .error report :: later) ∧
    Session.takeSteps Registry.standard before session = .ok () s ∧
    Session.takeStep Registry.standard (.error report) s = .error (.exit report.status) s' ∧
    report.status ≠ .success ∧ 256 ∣ report.status.toInt

theorem replay_of_prepare {session : Session} {steps : List Step}
    (h : prepare c outputs = .ok (session, steps)) :
    (replay c outputs).1 = (session.replaySteps steps).1 := by
  obtain ⟨last, hset⟩ := eq_ok_of_resultOf h
  unfold replay
  rw [hset]

theorem exists_prepare {ending : Ending} (h : (replay c outputs).1 = ending)
    (hended : ∀ cause, ending ≠ .failed cause) :
    ∃ session steps, prepare c outputs = .ok (session, steps) ∧
      (session.replaySteps steps).1 = ending := by
  cases hprepare : prepare c outputs with
  | ok prepared =>
    refine ⟨prepared.1, prepared.2, rfl, ?_⟩
    rw [← replay_of_prepare hprepare, h]
  | error cause =>
    obtain ⟨last, hset⟩ := eq_error_of_resultOf hprepare
    unfold replay at h
    rw [hset] at h
    exact absurd h.symm (hended cause)

theorem marked_of_prepare {session : Session} {steps : List Step}
    (h : prepare c outputs = .ok (session, steps)) : session.Marked false := by
  rw [prepare_eq] at h
  rcases hchosen : c.config with _ | path
  all_goals
    rw [hchosen] at h
    obtain ⟨config, -, h⟩ := except_bind_eq_ok h
    obtain ⟨steps', -, h⟩ := except_bind_eq_ok h
    obtain ⟨session', hconfig, h⟩ := except_bind_eq_ok h
    cases h
    exact Session.marked_ofConfig hconfig

/-- A run that went wrong does not get to its end with success. -/
theorem failure_of_finished {status : ExitStatus} (hwrong : WentWrong c outputs)
    (h : (replay c outputs).1 = .finished status) : status = .failure := by
  cases hwrong with
  | @reported session steps complaint hprepare hin herror =>
    rw [replay_of_prepare hprepare] at h
    have hlast := ((marked_of_prepare hprepare).takeSteps Registry.standard steps).marks.status
    have hany : (session.complaints Registry.standard steps).any (·.isError) = true :=
      List.any_eq_true.mpr ⟨complaint, hin, herror⟩
    rw [Session.status_of_finished h, hany] at hlast
    exact hlast
  | exited hended =>
    rw [h] at hended
    cases hended
  | failed hended =>
    rw [h] at hended
    cases hended

theorem hidesStatus_of_exited {status : ExitStatus} (h : (replay c outputs).1 = .exited status)
    (hcode : 256 ∣ status.toInt) : HidesStatus c outputs := by
  obtain ⟨session, steps, hprepare, hended⟩ := exists_prepare h fun _ hfailed => by cases hfailed
  obtain ⟨s', hrun⟩ : ∃ s', Session.takeSteps Registry.standard steps session =
      .error (.exit status) s' := ⟨_, eq_error_of_stoppedBy (Session.stop_of_exited hended)⟩
  obtain ⟨before, step, later, s, hsteps, hbefore, hstep⟩ := Session.exists_stopping_step hrun
  have hplaced : s.location.isStray = false := by
    have hmarked := (marked_of_prepare hprepare).takeSteps Registry.standard before
    rw [stateAfter_of_ok hbefore] at hmarked
    exact hmarked.placed
  obtain ⟨hstatus, hfailure | ⟨report, hreport, hsame⟩⟩ := Session.status_of_exit hplaced hstep
  · rw [hfailure] at hcode
    exact absurd hcode (by decide)
  · subst hreport hsame
    rw [hsteps] at hprepare
    exact ⟨session, before, report, later, s, s', hprepare, hbefore, hstep, hstatus, hcode⟩

theorem exited_of_hidesStatus (h : HidesStatus c outputs) :
    ∃ status, (replay c outputs).1 = .exited status ∧ 256 ∣ status.toInt := by
  obtain ⟨session, before, report, later, s, s', hprepare, hbefore, hstep, -, hcode⟩ := h
  refine ⟨report.status, ?_, hcode⟩
  have hrun : Session.takeSteps Registry.standard (before ++ .error report :: later) session =
      .error (.exit report.status) s' := by
    rw [Session.takeSteps_append_of_ok hbefore]
    exact Session.takeSteps_of_error hstep later
  rw [replay_of_prepare hprepare, Session.replaySteps_of_error hrun]

/-- **When a failure looks like a success.** A run in which an error is reported, or which a step
ends, or which fails, ends with an exit code other than zero, but for one case: it was ended by an
error whose status is a multiple of 256. -/
theorem success_after_failure_iff
    (hstart : startingOutputs c out err isTerminal s = .ok outputs)
    (hwrong : WentWrong c outputs) :
    ∃ outcome, run c out err isTerminal s = .ok outcome ∧
      (outcome.ended = .exited 0 ↔ HidesStatus c outputs) := by
  obtain ⟨outcome, hrun, hended⟩ := run_of_startingOutputs hstart
  refine ⟨outcome, hrun, ?_⟩
  rw [hended, conclude_eq_zero_iff, endOf_eq_zero_iff]
  constructor
  · rintro ⟨status, hfinished | hexited, hcode⟩
    · rw [failure_of_finished hwrong hfinished] at hcode
      exact absurd hcode (by decide)
    · exact hidesStatus_of_exited hexited hcode
  · intro hhides
    obtain ⟨status, hexited, hcode⟩ := exited_of_hidesStatus hhides
    exact ⟨status, .inr hexited, hcode⟩

/-- A file system in whose working directory there is nothing but one script. -/
def scriptStore (text : String) : FileStore :=
  { FileStore.initial 0 with
    nodes := #[.directory 0 [("dev", 1), ("tmp", 3)], .directory 0 [("full", 2)], .full,
      .directory 0 [("work", 4)], .directory 3 [("a.json", 5)], .regular (Utf8.encode text)] }

/-- The outputs with which a replay of that script starts. -/
def scriptOutputs (text : String) : Outputs :=
  initialOutputs .pipe .pipe false (scriptStore text)

/-- An error with the status 3. -/
def plainScript : String := "[[\"error\",3,0,\"t\"]]"

/-- An error with the status 256. -/
def hidingScript : String := "[[\"error\",256,0,\"t\"]]"

theorem success_after_failure_iff_plainScript :
    startingOutputs { script := "a.json" } .pipe .pipe false (scriptStore plainScript) =
        .ok (scriptOutputs plainScript) ∧
      WentWrong { script := "a.json" } (scriptOutputs plainScript) ∧
      ∃ outcome, run { script := "a.json" } .pipe .pipe false (scriptStore plainScript) =
          .ok outcome ∧ outcome.ended ≠ .exited 0 := by
  have hstart : startingOutputs { script := "a.json" } .pipe .pipe false
      (scriptStore plainScript) = .ok (scriptOutputs plainScript) := rfl
  have hprepare : prepare { script := "a.json" } (scriptOutputs plainScript) =
      .ok (Session.start (scriptOutputs plainScript), [.error { status := 3, text := "t" }]) := by
    cbv
  have hended : (replay { script := "a.json" } (scriptOutputs plainScript)).1 = .exited 3 := by
    rw [replay_of_prepare hprepare]
    cbv
  have hwrong : WentWrong { script := "a.json" } (scriptOutputs plainScript) := .exited hended
  obtain ⟨outcome, hrun, hiff⟩ := success_after_failure_iff hstart hwrong
  refine ⟨hstart, hwrong, outcome, hrun, fun hzero => ?_⟩
  obtain ⟨session, before, report, later, s, s', hsame, -, -, -, hcode⟩ := hiff.mp hzero
  rw [hprepare] at hsame
  obtain ⟨-, hsteps⟩ := Prod.mk.inj (Except.ok.inj hsame)
  have hreport : Step.error report ∈ [Step.error { status := 3, text := "t" }] := by
    rw [hsteps]
    exact List.mem_append_right before (List.mem_cons_self ..)
  cases List.mem_singleton.mp hreport
  exact absurd hcode (by decide)

/-- An error with the status 256 ends the run, and the exit code is that of a success. -/
theorem failure_hidden_hidingScript :
    startingOutputs { script := "a.json" } .pipe .pipe false (scriptStore hidingScript) =
        .ok (scriptOutputs hidingScript) ∧
      WentWrong { script := "a.json" } (scriptOutputs hidingScript) ∧
      ∃ outcome, run { script := "a.json" } .pipe .pipe false (scriptStore hidingScript) =
          .ok outcome ∧ outcome.ended = .exited 0 := by
  have hstart : startingOutputs { script := "a.json" } .pipe .pipe false
      (scriptStore hidingScript) = .ok (scriptOutputs hidingScript) := rfl
  have hprepare : prepare { script := "a.json" } (scriptOutputs hidingScript) =
      .ok (Session.start (scriptOutputs hidingScript),
        [.error { status := 256, text := "t" }]) := by
    cbv
  have hended : (replay { script := "a.json" } (scriptOutputs hidingScript)).1 = .exited 256 := by
    rw [replay_of_prepare hprepare]
    cbv
  obtain ⟨outcome, hrun, hcode⟩ := run_of_startingOutputs hstart
  refine ⟨hstart, .exited hended, outcome, hrun, ?_⟩
  rw [hcode, conclude_eq_zero_iff, endOf_eq_zero_iff]
  exact ⟨256, .inr hended, by decide⟩

end Program

end MacroTrace
