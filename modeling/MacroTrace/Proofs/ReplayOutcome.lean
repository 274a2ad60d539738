import MacroTrace.Proofs.ObligingStreams
import MacroTrace.Proofs.TwoRuns
/-!
# How a replay ends

A replay finishes if all steps are taken and the last flush succeeds, and it depends on the errors
alone with which status. It ends in any other way only on account of the step that stops it, or of
the last flush (`Session.ending_cases`). With streams that refuse nothing, and steps that make sense,
what is complained about settles how it ends (`Session.ending_of_complaints`).
-/

namespace MacroTrace

namespace Session

variable {s s' : Session} {builtins : Registry} {step : Step} {steps before : List Step}

/-! ## The step that stops a run -/

/-- Moving to a line of no file fails, and moving to any other position just goes there. -/
theorem takeStep_location (builtins : Registry) (position : Location) (s : Session) :
    takeStep builtins (.location position) s =
      if position.isStray then
        .error
          (.failure
            (.script (some s!"location line {position.line.toNat} given without a file"))) s
      else .ok () { s with location := position } := by
  show moveTo position s = _
  unfold moveTo
  cases position.isStray <;> rfl

theorem stop?_location (position : Location) :
    s.stop? builtins (.location position) = if position.isStray then
      some (.failure (.script (some s!"location line {position.line.toNat} given without a file")))
    else none := by
  show stoppedBy (takeStep builtins (.location position)) s = _
  rw [stoppedBy, takeStep_location]
  cases position.isStray <;> rfl

theorem exit_of_stop? {c : Complaint} {stop : Stop} (hc : s.complaint? step = some c)
    (h : s.stop? builtins step = some stop) : ∃ status, stop = .exit status := by
  unfold stop? at h
  rw [hc] at h
  obtain ⟨status, -, hstatus⟩ := Option.map_eq_some_iff.mp h
  exact ⟨status, hstatus.symm⟩

/-- What stops a run, whatever the streams do: a complaint, a position that makes no sense, or a call
with a builtin that the table does not know. -/
theorem stop?_cases {stop : Stop} (h : s.stop? builtins step = some stop) :
    (∃ status, stop = .exit status) ∨
      (∃ position line, step = .location position ∧ position.isStray = true ∧
        stop = .failure (.script line)) ∨
      ∃ traced id, step = .trace .pre traced ∧ stop = .abort ∧
        s.traceSettings.unknownBuiltin? builtins traced.call = some id := by
  cases hc : s.complaint? step with
  | some c => exact .inl (exit_of_stop? hc h)
  | none =>
    cases step with
    | location position =>
      rw [stop?_location] at h
      split at h
      · rename_i hstray
        cases h
        exact .inr (.inl ⟨position, _, rfl, hstray, rfl⟩)
      · cases h
    | trace phase traced =>
      simp only [stop?, hc] at h
      split at h
      · rename_i hcannot
        obtain ⟨hphase, hunknown⟩ := Bool.and_eq_true_iff.mp hcannot
        obtain ⟨id, hid⟩ := Option.isSome_iff_exists.mp hunknown
        rw [of_decide_eq_true hphase]
        cases h
        exact .inr (.inr ⟨traced, id, rfl, rfl, hid⟩)
      · cases h
    | _ =>
      unfold stop? at h
      rw [hc] at h
      cases h

/-- A step that stops the run does so on its own account, or by a mishap. -/
theorem stop?_or_mishap {stop : Stop} (hplaced : s.location.isStray = false)
    (h : takeStep builtins step s = .error stop s') :
    s.stop? builtins step = some stop ∨ stop.isMishap := by
  have hstopped := stoppedBy_of_error h
  rcases stoppedBy_takeStep hplaced builtins step with hstop | ⟨mishap, hstop, hmishap⟩
  · exact .inl (hstop.symm.trans hstopped)
  · rw [hstopped] at hstop
    cases hstop
    exact .inr hmishap

/-- A step fails because it asks for a position that makes no sense, or because a stream fails. -/
theorem cause_of_failure {cause : Failure} (hplaced : s.location.isStray = false)
    (h : takeStep builtins step s = .error (.failure cause) s') :
    (∃ position, step = .location position ∧ position.isStray = true) ∨
      ∃ doing error, cause = .system doing error := by
  rcases stop?_or_mishap hplaced h with hstop | hmishap
  · rcases stop?_cases hstop with ⟨status, hexit⟩ | ⟨position, line, hstep, hstray, -⟩ |
      ⟨traced, id, -, habort, -⟩
    · cases hexit
    · exact .inl ⟨position, hstep, hstray⟩
    · cases habort
  · cases cause with
    | system doing error => exact .inr ⟨doing, error, rfl⟩
    | _ => cases hmishap

/-- The program ends itself at a call with a builtin that the table does not know. -/
theorem call_of_abort (hplaced : s.location.isStray = false)
    (h : takeStep builtins step s = .error .abort s') :
    ∃ traced id, step = .trace .pre traced ∧
      s.traceSettings.unknownBuiltin? builtins traced.call = some id := by
  rcases stop?_or_mishap hplaced h with hstop | hmishap
  · rcases stop?_cases hstop with ⟨status, hexit⟩ | ⟨position, line, -, -, hfailure⟩ |
      ⟨traced, id, hstep, -, hid⟩
    · cases hexit
    · cases hfailure
    · exact ⟨traced, id, hstep, hid⟩
  · cases hmishap

/-! ## Complaints -/

theorem complaints_append_of_ok (h : takeSteps builtins before s = .ok () s') (later : List Step) :
    s.complaints builtins (before ++ later) =
      s.complaints builtins before ++ s'.complaints builtins later := by
  induction before generalizing s with
  | nil =>
    cases h
    rfl
  | cons step rest ih =>
    obtain ⟨_, s₁, hstep, hrest⟩ := bind_eq_ok h
    rw [List.cons_append, complaints, complaints, hstep, List.append_assoc]
    exact congrArg _ (ih hrest)

/-- No complaint of a step that is taken ends the run. -/
theorem endsWith?_of_taken (hplaced : s.location.isStray = false)
    (h : takeSteps builtins steps s = .ok () s') :
    ∀ c ∈ s.complaints builtins steps,
      c.endsWith? s.reporter.suppressWarnings s.reporter.fatalWarnings = none := by
  induction steps generalizing s with
  | nil => exact fun c hc => nomatch hc
  | cons step rest ih =>
    obtain ⟨_, s₁, hstep, hrest⟩ := bind_eq_ok h
    obtain ⟨hsuppress, hfatal⟩ := switches_takeStep hplaced builtins step
    have hplaced₁ : (stateAfter (takeStep builtins step) s).location.isStray = false :=
      placed_takeStep hplaced
    rw [stateAfter_of_ok hstep] at hsuppress hfatal hplaced₁
    rw [complaints, hstep]
    refine List.forall_mem_append.mpr ⟨fun c hc => ?_, ?_⟩
    · have hcomplaint := Option.mem_toList.mp hc
      cases hv : (s.reporter.note c).1 with
      | error stop =>
        rw [takeStep_of_ended hplaced hcomplaint hv] at hstep
        cases hstep
      | ok u =>
        rcases note_cases s.reporter c with ⟨breach, hfull⟩ | hverdict
        · rw [hv] at hfull
          cases hfull
        · rw [hv] at hverdict
          split at hverdict
          · cases hverdict
          · assumption
    · rw [← hsuppress, ← hfatal]
      exact ih hplaced₁ hrest

/-! ## Whole replays -/

section Replay

variable {config : Config} {outputs : Outputs} {s₀ : Session}

/-- If all steps are taken and the last flush succeeds, then the replay finishes, and it depends on
the errors alone with which status. -/
theorem replaySteps_of_done (h : ofConfig config outputs = .ok s₀)
    (hlen : steps.length < UInt64.size) (hrun : takeSteps Registry.standard steps s₀ = .ok () s)
    (hflush : flushAll s = .ok () s') :
    s₀.replaySteps steps =
      (.finished
        (if (s₀.complaints Registry.standard steps).any (·.isError) then .failure else .success),
        s') := by
  have hreports := reports_at h hlen
  rw [stateAfter_of_ok hrun] at hreports
  have hwrites : s.Writes (stateAfter flushAll s) := onTracer_writes _ s
  rw [stateAfter_of_ok hflush] at hwrites
  have hstatus : s'.reporter.status =
      if (s₀.complaints Registry.standard steps).any (·.isError) then .failure else .success := by
    rw [hwrites]
    show s.reporter.status = _
    rw [hreports.knows.status]
    simp only [List.any_eq_true, List.countP_pos_iff]
  unfold replaySteps
  rw [hrun]
  simp only [hflush, hstatus]

/-- What is known at the step that stops a replay. -/
theorem exists_stopping_point {stop : Stop} (h : ofConfig config outputs = .ok s₀)
    (hlen : steps.length < UInt64.size)
    (hrun : takeSteps Registry.standard steps s₀ = .error stop s') :
    ∃ before step more s, steps = before ++ step :: more ∧
      takeSteps Registry.standard before s₀ = .ok () s ∧
      takeStep Registry.standard step s = .error stop s' ∧
      s.Reports config.suppressWarnings config.fatalWarnings
        (s₀.complaints Registry.standard before) ∧
      (s₀.complaints Registry.standard before).length + 1 < UInt64.size := by
  obtain ⟨before, step, more, s, hsteps, hbefore, hstep⟩ := exists_stopping_step hrun
  have hprefix : before ++ [step] <+: steps :=
    ⟨more, by rw [hsteps, List.append_assoc, List.singleton_append]⟩
  exact ⟨before, step, more, s, hsteps, hbefore, hstep, reports_before h hlen hprefix hbefore⟩

/-- How a replay ends, and on whose account. -/
theorem ending_cases (h : ofConfig config outputs = .ok s₀) (hlen : steps.length < UInt64.size) :
    match (s₀.replaySteps steps).1 with
    | .finished status =>
      (∃ s s', takeSteps Registry.standard steps s₀ = .ok () s ∧ flushAll s = .ok () s') ∧
        status =
          if (s₀.complaints Registry.standard steps).any (·.isError) then .failure else .success
    | .exited status =>
      status ≠ .success ∧
        ∃ before step more s c, steps = before ++ step :: more ∧
          takeSteps Registry.standard before s₀ = .ok () s ∧ s.complaint? step = some c ∧
          c.endsWith? config.suppressWarnings config.fatalWarnings = some status
    | .failed cause =>
      (∃ before step more s s', steps = before ++ step :: more ∧
        takeSteps Registry.standard before s₀ = .ok () s ∧
        takeStep Registry.standard step s = .error (.failure cause) s' ∧
        ((∃ position, step = .location position ∧ position.isStray = true) ∨
          ∃ doing error, cause = .system doing error)) ∨
      ∃ s s' error, takeSteps Registry.standard steps s₀ = .ok () s ∧
        flushAll s = .error error s' ∧ cause = .system "flushing output" error
    | .aborted =>
      ∃ before traced more s id, steps = before ++ .trace .pre traced :: more ∧
        takeSteps Registry.standard before s₀ = .ok () s ∧
        s.traceSettings.unknownBuiltin? Registry.standard traced.call = some id
    | .panicked _ => False := by
  cases hrun : takeSteps Registry.standard steps s₀ with
  | ok u s =>
    cases hflush : flushAll s with
    | ok u' s' =>
      rw [replaySteps_of_done h hlen hrun hflush]
      exact ⟨⟨s, s', rfl, hflush⟩, rfl⟩
    | error error s' =>
      unfold replaySteps
      rw [hrun]
      simp only [hflush]
      exact .inr ⟨s, s', error, rfl, hflush, rfl⟩
  | error stop s' =>
    obtain ⟨before, step, more, s, hsteps, hbefore, hstep, hreports, hroom⟩ :=
      exists_stopping_point h hlen hrun
    rw [replaySteps_of_error hrun]
    cases stop with
    | exit status =>
      obtain ⟨c, hc, hended⟩ :=
        (hreports.exits_iff hroom Registry.standard step status).mp ⟨s', hstep⟩
      refine ⟨fun hsuccess => ?_, before, step, more, s, c, hsteps, hbefore, hc, hended⟩
      rw [hsuccess] at hended
      exact c.endsWith?_ne_success _ _ hended
    | panic breach => exact hreports.no_breach hroom hstep
    | failure cause =>
      exact .inl ⟨before, step, more, s, s', hsteps, hbefore, hstep,
        cause_of_failure hreports.placed hstep⟩
    | abort =>
      obtain ⟨traced, id, rfl, hid⟩ := call_of_abort hreports.placed hstep
      exact ⟨before, traced, more, s, id, hsteps, hbefore, hid⟩

/-- Streams that carry out everything at first do so at every point of a replay. -/
theorem willing_at (h : ofConfig config outputs = .ok s₀) (hwilling : outputs.ports.Willing)
    (before : List Step) :
    (stateAfter (takeSteps Registry.standard before) s₀).outputs.ports.Willing := by
  have hstart : s₀.outputs.ports.Willing := by
    obtain ⟨level, outputs', rfl, hsame | ⟨target, hredirect⟩⟩ := ofConfig_eq_ok h
    · rw [hsame]
      exact hwilling
    · exact (Outputs.redirect_follows hredirect).willing hwilling
  have hplaced : s₀.location.isStray = false := (reports_ofConfig h).placed
  have hroom : ([] : List Complaint).length + before.length ≤ before.length := by simp
  have hrun : (stateAfter (takeSteps Registry.standard before) s₀).outputs.ports.Willing ∧
      (stateAfter (takeSteps Registry.standard before) s₀).location.isStray = false := by
    refine takeSteps_keeps (I := fun _ s => s.outputs.ports.Willing ∧ s.location.isStray = false)
      (fun _ hs step => ⟨?_, placed_takeStep hs.2⟩) ⟨hstart, hplaced⟩ hroom
    exact (takeStep_follows hs.2 Registry.standard step).willing hs.1
  exact hrun.1

/-- What the streams need for every point of a replay: they carry out everything at first, and a file
takes whatever it is given while debug output goes to it. -/
theorem obliging_at (h : ofConfig config outputs = .ok s₀) (hwilling : outputs.ports.Willing)
    (hfiles : ∀ node,
      Outputs.Accepts node (stateAfter (takeSteps Registry.standard before) s₀).outputs)
    (hbefore : takeSteps Registry.standard before s₀ = .ok () s) : s.Obliging := by
  have hports := willing_at h hwilling before
  rw [stateAfter_of_ok hbefore] at hports hfiles
  exact ⟨hports, hfiles⟩

/-- If the streams refuse nothing, all positions make sense and all builtins are known, then the
complaints settle how a replay ends: with the first of them that ends the run, if there is one. -/
theorem ending_of_complaints (h : ofConfig config outputs = .ok s₀)
    (hlen : steps.length < UInt64.size) (hwilling : outputs.ports.Willing)
    (hfiles : ∀ before, before <+: steps → ∀ node,
      Outputs.Accepts node (stateAfter (takeSteps Registry.standard before) s₀).outputs)
    (hplaces : ∀ position, .location position ∈ steps → position.isStray = false)
    (hcalls : ∀ traced, .trace .pre traced ∈ steps → ∀ id, .builtin id ∈ traced.call.args →
      (Registry.standard.name? id).isSome = true) :
    let reports := s₀.complaints Registry.standard steps
    (s₀.replaySteps steps).1 =
      match reports.findSome? (·.endsWith? config.suppressWarnings config.fatalWarnings) with
      | some status => .exited status
      | none => .finished (if reports.any (·.isError) then .failure else .success) := by
  intro reports
  have hstart := reports_ofConfig h
  have htaken : ∀ {before : List Step} {s : Session},
      takeSteps Registry.standard before s₀ = .ok () s →
      (s₀.complaints Registry.standard before).findSome?
        (·.endsWith? config.suppressWarnings config.fatalWarnings) = none := by
    intro before s hbefore
    have hnone := endsWith?_of_taken hstart.placed hbefore
    rw [hstart.knows.suppress, hstart.knows.fatal] at hnone
    exact List.findSome?_eq_none_iff.mpr hnone
  cases hrun : takeSteps Registry.standard steps s₀ with
  | ok u s =>
    obtain ⟨s', hflush, -⟩ :=
      endsWell_flushAll s (obliging_at h hwilling (hfiles steps List.prefix_rfl) hrun)
    rw [htaken hrun, replaySteps_of_done h hlen hrun hflush]
  | error stop s' =>
    obtain ⟨before, step, more, s, hsteps, hbefore, hstep, hreports, hroom⟩ :=
      exists_stopping_point h hlen hrun
    have hmem : step ∈ steps := by
      rw [hsteps]
      exact List.mem_append_right before (List.mem_cons_self ..)
    have hobliging := obliging_at h hwilling (hfiles before ⟨step :: more, hsteps.symm⟩) hbefore
    rw [replaySteps_of_error hrun]
    cases stop with
    | exit status =>
      obtain ⟨c, hc, hended⟩ :=
        (hreports.exits_iff hroom Registry.standard step status).mp ⟨s', hstep⟩
      have hlast : s.complaints Registry.standard (step :: more) = [c] := by
        rw [complaints, hc, hstep]
        rfl
      have hfirst : reports.findSome?
          (·.endsWith? config.suppressWarnings config.fatalWarnings) = some status := by
        unfold reports
        rw [hsteps, complaints_append_of_ok hbefore, hlast, List.findSome?_append, htaken hbefore,
          List.findSome?_singleton, hended]
        rfl
      rw [hfirst]
    | panic breach => exact absurd hstep (hreports.no_breach hroom)
    | failure cause =>
      rcases cause_of_failure hreports.placed hstep with ⟨position, rfl, hstray⟩ |
        ⟨doing, error, rfl⟩
      · rw [hplaces position hmem] at hstray
        cases hstray
      · exact absurd (stoppedBy_of_error hstep)
          (takeStep_not_system hreports.placed hobliging Registry.standard step doing error)
    | abort =>
      obtain ⟨traced, id, rfl, hid⟩ := call_of_abort hreports.placed hstep
      obtain ⟨-, harg, hname⟩ := TraceSettings.of_unknownBuiltin? hid
      have hknown := hcalls traced hmem id harg
      rw [hname] at hknown
      cases hknown

/-- How a replay ends. At every point the counts are those of the errors and of the warnings that
are not dropped, and the status is that of a failed run if and only if there has been an error. A
step ends the run if and only if it complains and the complaint does so under the switches, with the
status of the complaint or that of a failed run, but never with success. Nothing that comes after a
step which stops the run makes any difference; what stops the step settles how the replay ends. If
all steps are taken and the last flush succeeds, then it depends on the errors alone with which
status the replay finishes. With streams and files that refuse nothing, positions that make sense and
builtins that are known, the complaints alone settle how it ends. Whatever else is the case, only a
failure, of a stream or of a step that asks for a position that makes no sense, or the program ending
itself at a call with an unknown builtin can come in between; no agreement is ever broken. (A script
is held in memory, and the length of a list there is a number of 64 bits.) -/
theorem outcome_of_replay (h : ofConfig config outputs = .ok s₀)
    (hlen : steps.length < UInt64.size) :
    (∀ before, before <+: steps →
      let reporter := (stateAfter (takeSteps Registry.standard before) s₀).reporter
      let reports := s₀.complaints Registry.standard before
      reporter.errors.toNat = reports.countP (·.isError) ∧
      reporter.warnings.toNat =
        (if config.suppressWarnings then 0 else reports.countP (·.isWarning)) ∧
      reporter.status = if 0 < reporter.errors.toNat then .failure else .success) ∧
    (∀ before step s, before ++ [step] <+: steps →
      takeSteps Registry.standard before s₀ = .ok () s → ∀ status,
      ((∃ s', takeStep Registry.standard step s = .error (.exit status) s') ↔
        ∃ c, s.complaint? step = some c ∧
          c.endsWith? config.suppressWarnings config.fatalWarnings = some status)) ∧
    (∀ before step s stop s', takeSteps Registry.standard before s₀ = .ok () s →
      takeStep Registry.standard step s = .error stop s' → ∀ later,
      s₀.replaySteps (before ++ step :: later) = s₀.replaySteps (before ++ [step]) ∧
        s₀.replaySteps (before ++ [step]) = match stop with
          | .exit status => (.exited status, s'.afterFlush)
          | .failure cause => (.failed cause, s')
          | .panic breach => (.panicked breach, s')
          | .abort => (.aborted, s')) ∧
    (∀ s s', takeSteps Registry.standard steps s₀ = .ok () s → flushAll s = .ok () s' →
      s₀.replaySteps steps =
        (.finished
          (if (s₀.complaints Registry.standard steps).any (·.isError) then .failure else .success),
          s')) ∧
    (outputs.ports.Willing →
      (∀ before, before <+: steps → ∀ node,
        Outputs.Accepts node (stateAfter (takeSteps Registry.standard before) s₀).outputs) →
      (∀ position, .location position ∈ steps → position.isStray = false) →
      (∀ traced, .trace .pre traced ∈ steps → ∀ id, .builtin id ∈ traced.call.args →
        (Registry.standard.name? id).isSome = true) →
      let reports := s₀.complaints Registry.standard steps
      (s₀.replaySteps steps).1 =
        match reports.findSome? (·.endsWith? config.suppressWarnings config.fatalWarnings) with
        | some status => .exited status
        | none => .finished (if reports.any (·.isError) then .failure else .success)) ∧
    match (s₀.replaySteps steps).1 with
    | .finished status =>
      (∃ s s', takeSteps Registry.standard steps s₀ = .ok () s ∧ flushAll s = .ok () s') ∧
        status =
          if (s₀.complaints Registry.standard steps).any (·.isError) then .failure else .success
    | .exited status =>
      status ≠ .success ∧
        ∃ before step more s c, steps = before ++ step :: more ∧
          takeSteps Registry.standard before s₀ = .ok () s ∧ s.complaint? step = some c ∧
          c.endsWith? config.suppressWarnings config.fatalWarnings = some status
    | .failed cause =>
      (∃ before step more s s', steps = before ++ step :: more ∧
        takeSteps Registry.standard before s₀ = .ok () s ∧
        takeStep Registry.standard step s = .error (.failure cause) s' ∧
        ((∃ position, step = .location position ∧ position.isStray = true) ∨
          ∃ doing error, cause = .system doing error)) ∨
      ∃ s s' error, takeSteps Registry.standard steps s₀ = .ok () s ∧
        flushAll s = .error error s' ∧ cause = .system "flushing output" error
    | .aborted =>
      ∃ before traced more s id, steps = before ++ .trace .pre traced :: more ∧
        takeSteps Registry.standard before s₀ = .ok () s ∧
        s.traceSettings.unknownBuiltin? Registry.standard traced.call = some id
    | .panicked _ => False := by
  refine ⟨fun before hbefore => ?_, fun before step s hbefore hs status => ?_,
    fun before step s stop s' hs hstep later => ?_,
    fun s s' hrun hflush => replaySteps_of_done h hlen hrun hflush,
    fun hwilling hfiles hplaces hcalls =>
      ending_of_complaints h hlen hwilling hfiles hplaces hcalls, ending_cases h hlen⟩
  · have hlength := hbefore.length_le
    have hlen' : before.length < UInt64.size := by omega
    have hknows := (reports_at h hlen').knows
    refine ⟨hknows.errors, hknows.warnings, ?_⟩
    rw [hknows.errors]
    exact hknows.status
  · obtain ⟨hreports, hroom⟩ := reports_before h hlen hbefore hs
    exact hreports.exits_iff hroom Registry.standard step status
  · have hstop : takeSteps Registry.standard (before ++ [step]) s₀ = .error stop s' := by
      rw [takeSteps_append_of_ok hs]
      exact takeSteps_of_error hstep []
    refine ⟨replaySteps_congr ?_, replaySteps_of_error hstop⟩
    have hlater := takeSteps_append_of_error hstop later
    rw [List.append_assoc, List.singleton_append] at hlater
    rw [hlater, hstop]

end Replay

/-- A session that ends the run at the first warning. -/
def strictSession : Session :=
  { start (.start {} (.initial 0) none none) with reporter := { fatalWarnings := true } }

/-- A script with a warning in the middle. -/
def warningScript : List Step :=
  [.output "a", .warn { text := "b" }, .error { text := "c" }, .output "d"]

/-- A script that goes to a place in a file, traces a call to a debug file, warns and complains. -/
def busyScript : List Step :=
  [.location ⟨some "in.m4", 3⟩, .debugMode (some "a"), .debugFile (some "log"),
    .trace .pre { call := { name := "f", args := [.builtin ⟨1⟩] } }, .warn { text := "b" },
    .error { text := "c" }]

theorem outcome_of_replay_strict :
    ofConfig { fatalWarnings := true } (.start {} (.initial 0) none none) = .ok strictSession ∧
      warningScript.length < UInt64.size ∧
      (strictSession.replaySteps warningScript).1 = .exited .failure ∧
      (stateAfter (takeSteps Registry.standard warningScript) strictSession).reporter.warnings.toNat
        = 1 ∧
      ofConfig {} (.start {} (.initial 0) none none) = .ok plainSession ∧
      busyScript.length < UInt64.size ∧
      (plainSession.replaySteps busyScript).1 = .finished .failure := by
  have hconfig : ofConfig { fatalWarnings := true } (.start {} (.initial 0) none none) =
      .ok strictSession := rfl
  have hlen : warningScript.length < UInt64.size := by decide
  have hconfig' : ofConfig {} (.start {} (.initial 0) none none) = .ok plainSession := rfl
  have hlen' : busyScript.length < UInt64.size := by decide
  obtain ⟨hcounts, hexits, hstops, -⟩ := outcome_of_replay hconfig hlen
  obtain ⟨-, -, -, -, hsettled, -⟩ := outcome_of_replay hconfig' hlen'
  refine ⟨hconfig, hlen, ?_, ?_, hconfig', hlen', ?_⟩
  · -- The warning stops the run, and what comes behind it makes no difference.
    obtain ⟨_, s, hoccurs⟩ : ∃ u s, takeSteps Registry.standard [.output "a"] strictSession =
        .ok u s := exists_ok_of_succeeds (by cbv)
    have hprefix : [.output "a"] ++ [.warn { text := "b" }] <+: warningScript :=
      ⟨[.error { text := "c" }, .output "d"], rfl⟩
    obtain ⟨s', hstep⟩ := (hexits _ _ s hprefix hoccurs .failure).mpr ⟨_, rfl, rfl⟩
    obtain ⟨hlater, hended⟩ :=
      hstops _ _ s _ s' hoccurs hstep [.error { text := "c" }, .output "d"]
    exact congrArg Prod.fst (hlater.trans hended)
  · rw [(hcounts warningScript List.prefix_rfl).2.1]
    cbv
  · have hwilling : (Outputs.start {} (.initial 0) none none).ports.Willing :=
      ⟨fun p => by cases p <;> rfl, Ports.unrefused_of_all rfl⟩
    have hplaces : ∀ position, .location position ∈ busyScript → position.isStray = false := by
      intro position hmem
      simp only [busyScript, List.mem_cons, reduceCtorEq, Step.location.injEq, List.not_mem_nil,
        or_false] at hmem
      subst hmem
      rfl
    have hcalls : ∀ traced, .trace .pre traced ∈ busyScript → ∀ id,
        .builtin id ∈ traced.call.args → (Registry.standard.name? id).isSome = true := by
      intro traced hmem id hid
      simp only [busyScript, List.mem_cons, reduceCtorEq, Step.trace.injEq, true_and,
        List.not_mem_nil, or_false, false_or] at hmem
      subst hmem
      cases List.mem_singleton.mp hid
      decide
    have houtlets : ∀ before, before <+: busyScript →
        let o := (stateAfter (takeSteps Registry.standard before) plainSession).outputs
        o.active.outlet = .port .err ∨ o.active.outlet = .file 5 :=
      forall_prefix_of_all (by cbv)
    have htakes : ∀ before, before <+: busyScript →
        Outputs.Accepts 5 (stateAfter (takeSteps Registry.standard before) plainSession).outputs :=
      forall_prefix_of_all (by cbv)
    have hfiles : ∀ before, before <+: busyScript → ∀ node, Outputs.Accepts node
        (stateAfter (takeSteps Registry.standard before) plainSession).outputs :=
      fun before hbefore =>
        Outputs.accepts_of_outlet (houtlets before hbefore) (htakes before hbefore)
    rw [hsettled hwilling hfiles hplaces hcalls]
    cbv

end Session

end MacroTrace
