import MacroTrace.Proofs.Complaint
/-!
# What ends a run

Every step of a replay either lets the run go on or ends it, and nothing after the step that ends it
is looked at. Whether a complaint ends the run depends on the two switches alone
(`Complaint.endsWith?`). The reporter counts what has been complained about, and its status is that
of a failed run as soon as one of the complaints was an error (`Session.reports_at`).
-/

namespace MacroTrace

namespace Complaint

def isError (c : Complaint) : Bool := c.severity = .error

def isWarning (c : Complaint) : Bool := c.severity = .warning

/-- The status with which a complaint ends the run, if it does. -/
def endsWith? (suppressWarnings fatalWarnings : Bool) (c : Complaint) : Option ExitStatus :=
  match c.severity with
  | .error =>
    if c.status ≠ .success then some c.status
    else if fatalWarnings then some .failure else none
  | .warning => if fatalWarnings && !suppressWarnings then some .failure else none

/-- No run is ended with success. -/
theorem endsWith?_ne_success (suppressWarnings fatalWarnings : Bool) (c : Complaint) :
    c.endsWith? suppressWarnings fatalWarnings ≠ some .success := by
  unfold endsWith?
  split
  · split
    · rename_i h
      exact fun e => h (Option.some.inj e)
    · split <;> simp [ExitStatus.failure, ExitStatus.success]
  · split <;> simp [ExitStatus.failure, ExitStatus.success]

end Complaint

/-! ## What the reporter knows -/

theorem countOne_of_room {n : UInt64} {k : Nat} (h : n.toNat = k) (hroom : k + 1 < UInt64.size) :
    ∃ m, countOne n = .ok m ∧ m.toNat = k + 1 := by
  refine ⟨n + 1, ?_, ?_⟩
  · unfold countOne
    rw [h, if_pos hroom]
  · rw [UInt64.toNat_add, h]
    exact Nat.mod_eq_of_lt hroom

/-- The switches are set, and what has been reported is this: every error counts, and every warning
that is not dropped. -/
structure Reporter.Knows (r : Reporter) (suppressWarnings fatalWarnings : Bool)
    (reports : List Complaint) : Prop where
  suppress : r.suppressWarnings = suppressWarnings
  fatal : r.fatalWarnings = fatalWarnings
  errors : r.errors.toNat = reports.countP (·.isError)
  warnings : r.warnings.toNat = if suppressWarnings then 0 else reports.countP (·.isWarning)
  status : r.status = if 0 < reports.countP (·.isError) then .failure else .success

namespace Reporter

variable {r : Reporter} {suppressWarnings fatalWarnings : Bool} {reports : List Complaint}

/-- Taking note of a complaint never goes wrong while there is room for it in the counts. -/
theorem Knows.note (h : r.Knows suppressWarnings fatalWarnings reports)
    (hroom : reports.length + 1 < UInt64.size) (c : Complaint) :
    (r.note c).2.Knows suppressWarnings fatalWarnings (reports ++ [c]) ∧
      (r.note c).1 = match c.endsWith? suppressWarnings fatalWarnings with
        | some status => .error (.exit status)
        | none => .ok () := by
  have herrors : reports.countP (·.isError) ≤ reports.length := List.countP_le_length
  have hwarnings : reports.countP (·.isWarning) ≤ reports.length := List.countP_le_length
  unfold Reporter.note Complaint.endsWith?
  cases hc : c.severity with
  | error =>
    obtain ⟨m, hm, hmv⟩ := countOne_of_room h.errors (by omega)
    have herror : [c].countP (·.isError) = 1 := by simp [Complaint.isError, hc]
    have hwarning : [c].countP (·.isWarning) = 0 := by simp [Complaint.isWarning, hc]
    simp only [noteError, hm]
    refine ⟨⟨h.suppress, h.fatal, ?_, ?_, ?_⟩, ?_⟩
    · rw [List.countP_append, herror]
      exact hmv
    · rw [List.countP_append, hwarning]
      exact h.warnings
    · rw [List.countP_append, herror, if_pos (Nat.succ_pos _)]
    · unfold verdict errorStatus
      rw [h.fatal]
      by_cases hs : c.status = .success
      · cases fatalWarnings <;> simp [hs, ExitStatus.success, ExitStatus.failure]
      · simp [hs]
  | warning =>
    have herror : [c].countP (·.isError) = 0 := by simp [Complaint.isError, hc]
    have hwarning : [c].countP (·.isWarning) = 1 := by simp [Complaint.isWarning, hc]
    have hstatus : r.status =
        if 0 < (reports ++ [c]).countP (·.isError) then .failure else .success := by
      rw [List.countP_append, herror]
      exact h.status
    have hcount : r.errors.toNat = (reports ++ [c]).countP (·.isError) := by
      rw [List.countP_append, herror]
      exact h.errors
    cases suppressWarnings with
    | true =>
      simp only [h.suppress, if_true]
      exact ⟨⟨h.suppress, h.fatal, hcount, h.warnings, hstatus⟩, by simp⟩
    | false =>
      have hbefore : r.warnings.toNat = reports.countP (·.isWarning) := h.warnings
      obtain ⟨m, hm, hmv⟩ := countOne_of_room hbefore (by omega)
      simp only [h.suppress, noteWarning, hm, Bool.false_eq_true, if_false]
      refine ⟨⟨rfl, h.fatal, hcount, ?_, hstatus⟩, ?_⟩
      · rw [List.countP_append, hwarning]
        exact hmv
      · unfold verdict warningStatus
        rw [h.fatal]
        cases fatalWarnings <;> simp [ExitStatus.success, ExitStatus.failure]

end Reporter

/-! ## Steps one after the other -/

namespace Session

section Runs

variable {builtins : Registry} {step : Step} {steps : List Step} {s s' : Session} {stop : Stop}

theorem takeSteps_of_ok {u : Unit} (h : takeStep builtins step s = .ok u s') (rest : List Step) :
    takeSteps builtins (step :: rest) s = takeSteps builtins rest s' := bind_of_ok h

theorem takeSteps_of_error (h : takeStep builtins step s = .error stop s') (rest : List Step) :
    takeSteps builtins (step :: rest) s = .error stop s' := bind_of_error h

theorem takeSteps_append_of_ok (h : takeSteps builtins steps s = .ok () s') (later : List Step) :
    takeSteps builtins (steps ++ later) s = takeSteps builtins later s' := by
  induction steps generalizing s with
  | nil =>
    cases h
    rfl
  | cons step rest ih =>
    obtain ⟨_, s₁, hstep, hrest⟩ := bind_eq_ok h
    rw [List.cons_append, takeSteps_of_ok hstep]
    exact ih hrest

/-- What comes after the step that stops a run makes no difference. -/
theorem takeSteps_append_of_error (h : takeSteps builtins steps s = .error stop s')
    (later : List Step) : takeSteps builtins (steps ++ later) s = .error stop s' := by
  induction steps generalizing s with
  | nil => cases h
  | cons step rest ih =>
    rw [List.cons_append]
    cases hstep : takeStep builtins step s with
    | ok u s₁ =>
      rw [takeSteps_of_ok hstep] at h ⊢
      exact ih h
    | error e s₁ =>
      rw [takeSteps_of_error hstep] at h ⊢
      exact h

/-- A run that stops has taken all steps before the one that stops it. -/
theorem exists_stopping_step (h : takeSteps builtins steps s = .error stop s') :
    ∃ before step more s₁, steps = before ++ step :: more ∧
      takeSteps builtins before s = .ok () s₁ ∧ takeStep builtins step s₁ = .error stop s' := by
  induction steps generalizing s with
  | nil => cases h
  | cons step rest ih =>
    cases hstep : takeStep builtins step s with
    | ok u s₁ =>
      rw [takeSteps_of_ok hstep] at h
      obtain ⟨before, last, more, s₂, hrest, hbefore, hlast⟩ := ih h
      refine ⟨step :: before, last, more, s₂, by rw [hrest, List.cons_append], ?_, hlast⟩
      rw [takeSteps_of_ok hstep, hbefore]
    | error e s₁ =>
      rw [takeSteps_of_error hstep] at h
      cases h
      exact ⟨[], step, rest, s, rfl, rfl, hstep⟩

end Runs

/-- All that is complained about in the course of a run. -/
def complaints (s : Session) (builtins : Registry) : List Step → List Complaint
  | [] => []
  | step :: rest =>
    (s.complaint? step).toList ++ match takeStep builtins step s with
      | .ok () s => s.complaints builtins rest
      | .error _ _ => []

theorem length_complaints_le (s : Session) (builtins : Registry) (steps : List Step) :
    (s.complaints builtins steps).length ≤ steps.length := by
  induction steps generalizing s with
  | nil => exact Nat.le_refl 0
  | cons step rest ih =>
    have hone : (s.complaint? step).toList.length ≤ 1 := by cases s.complaint? step <;> simp
    rw [complaints, List.length_append, List.length_cons]
    cases takeStep builtins step s with
    | ok u s₁ =>
      have hrest := ih s₁
      simp only
      omega
    | error e s₁ =>
      simp only [List.length_nil]
      omega

/-- What every step keeps, a run keeps. It may be in terms of what has been complained about, and
then there need only be room for one complaint of each step. -/
theorem takeSteps_keeps {builtins : Registry} {I : List Complaint → Session → Prop} {room : Nat}
    (hkeeps : ∀ {reports : List Complaint} {s : Session}, reports.length < room → I reports s →
      ∀ step, I (reports ++ (s.complaint? step).toList) (stateAfter (takeStep builtins step) s))
    {reports : List Complaint} {s : Session} (h : I reports s) {steps : List Step}
    (hroom : reports.length + steps.length ≤ room) :
    I (reports ++ s.complaints builtins steps) (stateAfter (takeSteps builtins steps) s) := by
  induction steps generalizing s reports with
  | nil =>
    rw [complaints, List.append_nil]
    exact h
  | cons step rest ih =>
    rw [List.length_cons] at hroom
    have hfirst := hkeeps (by omega) h step
    cases hstep : takeStep builtins step s with
    | ok u s₁ =>
      rw [stateAfter_of_ok hstep] at hfirst
      have hone : (s.complaint? step).toList.length ≤ 1 := by cases s.complaint? step <;> simp
      have hlater := ih hfirst (by rw [List.length_append]; omega)
      rw [stateAfter_congr (takeSteps_of_ok hstep rest), complaints, hstep, ← List.append_assoc]
      exact hlater
    | error stop s₁ =>
      rw [stateAfter_of_error hstep] at hfirst
      rw [stateAfter_of_error (takeSteps_of_error hstep rest), complaints, hstep, List.append_nil]
      exact hfirst

/-- A session in the course of a run: what the reporter knows, and that the position makes sense. -/
structure Reports (suppressWarnings fatalWarnings : Bool) (reports : List Complaint)
    (s : Session) : Prop where
  knows : s.reporter.Knows suppressWarnings fatalWarnings reports
  placed : s.location.isStray = false

variable {suppressWarnings fatalWarnings : Bool} {reports : List Complaint} {s : Session}

theorem reports_ofConfig {config : Config} {outputs : Outputs}
    (h : ofConfig config outputs = .ok s) :
    s.Reports config.suppressWarnings config.fatalWarnings [] := by
  obtain ⟨level, outputs', rfl, -⟩ := ofConfig_eq_ok h
  refine ⟨⟨rfl, rfl, rfl, ?_, rfl⟩, rfl⟩
  cases config.suppressWarnings <;> rfl

/-- A step adds its complaint to what has been reported. -/
theorem Reports.takeStep (h : s.Reports suppressWarnings fatalWarnings reports)
    (hroom : reports.length + 1 < UInt64.size) (builtins : Registry) (step : Step) :
    (stateAfter (Session.takeStep builtins step) s).Reports suppressWarnings fatalWarnings
      (reports ++ (s.complaint? step).toList) := by
  refine ⟨?_, placed_takeStep h.placed⟩
  rw [reporter_takeStep h.placed]
  cases s.complaint? step with
  | none =>
    rw [Option.toList_none, List.append_nil]
    exact h.knows
  | some c => exact (h.knows.note hroom c).1

theorem Reports.takeSteps (h : s.Reports suppressWarnings fatalWarnings reports)
    (builtins : Registry) {steps : List Step}
    (hroom : reports.length + steps.length < UInt64.size) :
    (stateAfter (Session.takeSteps builtins steps) s).Reports suppressWarnings fatalWarnings
      (reports ++ s.complaints builtins steps) :=
  takeSteps_keeps (I := fun reports s => s.Reports suppressWarnings fatalWarnings reports)
    (fun hless h step => h.takeStep (Nat.succ_lt_of_lt_pred hless) builtins step) h
    (Nat.le_pred_of_lt hroom)

/-- A step ends the run if and only if it complains and the complaint does so. -/
theorem Reports.exits_iff (h : s.Reports suppressWarnings fatalWarnings reports)
    (hroom : reports.length + 1 < UInt64.size) (builtins : Registry) (step : Step)
    (status : ExitStatus) :
    (∃ s', Session.takeStep builtins step s = .error (.exit status) s') ↔
      ∃ c, s.complaint? step = some c ∧
        c.endsWith? suppressWarnings fatalWarnings = some status := by
  constructor
  · rintro ⟨s', hstep⟩
    rcases takeStep_stop h.placed hstep with ⟨c, hc, hv⟩ | ⟨cause, hcause⟩ | habort
    · refine ⟨c, hc, ?_⟩
      rw [(h.knows.note hroom c).2] at hv
      split at hv
      · rename_i ended hended
        cases hv
        exact hended
      · cases hv
    · cases hcause
    · cases habort
  · rintro ⟨c, hc, hended⟩
    refine ⟨s.reported c, takeStep_of_ended h.placed hc ?_⟩
    rw [(h.knows.note hroom c).2, hended]

theorem Reports.no_breach (h : s.Reports suppressWarnings fatalWarnings reports)
    (hroom : reports.length + 1 < UInt64.size) {builtins : Registry} {step : Step} {breach : Breach}
    {s' : Session} : Session.takeStep builtins step s ≠ .error (.panic breach) s' := by
  intro hstep
  rcases takeStep_stop h.placed hstep with ⟨c, hc, hv⟩ | ⟨cause, hcause⟩ | habort
  · rw [(h.knows.note hroom c).2] at hv
    split at hv <;> cases hv
  · cases hcause
  · cases habort

/-! ## Whole replays -/

theorem replaySteps_congr {a b : List Step}
    (h : takeSteps Registry.standard a s = takeSteps Registry.standard b s) :
    s.replaySteps a = s.replaySteps b := by
  unfold replaySteps
  rw [h]

/-- What stops a step settles how the replay ends. -/
theorem replaySteps_of_error {steps : List Step} {s' : Session} {stop : Stop} :
    takeSteps Registry.standard steps s = .error stop s' →
    s.replaySteps steps = match stop with
      | .exit status => (.exited status, s'.afterFlush)
      | .failure cause => (.failed cause, s')
      | .panic breach => (.panicked breach, s')
      | .abort => (.aborted, s') := by
  intro h
  unfold replaySteps
  rw [h]
  cases stop <;> rfl

section Points

variable {config : Config} {outputs : Outputs} {s₀ : Session} {steps before : List Step}

/-- What the reporter knows at any point of a replay. -/
theorem reports_at (h : ofConfig config outputs = .ok s₀) (hlen : before.length < UInt64.size) :
    (stateAfter (takeSteps Registry.standard before) s₀).Reports config.suppressWarnings
      config.fatalWarnings (s₀.complaints Registry.standard before) := by
  have hroom : ([] : List Complaint).length + before.length < UInt64.size := by
    rw [List.length_nil, Nat.zero_add]
    exact hlen
  exact (reports_ofConfig h).takeSteps Registry.standard hroom

theorem reports_before (h : ofConfig config outputs = .ok s₀) (hlen : steps.length < UInt64.size)
    {step : Step} (hbefore : before ++ [step] <+: steps)
    (hs : takeSteps Registry.standard before s₀ = .ok () s) :
    s.Reports config.suppressWarnings config.fatalWarnings
        (s₀.complaints Registry.standard before) ∧
      (s₀.complaints Registry.standard before).length + 1 < UInt64.size := by
  have hlength := hbefore.length_le
  rw [List.length_append, List.length_singleton] at hlength
  have hcomplaints := s₀.length_complaints_le Registry.standard before
  have hlen' : before.length < UInt64.size := by omega
  have hreports := reports_at h hlen'
  rw [stateAfter_of_ok hs] at hreports
  exact ⟨hreports, by omega⟩

end Points

end Session

end MacroTrace
