import MacroTrace.Proofs.Complaint
/-!
# Verdicts do not depend on the streams

To report something takes up to nine requests to the standard streams, and any of them may be
refused, also in the middle of a report. None of this has a say in what a caller is told: two runs of
the same reports and checks give the same answers and the same counts, whatever the streams do
(`Session.verdicts_ignore_streams`). For this, no operation that reports or checks can tell two
sessions apart that differ in nothing but the streams (`Session.Blind`).
-/

namespace MacroTrace

/-- From alike states, an operation that respects the relation has the same result. -/
theorem Respects.resultOf_eq {ε σ α : Type} {R : σ → σ → Prop} {action : EStateM ε σ α}
    (h : Respects R action) {s t : σ} (hst : R s t) : resultOf action t = resultOf action s := by
  have hresults := h.alike hst
  unfold resultOf
  generalize action s = r at hresults ⊢
  generalize action t = r' at hresults ⊢
  cases hresults <;> rfl

namespace Session

/-- The session with other streams. -/
def withPorts (ports : Ports) (s : Session) : Session := s.mapPorts fun _ => ports

/-- Two sessions differ in nothing but the streams. -/
def SameButPorts (s t : Session) : Prop := ∃ ports, t = s.withPorts ports

theorem SameButPorts.reporter {s t : Session} (h : SameButPorts s t) : t.reporter = s.reporter := by
  obtain ⟨ports, rfl⟩ := h
  rfl

/-- An operation has the same result whatever the streams do, and does the same to everything but
the streams. -/
abbrev Blind {α : Type} (action : Act α) : Prop := Respects SameButPorts action

namespace Blind

/-! ### Reports -/

/-- What becomes of an error is settled by the reporter, before and apart from any stream. -/
theorem errorAt (status : ExitStatus) (errnum : Int32) (file : String) (line : UInt32)
    (message : String) : Blind (Session.errorAt status errnum file line message) := by
  refine ⟨?_⟩
  rintro s _ ⟨ports, rfl⟩
  let d : Diagnostic :=
    { severity := .error, program := s.program, errnum, message
      position := if line = 0 then none else some (file, line) }
  have hreporter : (s.withPorts ports).reporter = s.reporter := rfl
  rw [errorAt_eq s (d := d) status errnum file line message rfl,
    errorAt_eq (s.withPorts ports) (d := d) status errnum file line message rfl, hreporter]
  cases (s.reporter.noteError status).1 with
  | ok u => exact .ok () ⟨d.send ports, rfl⟩
  | error stop => exact .error stop ⟨d.send ports, rfl⟩

theorem warnAt (errnum : Int32) (file : String) (line : UInt32) (message : String) :
    Blind (Session.warnAt errnum file line message) := by
  refine ⟨?_⟩
  rintro s _ ⟨ports, rfl⟩
  have hreporter : (s.withPorts ports).reporter = s.reporter := rfl
  cases hshown : s.reporter.suppressWarnings with
  | true =>
    unfold Session.warnAt
    rw [hreporter, hshown]
    exact .ok () ⟨ports, rfl⟩
  | false =>
    let d : Diagnostic :=
      { severity := .warning, program := s.program, errnum, message
        position := if line = 0 then none else some (file, line) }
    rw [warnAt_eq s (d := d) errnum file line message hshown rfl,
      warnAt_eq (s.withPorts ports) (d := d) errnum file line message hshown rfl, hreporter]
    cases s.reporter.noteWarning.1 with
    | ok u => exact .ok () ⟨d.send ports, rfl⟩
    | error stop => exact .error stop ⟨d.send ports, rfl⟩

theorem reportPosition : Blind Session.reportPosition := by
  refine .get_bind (fun s => ?_) ?_
  · cases s.location.reportable with
    | ok position => exact .pure _
    | error line => exact .throw _
  · rintro s _ ⟨ports, rfl⟩
    rfl

theorem error (status : ExitStatus) (errnum : Int32) (message : String) :
    Blind (Session.error status errnum message) :=
  .bind reportPosition fun _ => errorAt ..

theorem warn (errnum : Int32) (message : String) : Blind (Session.warn errnum message) :=
  .bind reportPosition fun _ => warnAt ..

/-! ### Checks -/

theorem raiseAny (c : Option Complaint) : Blind (Session.raiseAny c) := by
  cases c with
  | none => exact .pure ()
  | some c =>
    show Blind (raise c)
    unfold raise
    cases c.severity with
    | error => exact .error ..
    | warning => exact .warn ..

theorem checkArgCount (check : CountCheck) :
    Blind (Session.checkArgCount check.name check.count check.least check.most check.sideEffect) := by
  rw [checkArgCount_eq]
  exact .bind (raiseAny _) fun _ => .pure _

theorem numericArg (check : NumberCheck) : Blind (Session.numericArg check.name check.text) := by
  refine ⟨?_⟩
  rintro s _ ⟨ports, rfl⟩
  rw [numericArg_eq check s, numericArg_eq check (s.withPorts ports)]
  have hchecked : Blind (Session.raiseAny (check.complaint? s.blanks) >>= fun _ =>
      Pure.pure (check.value? s.blanks)) := .bind (raiseAny _) fun _ => .pure _
  exact hchecked.alike ⟨ports, rfl⟩

end Blind

end Session

/-! ## Runs -/

/-- What a caller does to report something or to check an argument, and the settings that this
depends on. -/
inductive ReportAct
  | error (report : ErrorReport)
  | errorAt (report : ErrorReport) (file : String) (line : UInt32)
  | warn (report : WarningReport)
  | warnAt (report : WarningReport) (file : String) (line : UInt32)
  | argc (check : CountCheck)
  | numeric (check : NumberCheck)
  | setSuppress (suppressWarnings : Bool)
  | setFatal (fatalWarnings : Bool)
  | setLocation (location : Location)
  | setProgram (program : String)
  | setBlanks (blanks : Blanks)

/-- What a caller is told. -/
inductive Answer
  /-- Nothing but that the run goes on. -/
  | done
  /-- Whether a call may be taken to expand to nothing. -/
  | empty (isEmpty : Bool)
  /-- The value of a numeric argument, if it has one. -/
  | value (value : Option Int)
deriving DecidableEq, Repr

/-- The operation by which an act is done, with the answer that it gives. -/
def ReportAct.action : ReportAct → Act Answer
  | error report => do
    Session.error report.status report.errnum report.text
    return .done
  | errorAt report file line => do
    Session.errorAt report.status report.errnum file line report.text
    return .done
  | warn report => do
    Session.warn report.errnum report.text
    return .done
  | warnAt report file line => do
    Session.warnAt report.errnum file line report.text
    return .done
  | argc check =>
    return .empty
      (← Session.checkArgCount check.name check.count check.least check.most check.sideEffect)
  | numeric check => return .value (← Session.numericArg check.name check.text)
  | setSuppress suppressWarnings => do
    modify fun s => { s with reporter.suppressWarnings := suppressWarnings }
    return .done
  | setFatal fatalWarnings => do
    modify fun s => { s with reporter.fatalWarnings := fatalWarnings }
    return .done
  | setLocation location => do
    modify fun s => { s with location }
    return .done
  | setProgram program => do
    modify fun s => { s with program }
    return .done
  | setBlanks blanks => do
    modify fun s => { s with blanks }
    return .done

/-- What an act comes to: its answer, or why there is none, and what is known about the run then. -/
structure Verdict where
  result : Except Stop Answer
  status : ExitStatus
  errors : UInt64
  warnings : UInt64

namespace Session

/-- The verdict on an act. -/
def verdict (s : Session) (act : ReportAct) : Verdict :=
  let reporter := (stateAfter act.action s).reporter
  ⟨resultOf act.action s, reporter.status, reporter.errors, reporter.warnings⟩

/-- The verdicts on acts that are done one after the other, whatever has become of those before. -/
def verdicts (s : Session) : List ReportAct → List Verdict
  | [] => []
  | act :: rest => s.verdict act :: (stateAfter act.action s).verdicts rest

theorem Blind.action (act : ReportAct) : Blind act.action := by
  cases act with
  | error report => exact .bind (Blind.error ..) fun _ => .pure _
  | errorAt report file line => exact .bind (Blind.errorAt ..) fun _ => .pure _
  | warn report => exact .bind (Blind.warn ..) fun _ => .pure _
  | warnAt report file line => exact .bind (Blind.warnAt ..) fun _ => .pure _
  | argc check => exact .bind (Blind.checkArgCount check) fun _ => .pure _
  | numeric check => exact .bind (Blind.numericArg check) fun _ => .pure _
  | _ =>
    refine .bind (.modify ?_) fun _ => .pure _
    rintro s _ ⟨ports, rfl⟩
    exact ⟨ports, rfl⟩

/-- One act: the same verdict in both sessions. -/
theorem verdict_eq {s t : Session} (h : SameButPorts s t) (act : ReportAct) :
    t.verdict act = s.verdict act := by
  have hblind := Blind.action act
  unfold verdict
  rw [hblind.resultOf_eq h, (hblind.stateAfter h).reporter]

/-- All acts: the same verdicts in both sessions. -/
theorem verdicts_eq {s t : Session} (h : SameButPorts s t) (acts : List ReportAct) :
    t.verdicts acts = s.verdicts acts := by
  induction acts generalizing s t with
  | nil => rfl
  | cons act rest ih =>
    have hafter := (Blind.action act).stateAfter h
    rw [verdicts, verdicts, verdict_eq h act, ih hafter]

/-- What a caller is told by reports and checks does not depend on the streams. From the same
session, two runs with any two states and behaviours of standard output and standard error, which
may carry out or refuse each request as they like, also in the middle of a report, give the same
verdicts: every act has the same answer, or asks for the end of the run with the same status, and
after every act the status and the counts are the same. -/
theorem verdicts_ignore_streams (s : Session) (a b : Ports) (acts : List ReportAct) :
    (s.withPorts a).verdicts acts = (s.withPorts b).verdicts acts :=
  verdicts_eq (s := s.withPorts b) ⟨a, rfl⟩ acts

/-- A fatal warning ends the run, although nothing of it can be shown. -/
example :
    ((start (.start {} (.initial 0) none none)).withPorts
        { err.behaviour := .refusing (.os 32) }).verdicts [.setFatal true, .warn { text := "w" }] =
      [⟨.ok .done, .success, 0, 0⟩, ⟨.error (.exit .failure), .success, 0, 1⟩] := by
  cbv

end Session

end MacroTrace
