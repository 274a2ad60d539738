import MacroTrace.Proofs.SessionRun
import MacroTrace.Proofs.LastFlush
/-!
# Reports arrive as a whole

Everything that a caller can do with a session has something to say or not (`SessionAct.words`), and
as long as the standard streams take everything, just that goes through them. A report comes to a
flush of standard output, the text on standard error, and a flush of that, and nothing in between
(`Diagnostic.carried_requests`). Only an act that has a report to make can ask for the end of the
run (`SessionAct.report_of_exit`), so the end is never asked for before the report has arrived
(`Session.reports_land_whole`).
-/

namespace MacroTrace

/-! ## The text of a report -/

namespace Ports

/-- Requests to show something bring it to the log in pieces. -/
theorem carried_texts (p : Port) (colours : Bool) {requests : List Request}
    (h : ∀ request ∈ requests, request ≠ .flush) :
    ∃ pieces : List Bytes, carried p colours requests = pieces.map (.wrote p) ∧
      pieces.flatten = requests.flatMap (Request.bytes colours) := by
  have hpieces : carried p colours requests =
      ((requests.filter (!·.isVoid)).map (Request.bytes colours)).map (.wrote p) := by
    unfold carried
    rw [List.map_map]
    refine List.map_congr_left fun request hrequest => ?_
    have hshows := h request (List.mem_filter.mp hrequest).1
    cases request with
    | flush => exact absurd rfl hshows
    | _ => rfl
  refine ⟨_, hpieces, ?_⟩
  rw [← bytes_carried p colours requests, hpieces, List.flatMap_map]
  exact List.flatMap_id.symm

end Ports

/-- The system's error as text is its description, with the number behind it. -/
theorem SystemError.text_os (number : Int32) :
    (os number).text = describe number ++ s!" (os error {number.toInt})" := by
  show describe number ++ " (os error " ++ toString number.toInt ++ ")" =
    describe number ++ (" (os error " ++ toString number.toInt ++ ")")
  simp only [String.append_assoc]

namespace Diagnostic

/-- The text of a report, given what the system says about the error behind it. -/
def wording (d : Diagnostic) (system : String) : String :=
  d.program
    ++ (match d.position with
        | some (file, line) => ":" ++ file ++ ":" ++ toString line.toNat
        | none => "")
    ++ ": " ++ (if d.severity = .warning then "Warning: " else "") ++ d.message
    ++ (if d.errnum = 0 then "" else ": " ++ system) ++ "\n"

theorem wording_describe (d : Diagnostic) : d.wording (describe d.errnum) = d.text := by
  have hheader : d.header = d.program ++ (match d.position with
      | some (file, line) => ":" ++ file ++ ":" ++ toString line.toNat
      | none => "") ++ ": " := by
    unfold header
    cases d.position with
    | none => exact congrArg (· ++ ": ") (String.append_empty).symm
    | some position =>
      show d.program ++ ":" ++ position.1 ++ ":" ++ toString position.2.toNat ++ ": " = _
      simp only [String.append_assoc]
  have htrailer : d.trailer = if d.errnum = 0 then "" else ": " ++ describe d.errnum := by
    unfold trailer
    split <;> rfl
  unfold text wording
  rw [hheader, htrailer]
  rfl

/-- What goes through standard error for a report, if it shows no colours: the text, and a flush. -/
theorem carried_requests (d : Diagnostic) :
    ∃ pieces : List Bytes, Ports.carried .err false d.requests =
        pieces.map (.wrote .err) ++ [.flushed .err] ∧
      pieces.flatten = Utf8.encode d.text := by
  obtain ⟨texts, htexts, hshow⟩ : ∃ texts, d.requests = texts ++ [.flush] ∧
      ∀ request ∈ texts, request ≠ .flush := by
    refine ⟨d.requests.dropLast, ?_, ?_⟩
    all_goals
      unfold requests
      by_cases hwarning : d.severity = .warning <;> by_cases herrnum : d.errnum = 0 <;>
        simp [hwarning, herrnum]
  obtain ⟨pieces, hpieces, hflatten⟩ := Ports.carried_texts .err false hshow
  refine ⟨pieces, ?_, ?_⟩
  · rw [htexts, Ports.carried_append, hpieces]
    rfl
  · have hshown := bytes_requests false d
    rw [htexts, List.flatMap_append, shown_plain] at hshown
    rw [hflatten, ← hshown]
    simp [Request.bytes]

end Diagnostic

namespace Session

/-! ## Reports of a session -/

/-- What has gone through the standard streams so far. -/
def log (s : Session) : List Event := s.outputs.ports.log.toList

/-- The position that reports are about: none if there is no line. -/
def place? (s : Session) : Option (String × UInt32) :=
  if s.location.line = 0 then none else some (s.location.file.getD "", s.location.line)

/-- The report of something at a position. There is none of a warning that is suppressed. -/
def reportAt? (s : Session) (severity : Severity) (errnum : Int32)
    (position : Option (String × UInt32)) (message : String) : Option Diagnostic :=
  if severity = .warning && s.reporter.suppressWarnings then none
  else some { severity, program := s.program, position, message, errnum }

/-- The report of something at the current position. There is none if that is a mistake of the
caller. -/
def report? (s : Session) (c : Complaint) : Option Diagnostic :=
  if s.location.isStray then none else s.reportAt? c.severity c.errnum s.place? c.message

/-- An operation makes the report that it has to make, and asks for the end of the run only if it
has one to make. -/
structure MakesReport {α : Type} (action : Act α) (s : Session) (d? : Option Diagnostic) :
    Prop where
  ports : (stateAfter action s).outputs.ports = match d? with
    | some d => d.send s.outputs.ports
    | none => s.outputs.ports
  exits : ∀ status, stoppedBy action s = some (.exit status) → d?.isSome = true

variable {α β : Type} {s : Session} {d? : Option Diagnostic}

theorem MakesReport.pure (a : α) : MakesReport (Pure.pure a) s none where
  ports := rfl
  exits _ h := by cases h

theorem MakesReport.bind_pure {action : Act α} (h : MakesReport action s d?) (f : α → β) :
    MakesReport (action >>= fun a => Pure.pure (f a)) s d? := by
  cases ha : action s with
  | ok a s' =>
    refine ⟨?_, fun status hexit => ?_⟩
    · rw [stateAfter_bind_of_ok ha, stateAfter_pure, ← stateAfter_of_ok ha]
      exact h.ports
    · rw [stoppedBy_congr (bind_of_ok ha)] at hexit
      cases hexit
  | error e s' =>
    refine ⟨?_, fun status hexit => h.exits status ?_⟩
    · rw [stateAfter_bind_of_error ha, ← stateAfter_of_error ha]
      exact h.ports
    · rw [stoppedBy_of_error (bind_of_error ha)] at hexit
      rw [stoppedBy_of_error ha]
      exact hexit

theorem MakesReport.congr {action other : Act α} (he : action s = other s)
    (h : MakesReport other s d?) : MakesReport action s d? where
  ports := by
    rw [stateAfter_congr he]
    exact h.ports
  exits := by
    rw [stoppedBy_congr he]
    exact h.exits

theorem MakesReport.follows {action : Act α} (h : MakesReport action s d?) :
    Ports.Follows (s.eventsOf (d?.toList.map .report)) s.outputs.ports
      (stateAfter action s).outputs.ports := by
  rw [h.ports]
  cases d? with
  | none => exact .refl _
  | some d =>
    unfold eventsOf
    rw [Option.toList_some, List.map_singleton, List.flatMap_singleton]
    exact d.send_follows s.outputs.ports _

section Reporting

variable (s) (status : ExitStatus) (errnum : Int32) (file : String) (line : UInt32)
  (message : String)

theorem errorAt_makesReport :
    MakesReport (errorAt status errnum file line message) s
      (s.reportAt? .error errnum (if line = 0 then none else some (file, line)) message) := by
  refine ⟨?_, fun _ _ => rfl⟩
  unfold stateAfter
  rw [errorAt_eq s status errnum file line message rfl]
  cases (s.reporter.noteError status).1 <;> rfl

theorem warnAt_makesReport :
    MakesReport (warnAt errnum file line message) s
      (s.reportAt? .warning errnum (if line = 0 then none else some (file, line)) message) := by
  cases hshown : s.reporter.suppressWarnings with
  | true =>
    have hnone : s.reportAt? .warning errnum (if line = 0 then none else some (file, line))
        message = none := by
      simp [reportAt?, hshown]
    have hdropped : warnAt errnum file line message s = (Pure.pure () : Act Unit) s := by
      unfold warnAt
      rw [if_pos hshown]
      rfl
    rw [hnone]
    exact .congr hdropped (.pure ())
  | false =>
    have hsome : s.reportAt? .warning errnum (if line = 0 then none else some (file, line))
        message = some { severity := .warning, program := s.program, errnum, message
                         position := if line = 0 then none else some (file, line) } := by
      simp [reportAt?, hshown]
    rw [hsome]
    refine ⟨?_, fun _ _ => rfl⟩
    unfold stateAfter
    rw [warnAt_eq s errnum file line message hshown rfl]
    cases s.reporter.noteWarning.1 <;> rfl

end Reporting

/-- The position shown is the current one. -/
theorem diagnostic_eq (hplaced : s.location.isStray = false) (c : Complaint) :
    s.diagnostic c = { severity := c.severity, program := s.program, position := s.place?
                       message := c.message, errnum := c.errnum } := by
  have hplace : (s.diagnostic c).position = s.place? := by
    unfold Location.isStray at hplaced
    unfold diagnostic Location.reportable place?
    cases hfile : s.location.file with
    | some file => rfl
    | none =>
      have hline : s.location.line = 0 := by simpa [hfile] using hplaced
      simp [hline]
  rw [← hplace]
  rfl

/-- That there is a line without a file shows before anything is reported. -/
theorem raise_of_stray (hstray : s.location.isStray = true) (c : Complaint) :
    raise c s = .error (.panic (.strayLine s.location.line)) s := by
  have hposition : reportPosition s = .error (.panic (.strayLine s.location.line)) s := by
    obtain ⟨hfile, hline⟩ := Bool.and_eq_true_iff.mp hstray
    have hreportable : s.location.reportable = .error s.location.line := by
      unfold Location.reportable
      rw [Option.isNone_iff_eq_none.mp hfile]
      exact if_neg (ne_of_beq_false (by simpa using hline))
    unfold reportPosition
    rw [get_bind, hreportable]
    rfl
  unfold raise
  cases c.severity with
  | error => exact bind_of_error hposition
  | warning => exact bind_of_error hposition

theorem report?_of_drops {c : Complaint} (h : s.drops c = true) : s.report? c = none := by
  unfold report? reportAt?
  rw [if_pos (show (c.severity = .warning && s.reporter.suppressWarnings) = true from h)]
  split <;> rfl

theorem report?_of_not_drops (hplaced : s.location.isStray = false) {c : Complaint}
    (h : s.drops c = false) : s.report? c = some (s.diagnostic c) := by
  unfold drops at h
  unfold report? reportAt?
  rw [diagnostic_eq hplaced, hplaced, h]
  rfl

theorem raise_makesReport (s : Session) (c : Complaint) :
    MakesReport (raise c) s (s.report? c) := by
  cases hplaced : s.location.isStray with
  | true =>
    have hraise := raise_of_stray hplaced c
    have hnone : s.report? c = none := if_pos hplaced
    rw [hnone]
    refine ⟨by rw [stateAfter_of_error hraise], fun status hexit => ?_⟩
    rw [stoppedBy_of_error hraise] at hexit
    cases hexit
  | false =>
    have hraise := raise_eq hplaced c
    cases hdrops : s.drops c with
    | true =>
      rw [note_of_drops hdrops] at hraise
      rw [report?_of_drops hdrops]
      refine .congr ?_ (.pure ())
      rw [hraise, reported, if_pos hdrops]
      rfl
    | false =>
      rw [report?_of_not_drops hplaced hdrops]
      refine ⟨?_, fun _ _ => rfl⟩
      have hreported : stateAfter (raise c) s = s.reported c := by
        unfold stateAfter
        rw [hraise]
        cases (s.reporter.note c).1 <;> rfl
      rw [hreported, reported, hdrops]
      rfl

theorem raiseAny_makesReport (s : Session) (c? : Option Complaint) :
    MakesReport (raiseAny c?) s (c?.bind s.report?) := by
  cases c? with
  | none => exact .pure ()
  | some c => exact raise_makesReport s c

end Session

/-! ## What an act has to say -/

namespace SessionAct

/-- The report that an act has to make, if there is one. -/
def report? (s : Session) : SessionAct → Option Diagnostic
  | error report =>
    s.report? { severity := .error, errnum := report.errnum, message := report.text }
  | errorAt report file line =>
    s.reportAt? .error report.errnum (if line = 0 then none else some (file, line)) report.text
  | warn report =>
    s.report? { severity := .warning, errnum := report.errnum, message := report.text }
  | warnAt report file line =>
    s.reportAt? .warning report.errnum (if line = 0 then none else some (file, line)) report.text
  | argc check => check.complaint?.bind s.report?
  | numeric check => (check.complaint? s.blanks).bind s.report?
  | _ => none

/-- What an act puts into words. -/
def words (s : Session) (act : SessionAct) : List Utterance :=
  match act with
  | header => [.debug (Utf8.encode (messageHeader s.program s.level s.location))]
  | message text =>
    [.debug (Utf8.encode (messageHeader s.program s.level s.location)), .debug (Utf8.encode text),
      .debug (Utf8.encode "\n")]
  | flush => [.flush]
  | print text => [.printed text]
  | trace builtins phase traced => s.traceUtterances builtins phase traced
  | act => (act.report? s).toList.map .report

/-- What an act brings to standard output: what the processor prints, and debug output as long as it
goes there. -/
def outText (s : Session) : SessionAct → Bytes
  | print text => Utf8.encode text
  | act => if s.outputs.active.outlet = .port .out then (act.chunks s).flatten else []

/-- Whether an act may have a report to make. -/
def canReport : SessionAct → Bool
  | error _ | errorAt _ _ _ | warn _ | warnAt _ _ _ | argc _ | numeric _ => true
  | _ => false

variable {s : Session} {act : SessionAct}

theorem makesReport (h : act.canReport = true) (s : Session) :
    Session.MakesReport act.action s (act.report? s) := by
  cases act with
  | error report =>
    exact Session.raise_makesReport s
      { severity := .error, status := report.status, errnum := report.errnum
        message := report.text }
  | errorAt report file line =>
    exact Session.errorAt_makesReport s report.status report.errnum file line report.text
  | warn report =>
    exact Session.raise_makesReport s
      { severity := .warning, errnum := report.errnum, message := report.text }
  | warnAt report file line =>
    exact Session.warnAt_makesReport s report.errnum file line report.text
  | argc check =>
    simp only [action, Session.checkArgCount_eq]
    exact ((Session.raiseAny_makesReport s _).bind_pure _).bind_pure _
  | numeric check =>
    refine .bind_pure (.congr (Session.numericArg_eq check s) ?_) _
    exact (Session.raiseAny_makesReport s _).bind_pure _
  | _ => cases h

theorem words_of_canReport (h : act.canReport = true) :
    act.words s = (act.report? s).toList.map .report := by
  cases act <;> first | rfl | cases h

theorem outText_of_canReport (h : act.canReport = true) : act.outText s = [] := by
  cases act <;> first | exact ite_self _ | cases h

theorem canReport_of_report {d : Diagnostic} (h : act.report? s = some d) :
    act.canReport = true := by
  cases act <;> first | rfl | cases h

/-- What an act brings to the log is what it puts into words. -/
theorem perform_follows (act : SessionAct) (s : Session) :
    Ports.Follows (s.eventsOf (act.words s)) s.outputs.ports (act.perform s).outputs.ports := by
  cases hreports : act.canReport with
  | true =>
    rw [words_of_canReport hreports]
    exact (makesReport hreports s).follows
  | false => ?_
  have hsilent : (act.perform s).outputs.ports = s.outputs.ports →
      Ports.Follows [] s.outputs.ports (act.perform s).outputs.ports := by
    intro hports
    rw [hports]
    exact .refl _
  cases act with
  | change f hf =>
    have hports : (f s).outputs.ports = s.outputs.ports :=
      congrArg (fun t : Tracer => t.outputs.ports) (hf s)
    exact hsilent hports
  | setLevel level => exact .refl _
  | decodeLevel flags =>
    refine hsilent ?_
    simp only [perform, action, Session.decodeLevel]
    cases Level.decode flags <;> rfl
  | redirect selector =>
    simp only [perform, action, stateAfter, Session.setDebugOutput]
    cases hr : s.outputs.redirect (.ofSelector selector) with
    | ok outputs => exact Outputs.redirect_follows hr
    | error failure => exact .refl _
  | header =>
    have hheader : stateAfter Session.writeMessageHeader s = stateAfter (Session.onOutputs
        (Outputs.write (Utf8.encode (messageHeader s.program s.level s.location)))) s :=
      stateAfter_congr (get_bind _ s)
    simp only [perform, action, Session.whileDoing, Session.stateAfter_mapError, hheader]
    exact Session.write_follows _ s
  | message text =>
    simp only [perform, action, Session.whileDoing, Session.stateAfter_mapError]
    exact Session.message_follows text s
  | flush =>
    simp only [perform, action, Session.whileDoing, Session.stateAfter_mapError]
    exact Session.flush_follows s
  | print text => exact Session.print_follows text s
  | trace builtins phase traced => exact Session.trace_follows builtins phase traced s
  | _ => cases hreports

/-- Only an act that has a report to make asks for the end of the run. -/
theorem report_of_exit {status : ExitStatus} (h : stoppedBy act.action s = some (.exit status)) :
    ∃ d, act.report? s = some d := by
  cases hreports : act.canReport with
  | true => exact Option.isSome_iff_exists.mp ((makesReport hreports s).exits status h)
  | false => ?_
  have hdoing : ∀ doing (action : EStateM SystemError Session Unit),
      stoppedBy (Session.whileDoing doing action) s ≠ some (.exit status) := by
    intro doing action hexit
    unfold stoppedBy Session.whileDoing Session.mapError at hexit
    cases ha : action s <;> rw [ha] at hexit <;> cases hexit
  cases act with
  | change f hf => cases h
  | setLevel level => cases h
  | decodeLevel flags =>
    simp only [action, Session.decodeLevel] at h
    cases hd : Level.decode flags <;> rw [hd] at h <;> cases h
  | redirect selector =>
    simp only [action, stoppedBy, Session.setDebugOutput] at h
    cases hr : s.outputs.redirect (.ofSelector selector) <;> rw [hr] at h <;> cases h
  | header => exact absurd h (hdoing _ _)
  | message text => exact absurd h (hdoing _ _)
  | flush => exact absurd h (hdoing _ _)
  | print text => exact absurd h (hdoing _ _)
  | trace builtins phase traced =>
    rcases (Session.traceCall_quiet builtins phase traced s).stop _ _ (eq_error_of_stoppedBy h) with
      ⟨cause, hfailure⟩ | habort
    · cases hfailure
    · cases habort
  | _ => cases hreports

end SessionAct

/-! ## Standard output -/

/-- What an utterance brings to standard output. -/
def Utterance.outBytes (outlet : Outlet) : Utterance → Bytes
  | printed text => Utf8.encode text
  | debug bytes => if outlet = .port .out then bytes else []
  | _ => []

theorem Utterance.bytesTo_out_events (outlet : Outlet) (colours : Bool) (u : Utterance) :
    (u.events outlet colours).flatMap (Event.bytesTo .out) = u.outBytes outlet := by
  cases u with
  | debug bytes =>
    rw [bytesTo_debug]
    rfl
  | alarm program message =>
    simp [events, Ports.bytesTo_carried, outBytes, Request.bytes]
  | _ => simp [events, Ports.bytesTo_carried, outBytes, Request.bytes]

namespace Session

theorem bytesTo_out_eventsOf (s : Session) (utterances : List Utterance) :
    (s.eventsOf utterances).flatMap (Event.bytesTo .out) =
      utterances.flatMap (·.outBytes s.outputs.active.outlet) := by
  unfold eventsOf
  rw [List.flatMap_assoc]
  simp only [Utterance.bytesTo_out_events]

/-- Chunks of debug output come to standard output if it goes there. -/
theorem outBytes_chunks (outlet : Outlet) (chunks : List Bytes) :
    (chunks.map Utterance.debug).flatMap (·.outBytes outlet) =
      if outlet = .port .out then chunks.flatten else [] := by
  rw [List.flatMap_map]
  by_cases h : outlet = .port .out <;> simp [Utterance.outBytes, h, List.flatMap_id']

end Session

namespace SessionAct

variable {s : Session} {act : SessionAct}

/-- What an act puts into words is what it brings to standard output. -/
theorem bytesTo_out_words (act : SessionAct) (s : Session) :
    (s.eventsOf (act.words s)).flatMap (Event.bytesTo .out) = act.outText s := by
  rw [Session.bytesTo_out_eventsOf]
  cases hreports : act.canReport with
  | true =>
    rw [words_of_canReport hreports, outText_of_canReport hreports]
    cases act.report? s <;> rfl
  | false => ?_
  cases act with
  | print text => exact List.flatMap_singleton ..
  | header => exact Session.outBytes_chunks _ [_]
  | message text => exact Session.outBytes_chunks _ [_, _, _]
  | trace builtins phase traced =>
    show (s.traceUtterances builtins phase traced).flatMap _ = if _ then
      ((s.traceUtterances builtins phase traced).filterMap Utterance.chunk?).flatten else []
    rcases Session.traceCall_cases builtins phase traced s with ⟨bytes, -, hwords, -⟩ |
      ⟨-, hwords, -⟩ | ⟨message, -, hwords, -⟩
    all_goals
      rw [hwords]
      simp [Utterance.outBytes, Utterance.chunk?]
  | error | errorAt | warn | warnAt | argc | numeric => cases hreports
  | _ => exact (ite_self _).symm

end SessionAct

namespace Session

/-- All that a run brings to standard output. -/
def outText (s : Session) : List SessionAct → Bytes
  | [] => []
  | act :: rest => act.outText s ++ (act.perform s).outText rest

/-- What goes through the standard streams on behalf of a run. -/
def runEvents (s : Session) : List SessionAct → List Event
  | [] => []
  | act :: rest => s.eventsOf (act.words s) ++ (act.perform s).runEvents rest

theorem afterAll_follows (s : Session) (acts : List SessionAct) :
    Ports.Follows (s.runEvents acts) s.outputs.ports (s.afterAll acts).outputs.ports := by
  induction acts generalizing s with
  | nil => exact .refl _
  | cons act rest ih => exact (act.perform_follows s).trans (ih _)

theorem bytesTo_out_runEvents (s : Session) (acts : List SessionAct) :
    (s.runEvents acts).flatMap (Event.bytesTo .out) = s.outText acts := by
  induction acts generalizing s with
  | nil => rfl
  | cons act rest ih =>
    rw [runEvents, List.flatMap_append, act.bytesTo_out_words, ih]
    rfl

theorem afterAll_append (s : Session) (a b : List SessionAct) :
    s.afterAll (a ++ b) = (s.afterAll a).afterAll b :=
  List.foldl_append

variable {s : Session}

/-- A report that is made without colours comes to these events, unless a stream refuses
something. -/
theorem log_of_report {act : SessionAct} {d : Diagnostic}
    (hplain : s.outputs.ports.err.colours = false)
    (hdone : (act.perform s).outputs.ports.Unrefused) (h : act.report? s = some d) :
    ∃ pieces : List Bytes, pieces.flatten = Utf8.encode d.text ∧
      (act.perform s).log =
        s.log ++ [.flushed .out] ++ pieces.map (.wrote .err) ++ [.flushed .err] := by
  obtain ⟨pieces, hpieces, hflatten⟩ := d.carried_requests
  have hwords : act.words s = [.report d] := by
    rw [SessionAct.words_of_canReport (SessionAct.canReport_of_report h), h]
    rfl
  have hevents : s.eventsOf (act.words s) =
      [.flushed .out] ++ (pieces.map (.wrote .err) ++ [.flushed .err]) := by
    rw [hwords, eventsOf, List.flatMap_singleton, Utterance.events, hplain, hpieces]
    rfl
  refine ⟨pieces, hflatten, ?_⟩
  unfold log
  rw [(act.perform_follows s).log hdone, hevents]
  simp only [List.append_assoc]

/-- **Every report arrives as a whole, in order and with the right text.** Let a caller do anything
with a session, let the streams take everything so far, and standard error show no colours. Then an
act that has a report to make brings these events to the log and no others: a flush of standard
output, the text of the report on standard error, and a flush of that. By then standard output has
handed on all that has been printed, or written as debug output that goes there, by all acts before,
however it buffers; nothing is taken back later. An act asks for the end of the run only if it has a
report to make. -/
theorem reports_land_whole {before later : List SessionAct} {act : SessionAct}
    (hplain : s.outputs.ports.err.colours = false)
    (hdone : (s.afterAll (before ++ act :: later)).outputs.ports.Unrefused) :
    let t := s.afterAll before
    (∀ d, act.report? t = some d → ∃ (system : String) (pieces : List Bytes),
      (SystemError.os d.errnum).text = system ++ s!" (os error {d.errnum.toInt})" ∧
      pieces.flatten = Utf8.encode (d.wording system) ∧
      (act.perform t).log =
        t.log ++ [.flushed .out] ++ pieces.map (.wrote .err) ++ [.flushed .err]) ∧
    (∀ status, stoppedBy act.action t = some (.exit status) → ∃ d, act.report? t = some d) ∧
    t.outputs.ports.textAt .out = s.outputs.ports.textAt .out ++ s.outText before ∧
    Settled .out (t.log ++ [.flushed .out]) ∧ ArrivesFirst (t.log ++ [.flushed .out]) ∧
    (act.perform t).log <+: (s.afterAll (before ++ act :: later)).log := by
  intro t
  have hbefore : Ports.Follows (s.runEvents before) s.outputs.ports t.outputs.ports :=
    s.afterAll_follows before
  have hact := act.perform_follows t
  have hlater := (act.perform t).afterAll_follows later
  have hall : s.afterAll (before ++ act :: later) = (act.perform t).afterAll later :=
    s.afterAll_append before (act :: later)
  rw [hall] at hdone ⊢
  have hperformed := hlater.unrefused hdone
  refine ⟨fun d hd => ?_, fun status => SessionAct.report_of_exit, ?_, settled_flushed .out _,
    arrivesFirst_of_flushed ?_, ?_⟩
  · have hplain' : t.outputs.ports.err.colours = false := (hbefore.colours .err).trans hplain
    obtain ⟨pieces, hflatten, hlog⟩ := log_of_report hplain' hperformed hd
    rw [← d.wording_describe] at hflatten
    exact ⟨describe d.errnum, pieces, SystemError.text_os d.errnum, hflatten, hlog⟩
  · unfold Ports.textAt
    rw [hbefore.log (hact.unrefused hperformed), List.flatMap_append, bytesTo_out_runEvents]
  · rw [List.foldl_append]
    rfl
  · unfold log
    rw [hlater.log hdone]
    exact List.prefix_append ..

/-- Something to print, and debug output that goes to a file. -/
def printedFirst : List SessionAct := [.print "x", .redirect (some "d"), .message "m"]

/-- An error at a position that ends the run, with an error of the system behind it that has no
description. -/
def strangeError : SessionAct := .errorAt { status := 2, errnum := -1, text := "e" } "f" 7

theorem reports_land_whole_strangeError :
    plainSession.outputs.ports.err.colours = false ∧
      (plainSession.afterAll
        (printedFirst ++ strangeError :: [.print "y"])).outputs.ports.Unrefused ∧
      stoppedBy strangeError.action (plainSession.afterAll printedFirst) = some (.exit 2) ∧
      ∃ pieces : List Bytes,
        pieces.flatten = Utf8.encode "m4:f:7: e: Unknown error -1\n" ∧
        (strangeError.perform (plainSession.afterAll printedFirst)).log =
          [.wrote .out (Utf8.encode "x"), .flushed .out] ++ pieces.map (.wrote .err)
            ++ [.flushed .err] := by
  have hplain : plainSession.outputs.ports.err.colours = false := rfl
  have hdone : (plainSession.afterAll
      (printedFirst ++ strangeError :: [.print "y"])).outputs.ports.Unrefused :=
    Ports.unrefused_of_all (by cbv)
  have hexit : stoppedBy strangeError.action (plainSession.afterAll printedFirst) =
      some (.exit 2) := by cbv
  have hlog : (plainSession.afterAll printedFirst).log =
      [.wrote .out (Utf8.encode "x")] := by cbv
  have hreport : strangeError.report? (plainSession.afterAll printedFirst) =
      some { severity := .error, program := "m4", position := some ("f", 7), message := "e"
             errnum := -1 } := by cbv
  obtain ⟨hwhole, -⟩ := reports_land_whole hplain hdone
  obtain ⟨system, pieces, hsystem, hpieces, hall⟩ := hwhole _ hreport
  have htext : (SystemError.os (-1)).text =
      "Unknown error -1" ++ s!" (os error {Int32.toInt (-1)})" := by decide
  rw [htext] at hsystem
  have hunknown : "Unknown error -1" = system := (String.append_left_inj _).mp hsystem
  refine ⟨hplain, hdone, hexit, pieces, ?_, ?_⟩
  · rw [hpieces, ← hunknown]
    cbv
  · rw [hall, hlog]
    rfl

end Session

end MacroTrace
