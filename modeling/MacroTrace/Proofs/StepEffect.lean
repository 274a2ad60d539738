import MacroTrace.Proofs.Outcome
import MacroTrace.Proofs.Utterance
/-!
# What a step changes, and when it stops the run

A step of a replay stops the run because of its complaint, because it asks for a position that makes
no sense, or because it traces a call that cannot be shown (`Session.stop?`). Apart from that only a
stream can stop it, or a count that is full (`Session.stoppedBy_takeStep`). What later steps depend
on, apart from what has been reported and written, is the `Stance` of a session; a step's effect on
it depends on the stance alone (`Session.stance_takeStep`).
-/

namespace MacroTrace

/-- Whether something went wrong that the steps themselves do not account for: a stream failed, or
an agreement was broken. -/
def Stop.isMishap : Stop → Bool
  | failure (.system _ _) | panic _ => true
  | _ => false

/-! ## What can go wrong with a stream -/

/-- An operation is stopped by nothing but a mishap. -/
def EndsUnlessMishap {σ α : Type} (action : EStateM Stop σ α) (s : σ) : Prop :=
  ∀ stop, stoppedBy action s = some stop → stop.isMishap

namespace EndsUnlessMishap

variable {σ α β : Type} {s s' : σ}

theorem of_ok {action : EStateM Stop σ α} {a : α} (h : action s = .ok a s') :
    EndsUnlessMishap action s := by
  intro stop hstop
  rw [stoppedBy_of_ok h] at hstop
  cases hstop

theorem of_eq {action : EStateM Stop σ α} {other : EStateM Stop σ α} (h : action s = other s')
    (hother : EndsUnlessMishap other s') : EndsUnlessMishap action s := by
  intro stop hstop
  rw [stoppedBy_congr h] at hstop
  exact hother stop hstop

theorem after {action : EStateM Stop σ α} {next : α → EStateM Stop σ β} {a : α}
    (h : action s = .ok a s') (hnext : EndsUnlessMishap (next a) s') :
    EndsUnlessMishap (action >>= next) s :=
  of_eq (bind_of_ok h) hnext

theorem whileDoing (doing : String) (action : EStateM SystemError Session α) (s : Session) :
    EndsUnlessMishap (Session.whileDoing doing action) s := by
  intro stop hstop
  unfold stoppedBy Session.whileDoing Session.mapError at hstop
  cases ha : action s with
  | ok a s' =>
    rw [ha] at hstop
    cases hstop
  | error cause s' =>
    rw [ha] at hstop
    cases hstop
    rfl

theorem onTracer {action : EStateM Stop Tracer α} {s : Session}
    (h : EndsUnlessMishap action s.tracer) : EndsUnlessMishap (Session.onTracer action) s := by
  intro stop hstop
  refine h stop ?_
  unfold stoppedBy Session.onTracer at hstop
  unfold stoppedBy
  cases ha : action s.tracer with
  | ok a t =>
    rw [ha] at hstop
    cases hstop
  | error e t =>
    rw [ha] at hstop
    exact hstop

end EndsUnlessMishap

namespace Tracer

theorem finishLine_ends (t : Tracer) : EndsUnlessMishap finishLine t := by
  intro stop hstop
  unfold stoppedBy finishLine at hstop
  simp only at hstop
  cases hw : Outputs.write (t.pending.take.1 ++ Utf8.encode "\n") t.outputs with
  | ok u outputs =>
    rw [hw] at hstop
    cases hstop
  | error cause outputs =>
    rw [hw] at hstop
    cases hstop
    rfl

theorem line_ends {o : TemplateOptions} {phrases : List Phrase} {text : String}
    (h : Says o phrases text) (t : Tracer) :
    EndsUnlessMishap (sayAll o phrases >>= fun _ => finishLine) t :=
  .after (h t) (finishLine_ends _)

theorem pre_ends {t : TraceSettings} {builtins : Registry} {call : Call}
    (h : t.unknownBuiltin? builtins call = none) (tracer : Tracer) :
    EndsUnlessMishap (pre t builtins call) tracer := by
  have hknown := t.pre_of_known builtins call h tracer
  by_cases hcall : t.level.has .call
  · rw [if_pos hcall] at hknown
    exact .of_eq hknown (finishLine_ends _)
  · rw [if_neg hcall] at hknown
    exact .of_ok hknown

end Tracer

namespace Session

variable {s s' : Session} {builtins : Registry}

/-- Whether tracing a call ends the program. -/
def cannotTrace (s : Session) (builtins : Registry) (phase : Phase) (traced : TracedCall) : Bool :=
  phase = .pre && (s.traceSettings.unknownBuiltin? builtins traced.call).isSome

theorem traceCall_ends {phase : Phase} {traced : TracedCall}
    (h : s.cannotTrace builtins phase traced = false) :
    EndsUnlessMishap (traceCall builtins phase traced) s := by
  cases phase with
  | prepre =>
    have hline := Tracer.line_ends (s.traceSettings.says_prepre traced.call) s.tracer
    exact .of_eq (get_bind _ s) hline.onTracer
  | post =>
    have hline := Tracer.line_ends (s.traceSettings.says_post traced.call traced.result) s.tracer
    exact .of_eq (get_bind _ s) hline.onTracer
  | pre =>
    have hknown : s.traceSettings.unknownBuiltin? builtins traced.call = none := by
      simpa [cannotTrace] using h
    have hpre := (Tracer.pre_ends hknown s.tracer).onTracer
    intro stop hstop
    have hrun : traceCall builtins .pre traced s =
        tryCatch (onTracer (Tracer.pre s.traceSettings builtins traced.call)) _ s := get_bind _ s
    rw [stoppedBy_congr hrun] at hstop
    cases hp : onTracer (Tracer.pre s.traceSettings builtins traced.call) s with
    | ok u s' =>
      rw [stoppedBy_of_ok (tryCatch_of_ok hp)] at hstop
      cases hstop
    | error e s' =>
      -- A mishap is handed on; only an unknown builtin would be taken care of.
      have hmishap := hpre e (stoppedBy_of_error hp)
      rw [stoppedBy_congr (tryCatch_of_error hp)] at hstop
      cases e with
      | failure cause =>
        cases cause with
        | system doing cause =>
          cases hstop
          rfl
        | _ => cases hmishap
      | panic breach =>
        cases hstop
        rfl
      | _ => cases hmishap

theorem traceCall_aborts_of {phase : Phase} {traced : TracedCall}
    (h : s.cannotTrace builtins phase traced) :
    stoppedBy (traceCall builtins phase traced) s = some .abort := by
  unfold cannotTrace at h
  obtain ⟨hphase, hunknown⟩ := Bool.and_eq_true_iff.mp h
  obtain ⟨id, hid⟩ := Option.isSome_iff_exists.mp hunknown
  have hpre := of_decide_eq_true hphase
  subst hpre
  exact stoppedBy_of_error (tracePre_of_unknown hid)

/-! ## When a step stops the run -/

/-- How a step stops the run, whatever the streams do. -/
def stop? (s : Session) (builtins : Registry) (step : Step) : Option Stop :=
  match s.complaint? step with
  | some c => (c.endsWith? s.reporter.suppressWarnings s.reporter.fatalWarnings).map .exit
  | none =>
    match step with
    | .location position => stoppedBy (moveTo position) s
    | .trace phase traced => if s.cannotTrace builtins phase traced then some .abort else none
    | _ => none

/-- The reporter decides as the complaint and the switches say, unless a count is full. -/
theorem note_cases (r : Reporter) (c : Complaint) :
    (∃ breach, (r.note c).1 = .error (.panic breach)) ∨
      (r.note c).1 = match c.endsWith? r.suppressWarnings r.fatalWarnings with
        | some status => .error (.exit status)
        | none => .ok () := by
  unfold Reporter.note Complaint.endsWith?
  cases c.severity with
  | error =>
    simp only [Reporter.noteError]
    cases countOne r.errors with
    | error breach => exact .inl ⟨breach, rfl⟩
    | ok errors =>
      refine .inr ?_
      unfold Reporter.verdict Reporter.errorStatus
      by_cases hs : c.status = .success
      · cases r.fatalWarnings <;> simp [hs, ExitStatus.success, ExitStatus.failure]
      · simp [hs]
  | warning =>
    cases r.suppressWarnings with
    | true => exact .inr (by simp)
    | false =>
      simp only [Reporter.noteWarning, Bool.false_eq_true, if_false]
      cases countOne r.warnings with
      | error breach => exact .inl ⟨breach, rfl⟩
      | ok warnings =>
        refine .inr ?_
        unfold Reporter.verdict Reporter.warningStatus
        cases r.fatalWarnings <;> simp [ExitStatus.success, ExitStatus.failure]

/-- Without a complaint, a step stops the run as `stop?` says, or for a mishap. -/
theorem stoppedBy_work {step : Step} (h : s.complaint? step = none) :
    stoppedBy (s.work builtins step) s = s.stop? builtins step ∨
      ∃ stop, stoppedBy (s.work builtins step) s = some stop ∧ stop.isMishap := by
  have hends : ∀ {action : Act Unit}, EndsUnlessMishap action s →
      stoppedBy action s = none ∨ ∃ stop, stoppedBy action s = some stop ∧ stop.isMishap := by
    intro action haction
    cases hstop : stoppedBy action s with
    | none => exact .inl rfl
    | some stop => exact .inr ⟨stop, rfl, haction stop hstop⟩
  unfold stop?
  rw [h]
  cases step with
  | location position => exact .inl rfl
  | trace phase traced =>
    simp only [work]
    cases hc : s.cannotTrace builtins phase traced with
    | true => exact .inl (traceCall_aborts_of hc)
    | false => exact hends (traceCall_ends hc)
  | debugMode flags =>
    simp only [work]
    split <;> exact .inl rfl
  | debugFile selector =>
    simp only [work]
    split <;> exact .inl rfl
  | numeric check =>
    simp only [work]
    split
    · exact hends (.whileDoing _ _ s)
    · exact .inl rfl
  | error report => exact .inl rfl
  | warn report => exact .inl rfl
  | _ => exact hends (.whileDoing _ _ s)

/-- How a step stops the run. -/
theorem stoppedBy_takeStep (hplaced : s.location.isStray = false) (builtins : Registry)
    (step : Step) :
    stoppedBy (takeStep builtins step) s = s.stop? builtins step ∨
      ∃ stop, stoppedBy (takeStep builtins step) s = some stop ∧ stop.isMishap := by
  cases h : s.complaint? step with
  | none =>
    rw [stoppedBy_congr (takeStep_of_no_complaint h)]
    exact stoppedBy_work h
  | some c =>
    rcases note_cases s.reporter c with ⟨breach, hfull⟩ | hverdict
    · exact .inr ⟨_, stoppedBy_of_error (takeStep_of_ended hplaced h hfull), rfl⟩
    · unfold stop?
      rw [h]
      simp only
      cases hends : c.endsWith? s.reporter.suppressWarnings s.reporter.fatalWarnings with
      | some status =>
        rw [hends] at hverdict
        exact .inl (stoppedBy_of_error (takeStep_of_ended hplaced h hverdict))
      | none =>
        rw [hends] at hverdict
        rw [stoppedBy_congr (takeStep_of_complaint hplaced h hverdict)]
        rcases work_of_complaint builtins h with ⟨hwork, -⟩ | ⟨text, hwork, -⟩
        · rw [hwork]
          exact .inl rfl
        · rw [hwork]
          cases hp : stoppedBy (print text) (s.reported c) with
          | none => exact .inl rfl
          | some stop => exact .inr ⟨stop, rfl, EndsUnlessMishap.whileDoing _ _ _ stop hp⟩

/-! ## What a step changes -/

end Session

/-- What later trace lines and checks depend on, besides what a step itself says. -/
structure Stance where
  settings : TraceSettings
  blanks : Blanks
  pending : LineBuffer

/-- What a mark does to the pending line. -/
def TraceMark.pend (pending : LineBuffer) : TraceMark → LineBuffer
  | fragment bytes => pending.pushBytes bytes
  | finish | drop => .empty
  | redirect _ => pending

theorem Tracer.pending_takeAll (marks : List TraceMark) (t : Tracer) :
    (marks.foldl Tracer.take t).pending = marks.foldl TraceMark.pend t.pending := by
  induction marks generalizing t with
  | nil => rfl
  | cons mark rest ih =>
    rw [List.foldl_cons, List.foldl_cons, ih]
    cases mark <;> rfl

namespace Stance

/-- The pending line once a call has been traced. -/
def pendingAfter (v : Stance) (builtins : Registry) (phase : Phase) (traced : TracedCall) :
    LineBuffer :=
  match (Session.traceAct builtins phase traced).marks? v.settings with
  | some marks => marks.foldl TraceMark.pend v.pending
  | none => .empty

def after (v : Stance) (builtins : Registry) : Step → Stance
  | .location position =>
    if position.isStray then v else { v with settings.location := position }
  | .debugMode flags =>
    match Level.decode flags with
    | .ok level => { v with settings.level := level, pending := .empty }
    | .error _ => v
  | .trace phase traced => { v with pending := v.pendingAfter builtins phase traced }
  | _ => v

end Stance

namespace Session

variable {s s' : Session} {builtins : Registry}

def stance (s : Session) : Stance := ⟨s.traceSettings, s.blanks, s.tracer.pending⟩

theorem stance_reported (s : Session) (c : Complaint) : (s.reported c).stance = s.stance := by
  unfold reported
  split <;> rfl

theorem stance_onOutputs {ε α : Type} (action : EStateM ε Outputs α) (s : Session) :
    (stateAfter (onOutputs action) s).stance = s.stance := by
  unfold onOutputs
  rw [stateAfter_onTracer]
  unfold stateAfter Tracer.onOutputs
  cases action s.tracer.outputs <;> rfl

theorem stance_whileDoing {doing : String} {action : EStateM SystemError Session Unit}
    (h : (stateAfter action s).stance = s.stance) :
    (stateAfter (whileDoing doing action) s).stance = s.stance := by
  unfold whileDoing
  rw [stateAfter_mapError]
  exact h

theorem stance_debugMessage (text : String) (s : Session) :
    (stateAfter (debugMessage text) s).stance = s.stance := by
  have hheader : (stateAfter writeMessageHeader s).stance = s.stance := by
    unfold writeMessageHeader
    rw [stateAfter_congr (get_bind _ s)]
    exact stance_onOutputs _ s
  let R (s s' : Session) : Prop := s'.stance = s.stance
  have htrans : ∀ {a b c}, R a b → R b c → R a c := fun hab hbc => hbc.trans hab
  refine stateAfter_bind (R := R) htrans hheader fun _ s₁ _ => ?_
  refine stateAfter_bind (R := R) htrans (stance_onOutputs _ s₁) fun _ s₂ _ => ?_
  exact stance_onOutputs _ s₂

/-- Only a call with a builtin that the table does not know comes to nothing. -/
theorem traceAct_no_marks {phase : Phase} {traced : TracedCall}
    (h : (traceAct builtins phase traced).marks? s.traceSettings = none) :
    ∃ id, phase = .pre ∧ s.traceSettings.unknownBuiltin? builtins traced.call = some id := by
  cases phase with
  | pre =>
    cases hu : s.traceSettings.unknownBuiltin? builtins traced.call with
    | some id => exact ⟨id, rfl, rfl⟩
    | none => simp [traceAct, TraceAct.marks?, hu] at h
  | _ => cases h

theorem stance_traceCall (builtins : Registry) (phase : Phase) (traced : TracedCall)
    (s : Session) :
    (stateAfter (traceCall builtins phase traced) s).stance =
      s.stance.after builtins (.trace phase traced) := by
  cases hm : (traceAct builtins phase traced).marks? s.traceSettings with
  | some marks =>
    have hpending := Tracer.pending_takeAll marks s.tracer
    rw [(traceCall_endsIn hm).stateAfter]
    unfold stance Stance.after Stance.pendingAfter
    simp only [hm]
    rw [hpending]
    rfl
  | none =>
    obtain ⟨id, hpre, hid⟩ := traceAct_no_marks hm
    subst hpre
    have habort : traceCall builtins .pre traced s = _ := tracePre_of_unknown hid
    have hafter : s.stance.after builtins (.trace .pre traced) =
        stance { s with tracer := s.tracer.take .drop } := by
      unfold stance Stance.after Stance.pendingAfter
      simp only [hm]
      rfl
    rw [stateAfter_of_error habort, hafter]
    exact stance_onOutputs Outputs.flushAll _

/-- What a step does to the stance depends on the stance alone. -/
theorem stance_work (step : Step) (s : Session) :
    (stateAfter (s.work builtins step) s).stance = s.stance.after builtins step := by
  cases step with
  | location position =>
    show (stateAfter (moveTo position) s).stance = _
    simp only [moveTo, Stance.after]
    cases position.isStray <;> rfl
  | debugMode flags =>
    simp only [work, Stance.after]
    cases Level.decode flags <;> rfl
  | debugFile selector =>
    simp only [work]
    split <;> rfl
  | trace phase traced => exact stance_traceCall builtins phase traced s
  | message text => exact stance_whileDoing (stance_debugMessage text s)
  | numeric check =>
    simp only [work]
    split
    · exact stance_whileDoing (stance_onOutputs _ s)
    · rfl
  | error report => rfl
  | warn report => rfl
  | _ => exact stance_whileDoing (stance_onOutputs _ s)

theorem after_of_complaint {step : Step} {c : Complaint} (h : s.complaint? step = some c)
    (v : Stance) : v.after builtins step = v := by
  cases step with
  | debugMode flags =>
    simp only [complaint?] at h
    simp only [Stance.after]
    cases hd : Level.decode flags with
    | ok level =>
      rw [hd] at h
      cases h
    | error cause => rfl
  | location position => cases h
  | trace phase traced => cases h
  | _ => rfl

theorem stance_takeStep (hplaced : s.location.isStray = false) (builtins : Registry)
    (step : Step) :
    (stateAfter (takeStep builtins step) s).stance = s.stance.after builtins step := by
  cases h : s.complaint? step with
  | none =>
    rw [stateAfter_congr (takeStep_of_no_complaint h)]
    exact stance_work step s
  | some c =>
    rw [after_of_complaint h]
    cases hv : (s.reporter.note c).1 with
    | error stop =>
      rw [stateAfter_of_error (takeStep_of_ended hplaced h hv)]
      exact stance_reported s c
    | ok _ =>
      rw [stateAfter_congr (takeStep_of_complaint hplaced h hv), ← stance_reported s c]
      rcases work_of_complaint builtins h with ⟨hwork, -⟩ | ⟨text, hwork, -⟩
      · rw [hwork]
        rfl
      · rw [hwork]
        exact stance_whileDoing (stance_onOutputs _ _)

/-! ### Outputs -/

theorem onOutputs_stays {ε α : Type} {action : EStateM ε Outputs α}
    (h : ∀ o, Outputs.Stays o (stateAfter action o)) (s : Session) :
    Outputs.Stays s.outputs (stateAfter (onOutputs action) s).outputs := by
  rw [outputs_onOutputs]
  exact h s.outputs

theorem print_stays (text : String) (s : Session) :
    Outputs.Stays s.outputs (stateAfter (print text) s).outputs := by
  unfold print whileDoing writeOut
  rw [stateAfter_mapError]
  exact onOutputs_stays (Outputs.onPorts_stays _) s

theorem message_stays (text : String) (s : Session) :
    Outputs.Stays s.outputs (stateAfter (debugMessage text) s).outputs := by
  have hheader : Outputs.Stays s.outputs (stateAfter writeMessageHeader s).outputs := by
    unfold writeMessageHeader
    rw [stateAfter_congr (get_bind _ s)]
    exact onOutputs_stays (Outputs.write_stays _) s
  let R (s s' : Session) : Prop := Outputs.Stays s.outputs s'.outputs
  have htrans : ∀ {a b c}, R a b → R b c → R a c := fun hab hbc => Outputs.Stays.trans hab hbc
  refine stateAfter_bind (R := R) htrans hheader fun _ s₁ _ => ?_
  refine stateAfter_bind (R := R) htrans (onOutputs_stays (Outputs.write_stays _) s₁)
    fun _ s₂ _ => ?_
  exact onOutputs_stays (Outputs.write_stays _) s₂

theorem trace_stays (builtins : Registry) (phase : Phase) (traced : TracedCall) (s : Session) :
    Outputs.Stays s.outputs (stateAfter (traceCall builtins phase traced) s).outputs := by
  rcases traceCall_cases builtins phase traced s with ⟨bytes, s', -, hends, houtputs⟩ |
    ⟨s', -, hends, houtputs⟩ | ⟨message, s', -, habort, houtputs⟩
  · rw [hends.stateAfter, houtputs]
    exact Outputs.write_stays bytes s.outputs
  · rw [hends.stateAfter, houtputs]
    exact .refl _
  · rw [stateAfter_of_error habort, houtputs]
    have hflush := onOutputs_stays Outputs.flushAll_stays s
    exact hflush.trans (Outputs.onPorts_stays (modify (sendAlarm s.program message)) _)

theorem reported_stays (s : Session) (c : Complaint) :
    Outputs.Stays s.outputs (s.reported c).outputs := by
  unfold reported
  split
  · exact .refl _
  · exact Outputs.onPorts_stays (modify (s.diagnostic c).send) s.outputs

theorem work_stays {step : Step} (h : ∀ selector, step ≠ .debugFile selector) (s : Session) :
    Outputs.Stays s.outputs (stateAfter (s.work builtins step) s).outputs := by
  cases step with
  | location position =>
    show Outputs.Stays s.outputs (stateAfter (moveTo position) s).outputs
    unfold moveTo
    cases position.isStray <;> exact .refl _
  | debugMode flags =>
    simp only [work]
    split <;> exact .refl _
  | debugFile selector => exact absurd rfl (h selector)
  | trace phase traced => exact trace_stays builtins phase traced s
  | message text =>
    simp only [work, whileDoing]
    rw [stateAfter_mapError]
    exact message_stays text s
  | numeric check =>
    simp only [work]
    split
    · exact print_stays _ s
    · exact .refl _
  | flush =>
    simp only [work, whileDoing]
    rw [stateAfter_mapError]
    exact onOutputs_stays Outputs.flushAll_stays s
  | error report => exact .refl _
  | warn report => exact .refl _
  | _ => exact print_stays _ s

theorem complaint_stays (hplaced : s.location.isStray = false) {step : Step} {c : Complaint}
    (h : s.complaint? step = some c) :
    Outputs.Stays s.outputs (stateAfter (takeStep builtins step) s).outputs := by
  have hreported := reported_stays s c
  cases hv : (s.reporter.note c).1 with
  | error stop =>
    rw [stateAfter_of_error (takeStep_of_ended hplaced h hv)]
    exact hreported
  | ok _ =>
    rw [stateAfter_congr (takeStep_of_complaint hplaced h hv)]
    rcases work_of_complaint builtins h with ⟨hwork, -⟩ | ⟨text, hwork, -⟩
    · rw [hwork]
      exact hreported
    · rw [hwork]
      exact hreported.trans (print_stays text _)

/-- Only a step that asks for it redirects debug output. -/
theorem takeStep_stays (hplaced : s.location.isStray = false) {step : Step}
    (h : ∀ selector, step ≠ .debugFile selector) :
    Outputs.Stays s.outputs (stateAfter (takeStep builtins step) s).outputs := by
  cases hc : s.complaint? step with
  | none =>
    rw [stateAfter_congr (takeStep_of_no_complaint hc)]
    exact work_stays h s
  | some c => exact complaint_stays hplaced hc

theorem outputs_debugFile {selector : Option String} {outputs : Outputs}
    (h : s.outputs.redirect (.ofSelector selector) = .ok outputs) :
    (stateAfter (takeStep builtins (.debugFile selector)) s).outputs = outputs := by
  have hc : s.complaint? (.debugFile selector) = none := by simp only [complaint?, h]
  rw [stateAfter_congr (takeStep_of_no_complaint hc)]
  simp only [work, h]
  rfl

theorem debugFile_stays (hplaced : s.location.isStray = false) {selector : Option String}
    {failure : Failure} (h : s.outputs.redirect (.ofSelector selector) = .error failure) :
    Outputs.Stays s.outputs
      (stateAfter (takeStep builtins (.debugFile selector)) s).outputs := by
  have hc : ∃ c, s.complaint? (.debugFile selector) = some c := by
    simp only [complaint?, h]
    exact ⟨_, rfl⟩
  obtain ⟨c, hc⟩ := hc
  exact complaint_stays hplaced hc

/-! ### The reporter -/

theorem switches_note (r : Reporter) (c : Complaint) :
    (r.note c).2.suppressWarnings = r.suppressWarnings ∧
      (r.note c).2.fatalWarnings = r.fatalWarnings := by
  unfold Reporter.note
  cases c.severity with
  | error =>
    simp only [Reporter.noteError]
    cases countOne r.errors <;> exact ⟨rfl, rfl⟩
  | warning =>
    cases hs : r.suppressWarnings with
    | true => exact ⟨hs, rfl⟩
    | false =>
      simp only [Reporter.noteWarning, Bool.false_eq_true, if_false]
      cases countOne r.warnings <;> exact ⟨hs, rfl⟩

/-- No step turns a switch. -/
theorem switches_takeStep (hplaced : s.location.isStray = false) (builtins : Registry)
    (step : Step) :
    (stateAfter (takeStep builtins step) s).reporter.suppressWarnings =
        s.reporter.suppressWarnings ∧
      (stateAfter (takeStep builtins step) s).reporter.fatalWarnings =
        s.reporter.fatalWarnings := by
  rw [reporter_takeStep hplaced]
  cases s.complaint? step with
  | none => exact ⟨rfl, rfl⟩
  | some c => exact switches_note s.reporter c

/-! ### Two sessions -/

variable {t : Session}

theorem traceSettings_of_stance (h : s.stance = t.stance) : s.traceSettings = t.traceSettings :=
  congrArg Stance.settings h

theorem stoppedBy_moveTo (position : Location) (s t : Session) :
    stoppedBy (moveTo position) s = stoppedBy (moveTo position) t := by
  unfold moveTo
  cases position.isStray <;> rfl

/-- Whether and how a step stops the run depends on the switches, on what counts as blank, on the
settings for trace lines, and on whether debug output can be redirected. -/
theorem stop?_congr (hblanks : s.blanks = t.blanks)
    (hsuppress : s.reporter.suppressWarnings = t.reporter.suppressWarnings)
    (hfatal : s.reporter.fatalWarnings = t.reporter.fatalWarnings) {step : Step}
    (hcalls : ∀ phase traced, step = .trace phase traced → s.traceSettings = t.traceSettings)
    (hopens : ∀ selector, step = .debugFile selector →
      (s.outputs.redirect (.ofSelector selector)).isOk =
        (t.outputs.redirect (.ofSelector selector)).isOk) :
    s.stop? builtins step = t.stop? builtins step := by
  unfold stop?
  rw [hsuppress, hfatal]
  cases step with
  | location position => exact stoppedBy_moveTo position s t
  | trace phase traced =>
    unfold cannotTrace
    rw [hcalls phase traced rfl]
    rfl
  | numeric check => simp only [complaint?, hblanks]
  | debugFile selector =>
    have hsame := hopens selector rfl
    simp only [complaint?]
    cases hs : s.outputs.redirect (.ofSelector selector) with
    | ok o =>
      cases ht : t.outputs.redirect (.ofSelector selector) with
      | ok o' => rfl
      | error failure =>
        rw [hs, ht] at hsame
        cases hsame
    | error failure =>
      cases ht : t.outputs.redirect (.ofSelector selector) with
      | ok o' =>
        rw [hs, ht] at hsame
        cases hsame
      | error failure' => rfl
  | _ => rfl

end Session

end MacroTrace
