import MacroTrace.Proofs.Interjection
/-!
# A run with and without tracing

Tracing makes no difference to anything else: a replay from which all traced calls, debug messages
and changes of the debug level are taken out ends in the same way, with the same reports and the
same text printed, and each standard stream shows the same but for whole trace lines and messages
(`Session.tracing_is_transparent`).
-/

namespace MacroTrace

/-- Whether a step has to do with tracing only: it traces a call, writes a debug message or changes
the debug level. -/
def Step.isTracing : Step → Bool
  | .trace _ _ | .message _ => true
  | .debugMode flags =>
    match Level.decode flags with
    | .ok _ => true
    | .error _ => false
  | _ => false

/-- A piece of text that is shown as a whole. Debug output comes in whole lines, trace lines and
messages, each with the outlet in force. -/
inductive Remark
  | printed (text : String)
  | report (d : Diagnostic)
  | debug (outlet : Outlet) (line : Bytes)
deriving DecidableEq, Repr

namespace Remark

def isDebug : Remark → Bool
  | debug _ _ => true
  | _ => false

/-- What a remark comes to at a port, if standard error shows colours or not. -/
def bytesTo (colours : Bool) (p : Port) : Remark → Bytes
  | printed text => if p = .out then Utf8.encode text else []
  | report d => if p = .err then d.shown colours else []
  | debug outlet line => if outlet = .port p then line else []

/-- The remark that an utterance is by itself; debug output may be only part of one. -/
def ofUtterance? : Utterance → Option Remark
  | .printed text => some (printed text)
  | .report d => some (report d)
  | _ => none

end Remark

/-- All text that has gone through a port. -/
def Ports.textAt (s : Ports) (p : Port) : Bytes := s.log.toList.flatMap (Event.bytesTo p)

/-! ## What remarks come to -/

theorem Ports.bytesTo_carried (p q : Port) (colours : Bool) (requests : List Request) :
    (carried q colours requests).flatMap (Event.bytesTo p) =
      if p = q then requests.flatMap (Request.bytes colours) else [] := by
  have hone : ∀ request : Request, (carried q colours [request]).flatMap (Event.bytesTo p) =
      if p = q then request.bytes colours else [] := by
    intro request
    by_cases hp : p = q
    · subst hp
      cases request with
      | write bytes =>
        cases bytes <;> simp [carried, Request.isVoid, effect, Event.bytesTo, Request.bytes]
      | _ => simp [carried, Request.isVoid, effect, Event.bytesTo, Request.bytes]
    · have hq : q ≠ p := fun e => hp e.symm
      cases request with
      | write bytes => cases bytes <;> simp [carried, Request.isVoid, effect, Event.bytesTo, hp, hq]
      | _ => simp [carried, Request.isVoid, effect, Event.bytesTo, hp, hq]
  induction requests with
  | nil => simp [carried]
  | cons request rest ih =>
    rw [← List.singleton_append, carried_append, List.flatMap_append, ih, hone]
    by_cases hp : p = q <;> simp [hp]

/-- What an utterance other than debug output brings to a port. -/
theorem Utterance.bytesTo_events {outlet : Outlet} {colours : Bool} (p : Port)
    {u : Utterance} (hdebug : u.chunk? = none)
    (halarm : ∀ program message, u ≠ .alarm program message) :
    (u.events outlet colours).flatMap (Event.bytesTo p) =
      (Remark.ofUtterance? u).toList.flatMap (Remark.bytesTo colours p) := by
  cases u with
  | printed text =>
    simp [events, Ports.bytesTo_carried, Remark.ofUtterance?, Remark.bytesTo, Request.bytes]
  | debug bytes => cases hdebug
  | report d =>
    simp [events, List.flatMap_append, Ports.bytesTo_carried, Remark.ofUtterance?, Remark.bytesTo,
      Request.bytes, Diagnostic.bytes_requests]
  | flush => simp [events, Ports.bytesTo_carried, Remark.ofUtterance?, Request.bytes]
  | alarm program message => exact absurd rfl (halarm program message)

theorem Utterance.bytesTo_debug {outlet : Outlet} {colours : Bool} (p : Port)
    (bytes : Bytes) :
    ((debug bytes).events outlet colours).flatMap (Event.bytesTo p) =
      (Remark.debug outlet bytes).bytesTo colours p := by
  cases outlet with
  | port q =>
    simp only [events, Ports.bytesTo_carried, Remark.bytesTo, Outlet.port.injEq]
    by_cases hp : p = q
    · simp [hp, Request.bytes]
    · have hq : q ≠ p := fun e => hp e.symm
      simp [hp, hq]
  | _ => simp [events, Remark.bytesTo]

namespace Session

/-- What a step shows, in whole pieces. -/
def remarks (builtins : Registry) (s : Session) : Step → List Remark
  | .trace phase traced =>
    (s.traceLine? builtins (.trace phase traced)).toList.map (.debug s.outputs.active.outlet)
  | .message text =>
    [.debug s.outputs.active.outlet
      (Utf8.encode (messageHeader s.program s.level s.location ++ text ++ "\n"))]
  | step => (s.utterances builtins step).filterMap Remark.ofUtterance?

/-- Everything that a run shows, in order. -/
def allRemarks (s : Session) (builtins : Registry) (steps : List Step) : List Remark :=
  s.along (remarks builtins) builtins steps

variable {s t : Session} {builtins : Registry}

/-- Only tracing writes debug output or ends the program. -/
theorem utterances_plain {step : Step} (htrace : ∀ phase traced, step ≠ .trace phase traced)
    (hmessage : ∀ text, step ≠ .message text) :
    ∀ u ∈ s.utterances builtins step,
      u.chunk? = none ∧ ∀ program message, u ≠ .alarm program message := by
  have hwork : ∀ u ∈ s.workUtterances builtins step,
      u.chunk? = none ∧ ∀ program message, u ≠ .alarm program message := by
    intro u hu
    cases step with
    | trace phase traced => exact absurd rfl (htrace phase traced)
    | message text => exact absurd rfl (hmessage text)
    | numeric check =>
      obtain ⟨value, -, rfl⟩ := List.mem_map.mp hu
      exact ⟨rfl, by simp⟩
    | output text =>
      rw [List.mem_singleton.mp hu]
      exact ⟨rfl, by simp⟩
    | argc check =>
      rw [List.mem_singleton.mp hu]
      exact ⟨rfl, by simp⟩
    | dumpArgs dump =>
      rw [List.mem_singleton.mp hu]
      exact ⟨rfl, by simp⟩
    | flush =>
      rw [List.mem_singleton.mp hu]
      exact ⟨rfl, by simp⟩
    | _ => cases hu
  intro u hu
  unfold utterances at hu
  cases hc : s.complaint? step with
  | none =>
    rw [hc] at hu
    exact hwork u hu
  | some c =>
    rw [hc] at hu
    rcases List.mem_append.mp hu with hreport | hrest
    · split at hreport
      · cases hreport
      · rw [List.mem_singleton.mp hreport]
        exact ⟨rfl, by simp⟩
    · split at hrest
      · exact hwork u hrest
      · cases hrest

theorem bytesTo_plain {utterances : List Utterance} (p : Port)
    (h : ∀ u ∈ utterances, u.chunk? = none ∧ ∀ program message, u ≠ .alarm program message) :
    (s.eventsOf utterances).flatMap (Event.bytesTo p) =
      (utterances.filterMap Remark.ofUtterance?).flatMap
        (Remark.bytesTo s.outputs.ports.err.colours p) := by
  induction utterances with
  | nil => rfl
  | cons u rest ih =>
    obtain ⟨hdebug, halarm⟩ := h u List.mem_cons_self
    have hrest := ih fun v hv => h v (List.mem_cons_of_mem u hv)
    have hone : (s.eventsOf [u]).flatMap (Event.bytesTo p) =
        (Remark.ofUtterance? u).toList.flatMap
          (Remark.bytesTo s.outputs.ports.err.colours p) := by
      unfold eventsOf
      rw [List.flatMap_singleton]
      exact Utterance.bytesTo_events p hdebug halarm
    rw [← List.singleton_append, eventsOf_append, List.flatMap_append, hrest, hone,
      List.filterMap_append, List.flatMap_append]
    cases hu : Remark.ofUtterance? u <;> simp [hu]

/-- What a step brings to a port are its remarks, unless it ends the program. -/
theorem bytesTo_eventsOf {step : Step}
    (hgoes : stoppedBy (takeStep builtins step) s ≠ some .abort) (p : Port) :
    (s.eventsOf (s.utterances builtins step)).flatMap (Event.bytesTo p) =
      (s.remarks builtins step).flatMap (Remark.bytesTo s.outputs.ports.err.colours p) := by
  have hdebug : ∀ bytes, (s.eventsOf [.debug bytes]).flatMap (Event.bytesTo p) =
      Remark.bytesTo s.outputs.ports.err.colours p (.debug s.outputs.active.outlet bytes) := by
    intro bytes
    unfold eventsOf
    rw [List.flatMap_singleton]
    exact Utterance.bytesTo_debug p bytes
  cases step with
  | trace phase traced =>
    have hutterances : s.utterances builtins (.trace phase traced) =
        s.traceUtterances builtins phase traced := rfl
    simp only [remarks, traceLine?]
    rw [hutterances]
    rcases traceCall_cases builtins phase traced s with ⟨bytes, s', hwords, -, -⟩ |
      ⟨s', hwords, -, -⟩ | ⟨message, s', -, habort, -⟩
    · rw [hwords, hdebug]
      simp [Utterance.chunk?]
    · rw [hwords]
      rfl
    · exact absurd (stoppedBy_of_error habort) hgoes
  | message text =>
    have hutterances : s.utterances builtins (.message text) =
        [.debug (Utf8.encode (messageHeader s.program s.level s.location))] ++
          ([.debug (Utf8.encode text)] ++ [.debug (Utf8.encode "\n")]) := rfl
    simp only [remarks]
    rw [hutterances, eventsOf_append, eventsOf_append, List.flatMap_append, List.flatMap_append,
      hdebug, hdebug, hdebug, List.flatMap_singleton]
    unfold Remark.bytesTo
    by_cases hp : s.outputs.active.outlet = .port p
    · simp only [hp, if_true, Utf8.encode_append, List.append_assoc]
    · simp only [hp, if_false, List.append_nil]
  | _ => exact bytesTo_plain p (utterances_plain (by simp) (by simp))

/-! ## What runs show -/

/-- What a run brings to a port are its remarks, unless it ends the program. -/
theorem takeSteps_shows (hplaced : s.location.isStray = false) {steps : List Step}
    (hgoes : stoppedBy (takeSteps builtins steps) s ≠ some .abort) :
    ∃ events,
      Ports.Follows events s.outputs.ports
        (stateAfter (takeSteps builtins steps) s).outputs.ports ∧
      ∀ p, events.flatMap (Event.bytesTo p) =
        (s.allRemarks builtins steps).flatMap
          (Remark.bytesTo s.outputs.ports.err.colours p) := by
  induction steps generalizing s with
  | nil => exact ⟨[], .refl _, fun _ => rfl⟩
  | cons step rest ih =>
    have hfollows := takeStep_follows hplaced builtins step
    unfold allRemarks
    rw [along]
    cases hstep : takeStep builtins step s with
    | error stop s₁ =>
      have hrun := takeSteps_of_error hstep rest
      rw [stoppedBy_of_error hrun, ← stoppedBy_of_error hstep] at hgoes
      rw [stateAfter_of_error hrun, ← stateAfter_of_error hstep]
      refine ⟨_, hfollows, fun p => ?_⟩
      rw [List.append_nil]
      exact bytesTo_eventsOf hgoes p
    | ok u s₁ =>
      have hrun := takeSteps_of_ok hstep rest
      rw [stoppedBy_congr hrun] at hgoes
      have hplaced' : (stateAfter (takeStep builtins step) s).location.isStray = false :=
        placed_takeStep hplaced
      rw [stateAfter_of_ok hstep] at hfollows hplaced'
      obtain ⟨events, hlater, hshown⟩ := ih hplaced' hgoes
      have hcolours : s₁.outputs.ports.err.colours = s.outputs.ports.err.colours :=
        hfollows.colours .err
      rw [hcolours] at hshown
      rw [stateAfter_congr hrun]
      refine ⟨_, hfollows.trans hlater, fun p => ?_⟩
      have hfirst : stoppedBy (takeStep builtins step) s ≠ some .abort := by
        rw [stoppedBy_of_ok hstep]
        simp
      rw [List.flatMap_append, List.flatMap_append, bytesTo_eventsOf hfirst, hshown]
      rfl

/-- At the end of a replay there is at most a flush left to do, which shows nothing. -/
theorem replaySteps_flushes (s : Session) (steps : List Step) :
    ∃ events,
      Ports.Follows events (stateAfter (takeSteps Registry.standard steps) s).outputs.ports
        (s.replaySteps steps).2.outputs.ports ∧
      ∀ p, events.flatMap (Event.bytesTo p) = [] := by
  have hplain : ∀ v ∈ [Utterance.flush],
      v.chunk? = none ∧ ∀ program message, v ≠ .alarm program message := by
    intro v hv
    rw [List.mem_singleton.mp hv]
    exact ⟨rfl, by simp⟩
  rcases s.after_replaySteps steps with hafter | hafter
  · rw [hafter]
    exact ⟨[], .refl _, fun _ => rfl⟩
  · rw [hafter]
    exact ⟨_, flush_follows _, fun p => bytesTo_plain p hplain⟩

/-- A replay shows what its steps show. -/
theorem replaySteps_shows (hplaced : s.location.isStray = false) {steps : List Step}
    (hgoes : (s.replaySteps steps).1 ≠ .aborted)
    (hdone : (s.replaySteps steps).2.outputs.ports.Unrefused) (p : Port) :
    (s.replaySteps steps).2.outputs.ports.textAt p =
      s.outputs.ports.textAt p ++
        (s.allRemarks Registry.standard steps).flatMap
          (Remark.bytesTo s.outputs.ports.err.colours p) := by
  obtain ⟨events, hfollows, hshown⟩ := takeSteps_shows hplaced (not_aborted_of_ending hgoes)
  obtain ⟨flushes, hflushes, hnothing⟩ := s.replaySteps_flushes steps
  unfold Ports.textAt
  rw [(hfollows.trans hflushes).log hdone, List.flatMap_append, List.flatMap_append, hnothing,
    List.append_nil, hshown]

/-! ## Sessions that differ in tracing only -/

end Session

/-- What is left of a stance if nothing is traced. -/
def Stance.untraced (v : Stance) : Stance :=
  { v with settings.level := .none, pending := .empty }

theorem Stance.untraced_after {step : Step} (h : step.isTracing = false) (v : Stance)
    (builtins : Registry) : (v.after builtins step).untraced = v.untraced.after builtins step := by
  cases step with
  | location position =>
    simp only [Stance.after]
    split <;> rfl
  | debugMode flags =>
    simp only [Step.isTracing] at h
    simp only [Stance.after]
    cases hd : Level.decode flags with
    | ok level =>
      rw [hd] at h
      cases h
    | error cause => rfl
  | trace phase traced => cases h
  | _ => rfl

theorem Stance.untraced_after_tracing {step : Step} (h : step.isTracing) (v : Stance)
    (builtins : Registry) : (v.after builtins step).untraced = v.untraced := by
  cases step with
  | trace phase traced => rfl
  | message text => rfl
  | debugMode flags =>
    simp only [Stance.after]
    split <;> rfl
  | _ => cases h

namespace Session

variable {s t : Session} {builtins : Registry}

theorem complaint?_of_isTracing {step : Step} (h : step.isTracing) (s : Session) :
    s.complaint? step = none := by
  cases step with
  | debugMode flags =>
    simp only [Step.isTracing] at h
    simp only [complaint?]
    cases hd : Level.decode flags with
    | ok level => rfl
    | error cause =>
      rw [hd] at h
      cases h
  | trace phase traced => rfl
  | message text => rfl
  | _ => cases h

/-- Two sessions agree in all but what is traced and what has been written. -/
structure AgreesUntraced (s t : Session) : Prop where
  stance : s.stance.untraced = t.stance.untraced
  reporter : s.reporter = t.reporter
  leads : Outputs.LeadsAlike s.outputs t.outputs
  placed : s.location.isStray = false

namespace AgreesUntraced

variable (h : s.AgreesUntraced t)

include h

theorem program : s.program = t.program := congrArg (·.settings.program) h.stance

theorem location : s.location = t.location := congrArg (·.settings.location) h.stance

theorem quotes : s.quotes = t.quotes := congrArg (·.settings.quotes) h.stance

theorem blanks : s.blanks = t.blanks := congrArg (·.blanks) h.stance

theorem placed' : t.location.isStray = false := by
  rw [← h.location]
  exact h.placed

theorem complaint? (step : Step) : s.complaint? step = t.complaint? step := by
  cases step with
  | debugFile selector =>
    simp only [Session.complaint?]
    rcases h.leads.redirect (.ofSelector selector) with ⟨o, o', ho, ho', -⟩ | ⟨failure, ho, ho'⟩
    · rw [ho, ho']
    · rw [ho, ho']
  | numeric check => simp only [Session.complaint?, h.blanks]
  | _ => rfl

theorem diagnostic (c : Complaint) : s.diagnostic c = t.diagnostic c := by
  unfold Session.diagnostic
  rw [h.program, h.location]

theorem stop? {step : Step} (hstep : step.isTracing = false) :
    s.stop? builtins step = t.stop? builtins step := by
  refine stop?_congr h.blanks (congrArg _ h.reporter) (congrArg _ h.reporter) ?_ ?_
  · rintro phase traced rfl
    cases hstep
  · rintro selector -
    rcases h.leads.redirect (.ofSelector selector) with ⟨o, o', ho, ho', -⟩ | ⟨failure, ho, ho'⟩
    · rw [ho, ho']
      rfl
    · rw [ho, ho']

theorem takeStep {step : Step} (hstep : step.isTracing = false) :
    (stateAfter (Session.takeStep builtins step) s).AgreesUntraced
      (stateAfter (Session.takeStep builtins step) t) := by
  refine ⟨?_, ?_, leadsAlike_takeStep h.placed h.placed' h.leads step, placed_takeStep h.placed⟩
  · rw [stance_takeStep h.placed, stance_takeStep h.placed', Stance.untraced_after hstep,
      Stance.untraced_after hstep, h.stance]
  · rw [reporter_takeStep h.placed, reporter_takeStep h.placed', h.complaint?, h.reporter]

theorem tracing {step : Step} (hstep : step.isTracing) :
    (stateAfter (Session.takeStep builtins step) s).AgreesUntraced t := by
  have hfile : ∀ selector, step ≠ .debugFile selector := by
    rintro selector rfl
    cases hstep
  refine ⟨?_, ?_, leadsAlike_aside h.placed h.leads hfile, placed_takeStep h.placed⟩
  · rw [stance_takeStep h.placed, Stance.untraced_after_tracing hstep]
    exact h.stance
  · rw [reporter_takeStep h.placed, complaint?_of_isTracing hstep]
    exact h.reporter

theorem utterances {step : Step} (hstep : step.isTracing = false) :
    s.utterances builtins step = t.utterances builtins step := by
  have hwork : s.workUtterances builtins step = t.workUtterances builtins step := by
    cases step with
    | trace phase traced => cases hstep
    | message text => cases hstep
    | numeric check => simp only [workUtterances, h.blanks]
    | dumpArgs dump => simp only [workUtterances, Session.dumpArgs, h.quotes]
    | _ => rfl
  unfold Session.utterances
  rw [h.complaint?, hwork]
  cases t.complaint? step with
  | none => rfl
  | some c =>
    simp only
    rw [h.diagnostic, h.reporter]
    unfold drops
    rw [h.reporter]

theorem remarks {step : Step} (hstep : step.isTracing = false) :
    s.remarks builtins step = t.remarks builtins step := by
  cases step with
  | trace phase traced => cases hstep
  | message text => cases hstep
  | _ => exact congrArg (List.filterMap Remark.ofUtterance?) (h.utterances hstep)

end AgreesUntraced

theorem agreesUntraced_undisturbed (builtins : Registry) :
    Undisturbed builtins (fun step => step.isTracing = false) (fun step => step.isTracing)
      AgreesUntraced where
  placed h := ⟨h.placed, h.placed'⟩
  stops h _ hshared := h.stop? hshared
  kept h _ hshared := h.takeStep hshared
  aside h _ haside := h.tracing haside

/-! ## Tracing and everything else -/

/-- A script whose tracing is marked. -/
def markTracing (steps : List Step) : List Entry := steps.map fun step => ⟨step, step.isTracing⟩

theorem allSteps_markTracing (steps : List Step) : allSteps (markTracing steps) = steps := by
  simp [allSteps, markTracing, Function.comp_def]

theorem keptSteps_markTracing (steps : List Step) :
    keptSteps (markTracing steps) = steps.filter (!·.isTracing) := by
  simp [keptSteps, allSteps, markTracing, List.filter_map, Function.comp_def]

theorem isAdded_of_mem_markTracing {steps : List Step} {entry : Entry}
    (h : entry ∈ markTracing steps) : entry.isAdded = entry.step.isTracing := by
  obtain ⟨step, -, rfl⟩ := List.mem_map.mp h
  rfl

/-- Tracing stops a run only by ending the program, or for a mishap. -/
theorem stop?_of_isTracing {step : Step} (h : step.isTracing) (builtins : Registry)
    (s : Session) :
    s.stop? builtins step = none ∨ s.stop? builtins step = some .abort := by
  unfold stop?
  rw [complaint?_of_isTracing h]
  cases step with
  | trace phase traced =>
    simp only
    cases s.cannotTrace builtins phase traced
    · exact .inl rfl
    · exact .inr rfl
  | message text => exact .inl rfl
  | debugMode flags => exact .inl rfl
  | _ => cases h

theorem addedGoOn_markTracing {steps : List Step} (hs : s.Unhindered builtins steps)
    (hgoes : stoppedBy (takeSteps builtins steps) s ≠ some .abort) :
    s.AddedGoOn builtins (markTracing steps) := by
  intro before entry s₁ hbefore hadded hrun
  cases hstop : stoppedBy (takeStep builtins entry.step) s₁ with
  | none => rfl
  | some stop =>
    have hwhole := stoppedBy_of_entry hbefore hrun hstop
    rw [allSteps_markTracing] at hwhole
    have hmem : entry ∈ markTracing steps := hbefore.mem (by simp)
    have htracing : entry.step.isTracing := by
      rw [← isAdded_of_mem_markTracing hmem]
      exact hadded
    rw [stoppedBy_congr (takeStep_of_no_complaint (complaint?_of_isTracing htracing s₁))] at hstop
    rcases stoppedBy_work (complaint?_of_isTracing htracing s₁) with hsame | ⟨stop', hs', hmishap⟩
    · rw [hstop] at hsame
      rcases stop?_of_isTracing htracing builtins s₁ with hnone | habort
      · rw [hnone] at hsame
        cases hsame
      · rw [habort] at hsame
        rw [hsame] at hwhole
        exact absurd hwhole hgoes
    · rw [hstop] at hs'
      cases hs'
      rw [hs stop hwhole] at hmishap
      cases hmishap

theorem isDebug_of_isTracing {step : Step} (h : step.isTracing) {r : Remark}
    (hr : r ∈ s.remarks builtins step) : r.isDebug := by
  cases step with
  | trace phase traced =>
    obtain ⟨line, -, rfl⟩ := List.mem_map.mp hr
    rfl
  | message text =>
    rw [List.mem_singleton.mp hr]
    rfl
  | debugMode flags =>
    have hnone : s.utterances builtins (.debugMode flags) = [] := by
      unfold utterances
      rw [complaint?_of_isTracing h]
      rfl
    simp only [remarks, hnone] at hr
    cases hr
  | _ => cases h

theorem not_isDebug_of_plain {step : Step} (h : step.isTracing = false) {r : Remark}
    (hr : r ∈ s.remarks builtins step) : r.isDebug = false := by
  have hplain : r ∈ (s.utterances builtins step).filterMap Remark.ofUtterance? := by
    cases step with
    | trace phase traced => cases h
    | message text => cases h
    | _ => exact hr
  obtain ⟨u, -, hu⟩ := List.mem_filterMap.mp hplain
  cases u <;> cases hu <;> rfl

/-- Debug output comes in whole lines. -/
theorem line_of_remark {step : Step} {outlet : Outlet} {line : Bytes}
    (h : .debug outlet line ∈ s.remarks builtins step) :
    ∃ body, line = body ++ Utf8.encode "\n" := by
  cases step with
  | trace phase traced =>
    obtain ⟨bytes, hbytes, hline⟩ := List.mem_map.mp h
    cases hline
    have hands := s.traceCall_hands_on builtins phase traced
    rw [Option.mem_toList.mp hbytes] at hands
    exact hands.1
  | message text =>
    cases List.mem_singleton.mp h
    exact ⟨_, Utf8.encode_append _ _⟩
  | _ =>
    obtain ⟨u, -, hu⟩ := List.mem_filterMap.mp h
    cases u <;> cases hu

/-- Take all tracing out of a script: the traced calls, the debug messages and the changes of the
debug level. Unless a stream fails or the program ends itself over a traced call, the replay ends
in the same way without them, the same errors and warnings have been counted, and the same has been
printed and reported, in the same order. What is shown at each of the standard streams differs by
whole trace lines and debug messages. (A script is held in memory, and the length of a list there is
a number of 64 bits.) -/
theorem tracing_is_transparent {config : Config} {outputs : Outputs} {steps : List Step}
    (h : ofConfig config outputs = .ok s) (hlen : steps.length < UInt64.size)
    (hended : ∀ doing cause, (s.replaySteps steps).1 ≠ .failed (.system doing cause))
    (hended' : ∀ doing cause,
      (s.replaySteps (steps.filter (!·.isTracing))).1 ≠ .failed (.system doing cause))
    (hgoes : (s.replaySteps steps).1 ≠ .aborted)
    (hdone : (s.replaySteps steps).2.outputs.ports.Unrefused)
    (hdone' : (s.replaySteps (steps.filter (!·.isTracing))).2.outputs.ports.Unrefused) :
    let plain := steps.filter (!·.isTracing)
    let remarks := s.allRemarks Registry.standard steps
    (s.replaySteps steps).1 = (s.replaySteps plain).1 ∧
    (s.replaySteps steps).2.reporter = (s.replaySteps plain).2.reporter ∧
    s.allRemarks Registry.standard plain = remarks.filter (!·.isDebug) ∧
    (∀ outlet line, .debug outlet line ∈ remarks → ∃ body, line = body ++ Utf8.encode "\n") ∧
    ∀ p,
      (s.replaySteps steps).2.outputs.ports.textAt p =
        s.outputs.ports.textAt p ++
          remarks.flatMap (Remark.bytesTo s.outputs.ports.err.colours p) ∧
      (s.replaySteps plain).2.outputs.ports.textAt p =
        s.outputs.ports.textAt p ++
          (remarks.filter (!·.isDebug)).flatMap
            (Remark.bytesTo s.outputs.ports.err.colours p) := by
  intro plain remarks
  have hplaced := (reports_ofConfig h).placed
  have hplainlen : plain.length < UInt64.size :=
    Nat.lt_of_le_of_lt (List.length_filter_le _ _) hlen
  have hs := unhindered_of_ending h hlen hended
  have ht := unhindered_of_ending h hplainlen hended'
  have hnoabort := not_aborted_of_ending hgoes
  have hagree : s.AgreesUntraced s := ⟨rfl, rfl, .refl _, hplaced⟩
  have hasides : ∀ entry ∈ markTracing steps, entry.isAdded → entry.step.isTracing := by
    intro entry hentry hadded
    rw [← isAdded_of_mem_markTracing hentry]
    exact hadded
  have hshares : ∀ entry ∈ markTracing steps, entry.isAdded = false →
      entry.step.isTracing = false := by
    intro entry hentry hkept
    rw [← isAdded_of_mem_markTracing hentry]
    exact hkept
  have hrun := (agreesUntraced_undisturbed Registry.standard).run
    (fun s step => (s.remarks Registry.standard step).filter (!·.isDebug))
    (fun hagree hshared => by rw [hagree.remarks hshared])
    (fun _ haside => List.filter_eq_nil_iff.mpr fun r hr => by
      simp [isDebug_of_isTracing haside hr])
    hagree hasides hshares (addedGoOn_markTracing hs hnoabort)
    (by rwa [allSteps_markTracing]) (by rwa [keptSteps_markTracing])
  rw [allSteps_markTracing, keptSteps_markTracing] at hrun
  obtain ⟨hstops, hafter, hremarks⟩ := hrun
  have hending : (s.replaySteps steps).1 = (s.replaySteps plain).1 := by
    rw [ending_eq hended, ending_eq hended', hstops, hafter.reporter]
  have hkept : s.allRemarks Registry.standard plain = remarks.filter (!·.isDebug) := by
    have hfiltered : remarks.filter (!·.isDebug) = _ :=
      hom_along List.filter_nil List.filter_append _ s steps
    rw [hfiltered, hremarks]
    refine along_congr (fun step hstep s₁ => ?_) s
    have hstep' : step.isTracing = false := by simpa using (List.mem_filter.mp hstep).2
    refine (List.filter_eq_self.mpr fun r hr => ?_).symm
    rw [not_isDebug_of_plain hstep' hr]
    rfl
  refine ⟨hending, ?_, hkept, fun outlet line hline => ?_, fun p => ⟨?_, ?_⟩⟩
  · rw [reporter_replaySteps, reporter_replaySteps, hafter.reporter]
  · obtain ⟨s₁, step, -, hr⟩ := exists_step_of_mem_along hline
    exact line_of_remark hr
  · exact replaySteps_shows hplaced hgoes hdone p
  · rw [← hkept]
    rw [hending] at hgoes
    exact replaySteps_shows hplaced hgoes hdone' p

/-- A call is traced around what is printed and reported. -/
def tracedScript : List Step :=
  [.debugMode (some "ae"), .trace .pre { call := { name := "f" } }, .output "a", .message "m",
    .warn { text := "w" }, .trace .post { call := { name := "f" }, result := some "x" },
    .error { text := "e" }]

theorem tracing_is_transparent_tracedScript :
    ofConfig {} (.start {} (.initial 0) none none) = .ok plainSession ∧
      (plainSession.replaySteps tracedScript).1 = .finished .failure ∧
      (plainSession.replaySteps tracedScript).2.outputs.ports.textAt .err =
        Utf8.encode "m4 debug: m\nm4: Warning: w\nm4trace: -1- f -> x\nm4: e\n" ∧
      (plainSession.replaySteps (tracedScript.filter (!·.isTracing))).2.outputs.ports.textAt .err =
        Utf8.encode "m4: Warning: w\nm4: e\n" := by
  have hconfig : ofConfig {} (.start {} (.initial 0) none none) = .ok plainSession := rfl
  have hending : (plainSession.replaySteps tracedScript).1 = .finished .failure := by cbv
  have hending' : (plainSession.replaySteps (tracedScript.filter (!·.isTracing))).1 =
      .finished .failure := by cbv
  have hdone : (plainSession.replaySteps tracedScript).2.outputs.ports.Unrefused :=
    Ports.unrefused_of_all (by cbv)
  have hdone' :
      (plainSession.replaySteps (tracedScript.filter (!·.isTracing))).2.outputs.ports.Unrefused :=
    Ports.unrefused_of_all (by cbv)
  obtain ⟨-, -, -, -, hshown⟩ := tracing_is_transparent hconfig (by decide) (by simp [hending])
    (by simp [hending']) (by simp [hending]) hdone hdone'
  refine ⟨hconfig, hending, ?_, ?_⟩
  · rw [(hshown .err).1]
    cbv
  · rw [(hshown .err).2]
    cbv

end Session

end MacroTrace
