import MacroTrace.Proofs.TwoRuns
/-!
# Trace lines among other diagnostics

Whatever else is written or reported between the phases of a call, the trace lines stay as they are
(`Session.lines_undisturbed`): a line is put together in the tracer and written in one piece, and
nothing but a traced call or a change of the debug level touches the line that is pending.
-/

namespace MacroTrace

/-- Whether a step has no say in what is traced: it neither traces a call nor moves in the input nor
changes the debug level. -/
def Step.isAside : Step → Bool
  | .location _ | .trace _ _ => false
  | .debugMode flags =>
    match Level.decode flags with
    | .ok _ => false
    | .error _ => true
  | _ => true

/-- The bytes of debug output. -/
def Utterance.chunk? : Utterance → Option Bytes
  | debug bytes => some bytes
  | _ => none

theorem Stance.after_of_isAside {step : Step} (h : step.isAside) (v : Stance)
    (builtins : Registry) : v.after builtins step = v := by
  cases step with
  | debugMode flags =>
    simp only [Step.isAside] at h
    simp only [Stance.after]
    cases hd : Level.decode flags with
    | ok level =>
      rw [hd] at h
      cases h
    | error cause => rfl
  | location position => cases h
  | trace phase traced => cases h
  | _ => rfl

namespace Session

/-- The trace line that a step completes, if it completes one. -/
def traceLine? (s : Session) (builtins : Registry) : Step → Option Bytes
  | .trace phase traced => (s.traceUtterances builtins phase traced).findSome? (·.chunk?)
  | _ => none

/-- The trace line that a step completes, with the outlet in force. -/
def traceDelivery (builtins : Registry) (s : Session) (step : Step) : List Delivery :=
  (s.traceLine? builtins step).toList.map (⟨s.outputs.active.outlet, ·⟩)

/-- All trace lines that are completed in the course of a run. -/
def traceLines (s : Session) (builtins : Registry) (steps : List Step) : List Delivery :=
  s.along (traceDelivery builtins) builtins steps

variable {s t : Session} {builtins : Registry}

theorem line_of_debug {phase : Phase} {traced : TracedCall} {bytes : Bytes}
    (h : .debug bytes ∈ s.traceUtterances builtins phase traced) :
    ∃ body, bytes = body ++ Utf8.encode "\n" := by
  have hline : ∀ text : String,
      Utterance.debug bytes =
        .debug (s.tracer.pending.bytes ++ Utf8.encode (text ++ "\n")) →
      ∃ body, bytes = body ++ Utf8.encode "\n" := by
    intro text hbytes
    refine ⟨s.tracer.pending.bytes ++ Utf8.encode text, ?_⟩
    rw [Utterance.debug.inj hbytes, Utf8.encode_append, List.append_assoc]
  unfold traceUtterances at h
  cases phase with
  | pre =>
    simp only at h
    split at h
    · cases List.mem_singleton.mp h
    · split at h
      · exact hline _ (List.mem_singleton.mp h)
      · cases h
  | _ => exact hline _ (List.mem_singleton.mp h)

/-- Tracing a call hands on the line that it completes in one write, or nothing at all. Only the end
of the program is another matter. -/
theorem traceCall_hands_on (s : Session) (builtins : Registry) (phase : Phase)
    (traced : TracedCall) :
    match s.traceLine? builtins (.trace phase traced) with
    | some line =>
      (∃ body, line = body ++ Utf8.encode "\n") ∧
        (stateAfter (takeStep builtins (.trace phase traced)) s).outputs =
          stateAfter (Outputs.write line) s.outputs
    | none =>
      stoppedBy (takeStep builtins (.trace phase traced)) s = some .abort ∨
        (stateAfter (takeStep builtins (.trace phase traced)) s).outputs = s.outputs := by
  rcases traceCall_cases builtins phase traced s with ⟨bytes, s', hwords, hends, houtputs⟩ |
    ⟨s', hwords, hends, houtputs⟩ | ⟨message, s', hwords, habort, houtputs⟩
  · have hline : s.traceLine? builtins (.trace phase traced) = some bytes := by
      simp only [traceLine?, hwords]
      rfl
    rw [hline]
    refine ⟨line_of_debug (by rw [hwords]; exact List.mem_singleton_self _), ?_⟩
    rw [← houtputs, ← hends.stateAfter]
    rfl
  · have hline : s.traceLine? builtins (.trace phase traced) = none := by
      simp only [traceLine?, hwords]
      rfl
    rw [hline]
    refine .inr ?_
    rw [← houtputs, ← hends.stateAfter]
    rfl
  · have hline : s.traceLine? builtins (.trace phase traced) = none := by
      simp only [traceLine?, hwords]
      rfl
    rw [hline]
    exact .inl (stoppedBy_of_error habort)

/-! ## Sessions that trace alike -/

/-- Two sessions trace alike, now and after whatever step they both take. -/
structure TracesAlike (s t : Session) : Prop where
  stance : s.stance = t.stance
  suppress : s.reporter.suppressWarnings = t.reporter.suppressWarnings
  fatal : s.reporter.fatalWarnings = t.reporter.fatalWarnings
  passages : s.outputs.store.SamePassages t.outputs.store
  placed : s.location.isStray = false

theorem traceUtterances_congr (h : s.stance = t.stance) (builtins : Registry) (phase : Phase)
    (traced : TracedCall) :
    s.traceUtterances builtins phase traced = t.traceUtterances builtins phase traced := by
  have hsettings := traceSettings_of_stance h
  have hpending : s.tracer.pending = t.tracer.pending := congrArg Stance.pending h
  have hprogram : s.program = t.program := congrArg TraceSettings.program hsettings
  have hlevel : s.level = t.level := congrArg TraceSettings.level hsettings
  unfold traceUtterances
  rw [hsettings, hpending, hprogram, hlevel]

theorem traceLine?_congr (h : s.stance = t.stance) (builtins : Registry) (step : Step) :
    s.traceLine? builtins step = t.traceLine? builtins step := by
  cases step with
  | trace phase traced => simp only [traceLine?, traceUtterances_congr h]
  | _ => rfl

theorem traceLine?_of_isAside {step : Step} (h : step.isAside) (s : Session) :
    s.traceLine? builtins step = none := by
  cases step with
  | trace phase traced => cases h
  | _ => rfl

theorem TracesAlike.placed' (h : s.TracesAlike t) : t.location.isStray = false := by
  have hlocation : s.location = t.location :=
    congrArg TraceSettings.location (traceSettings_of_stance h.stance)
  rw [← hlocation]
  exact h.placed

theorem TracesAlike.stop? (h : s.TracesAlike t) (step : Step) :
    s.stop? builtins step = t.stop? builtins step :=
  stop?_congr (congrArg Stance.blanks h.stance) h.suppress h.fatal
    (fun _ _ _ => traceSettings_of_stance h.stance)
    fun _ _ => Outputs.isOk_redirect_congr h.passages _

theorem TracesAlike.takeStep (h : s.TracesAlike t) (step : Step) :
    (stateAfter (takeStep builtins step) s).TracesAlike
      (stateAfter (takeStep builtins step) t) := by
  obtain ⟨hsuppress, hfatal⟩ := switches_takeStep h.placed builtins step
  obtain ⟨hsuppress', hfatal'⟩ := switches_takeStep h.placed' builtins step
  have hpassages := samePassages_takeStep h.placed builtins step
  have hpassages' := samePassages_takeStep h.placed' builtins step
  refine ⟨?_, ?_, ?_, hpassages.trans (h.passages.trans hpassages'.symm),
    placed_takeStep h.placed⟩
  · rw [stance_takeStep h.placed, stance_takeStep h.placed', h.stance]
  · rw [hsuppress, hsuppress', h.suppress]
  · rw [hfatal, hfatal', h.fatal]

theorem TracesAlike.aside (h : s.TracesAlike t) {step : Step} (haside : step.isAside) :
    (stateAfter (Session.takeStep builtins step) s).TracesAlike t := by
  obtain ⟨hsuppress, hfatal⟩ := switches_takeStep h.placed builtins step
  refine ⟨?_, hsuppress.trans h.suppress, hfatal.trans h.fatal,
    (samePassages_takeStep h.placed builtins step).trans h.passages, placed_takeStep h.placed⟩
  rw [stance_takeStep h.placed, Stance.after_of_isAside haside]
  exact h.stance

theorem tracesAlike_undisturbed (builtins : Registry) :
    Undisturbed builtins (fun _ => True) (fun step => step.isAside) TracesAlike where
  placed h := ⟨h.placed, h.placed'⟩
  stops h _ _ := h.stop? _
  kept h _ _ := h.takeStep _
  aside h _ := h.aside

/-- As long as debug output is not redirected by an aside, it leads to the same place. -/
theorem leadsAlike_undisturbed (builtins : Registry) :
    Undisturbed builtins (fun _ => True)
      (fun step => step.isAside ∧ ∀ selector, step ≠ .debugFile selector)
      (fun s t => s.TracesAlike t ∧ Outputs.LeadsAlike s.outputs t.outputs) where
  placed h := ⟨h.1.placed, h.1.placed'⟩
  stops h _ _ := h.1.stop? _
  kept h _ _ := ⟨h.1.takeStep _, leadsAlike_takeStep h.1.placed h.1.placed' h.2 _⟩
  aside h _ haside := ⟨h.1.aside haside.1, leadsAlike_aside h.1.placed h.2 haside.2⟩

/-! ## Runs with and without asides -/

/-- Bring in any steps anywhere, also between the phases of a call: messages, what is printed,
reports, checks of arguments, flushes, redirections of debug output that succeed or fail, and bad
debug flags. Unless they stop the run, and no stream fails, the trace stays as it is: at every point
the same bytes are pending, and the same lines have been completed. Each of them has been handed on
in one write, to the outlet in force then. The outlet may be another one, but only if one of the
steps that have been brought in redirects debug output. (A script is held in memory, and the length
of a list there is a number of 64 bits.) -/
theorem lines_undisturbed {config : Config} {outputs : Outputs} {entries : List Entry}
    (h : ofConfig config outputs = .ok s) (hlen : entries.length < UInt64.size)
    (hasides : ∀ entry ∈ entries, entry.isAdded → entry.step.isAside)
    (hgoes : s.AddedGoOn Registry.standard entries)
    (hall : ∀ doing cause, stoppedBy (takeSteps Registry.standard (allSteps entries)) s ≠
      some (.failure (.system doing cause)))
    (hkept : ∀ doing cause, stoppedBy (takeSteps Registry.standard (keptSteps entries)) s ≠
      some (.failure (.system doing cause))) :
    (∀ before, before <+: entries →
      (stateAfter (takeSteps Registry.standard (allSteps before)) s).tracer.pending =
          (stateAfter (takeSteps Registry.standard (keptSteps before)) s).tracer.pending ∧
      (s.traceLines Registry.standard (allSteps before)).map (·.bytes) =
        (s.traceLines Registry.standard (keptSteps before)).map (·.bytes) ∧
      ((∀ entry ∈ before, entry.isAdded → ∀ selector, entry.step ≠ .debugFile selector) →
        s.traceLines Registry.standard (allSteps before) =
          s.traceLines Registry.standard (keptSteps before))) ∧
    ∀ s₁ : Session, ∀ phase traced,
      match s₁.traceLine? Registry.standard (.trace phase traced) with
      | some line =>
        (∃ body, line = body ++ Utf8.encode "\n") ∧
          (stateAfter (takeStep Registry.standard (.trace phase traced)) s₁).outputs =
            stateAfter (Outputs.write line) s₁.outputs
      | none =>
        stoppedBy (takeStep Registry.standard (.trace phase traced)) s₁ = some .abort ∨
          (stateAfter (takeStep Registry.standard (.trace phase traced)) s₁).outputs =
            s₁.outputs := by
  have halllen : (allSteps entries).length < UInt64.size := by
    rwa [allSteps, List.length_map]
  have hkeptlen : (keptSteps entries).length < UInt64.size :=
    Nat.lt_of_le_of_lt (length_keptSteps_le entries) hlen
  have hcalm := unhindered_of_streams h hkeptlen hkept
  have hdisturbed := unhindered_of_streams h halllen hall
  have halike : s.TracesAlike s := ⟨rfl, rfl, rfl, .refl _, (reports_ofConfig h).placed⟩
  refine ⟨fun before hbefore => ?_, fun s₁ phase traced =>
    traceCall_hands_on s₁ Registry.standard phase traced⟩
  have hasides' : ∀ entry ∈ before, entry.isAdded → entry.step.isAside := fun entry hentry =>
    hasides entry (hbefore.mem hentry)
  have hgoes' := hgoes.earlier hbefore
  have hdisturbed' := hdisturbed.earlier (allSteps_mono hbefore)
  have hcalm' := hcalm.earlier (keptSteps_mono hbefore)
  have hbytes : ∀ steps, (s.traceLines Registry.standard steps).map (·.bytes) =
      s.along (fun s step => (s.traceLine? Registry.standard step).toList) Registry.standard
        steps := by
    intro steps
    unfold traceLines
    rw [hom_along List.map_nil fun _ _ => List.map_append]
    simp [traceDelivery, Function.comp_def]
  obtain ⟨-, hafter, hlines⟩ := (tracesAlike_undisturbed Registry.standard).run
    (fun s step => (s.traceLine? Registry.standard step).toList)
    (fun halike _ => by rw [traceLine?_congr halike.stance])
    (fun _ haside => by simp [traceLine?_of_isAside haside]) halike hasides' (fun _ _ _ => trivial)
    hgoes' hdisturbed' hcalm'
  refine ⟨congrArg Stance.pending hafter.stance, ?_, fun hleads => ?_⟩
  · rw [hbytes, hbytes, hlines]
  · have hsame := (leadsAlike_undisturbed Registry.standard).run
      (traceDelivery Registry.standard)
      (fun halike _ => by
        unfold traceDelivery
        rw [traceLine?_congr halike.1.stance, halike.2.outlet])
      (fun _ haside => by simp [traceDelivery, traceLine?_of_isAside haside.1])
      ⟨halike, .refl _⟩
      (fun entry hentry hadded => ⟨hasides' entry hentry hadded, hleads entry hentry hadded⟩)
      (fun _ _ _ => trivial) hgoes' hdisturbed' hcalm'
    exact hsame.2.2

/-- A session that nothing has happened in. -/
def plainSession : Session := start (.start {} (.initial 0) none none)

/-- A call is traced in two phases. In between debug output is redirected, which works once and
fails once, and there is a bad debug flag and a wrong number of arguments. -/
def interruptedCall : List Entry :=
  [⟨.debugMode (some "ae"), false⟩, ⟨.trace .pre { call := { name := "f" } }, false⟩,
    ⟨.message "m", true⟩, ⟨.debugFile (some "new"), true⟩, ⟨.debugFile (some "new/x"), true⟩,
    ⟨.debugMode (some "?"), true⟩, ⟨.argc { name := "f", count := 1, least := 1 }, true⟩,
    ⟨.trace .post { call := { name := "f" }, result := some "x" }, false⟩]

theorem lines_undisturbed_interruptedCall :
    ofConfig {} (.start {} (.initial 0) none none) = .ok plainSession ∧
      interruptedCall.length < UInt64.size ∧
      (∀ entry ∈ interruptedCall, entry.isAdded → entry.step.isAside) ∧
      stoppedBy (takeSteps Registry.standard (allSteps interruptedCall)) plainSession = none ∧
      stoppedBy (takeSteps Registry.standard (keptSteps interruptedCall)) plainSession = none ∧
      (plainSession.traceLines Registry.standard (allSteps interruptedCall)).map (·.bytes) =
        [Utf8.encode "m4trace: -1- f -> x\n"] := by
  have hconfig : ofConfig {} (.start {} (.initial 0) none none) = .ok plainSession := rfl
  have hmarked : interruptedCall.all (fun entry => !entry.isAdded || entry.step.isAside) := by cbv
  have hasides : ∀ entry ∈ interruptedCall, entry.isAdded → entry.step.isAside := by
    intro entry hentry hadded
    simpa [hadded] using List.all_eq_true.mp hmarked entry hentry
  have hall : stoppedBy (takeSteps Registry.standard (allSteps interruptedCall)) plainSession =
      none := by cbv
  have hkept : stoppedBy (takeSteps Registry.standard (keptSteps interruptedCall)) plainSession =
      none := by cbv
  obtain ⟨hlines, -⟩ := lines_undisturbed hconfig (by decide) hasides (addedGoOn_of_finished hall)
    (by simp [hall]) (by simp [hkept])
  refine ⟨hconfig, by decide, hasides, hall, hkept, ?_⟩
  rw [(hlines interruptedCall List.prefix_rfl).2.1]
  cbv

end Session

end MacroTrace
