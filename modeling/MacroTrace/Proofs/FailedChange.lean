import MacroTrace.Proofs.FlagStrings
import MacroTrace.Proofs.Interjection
/-!
# Changes that fail

Two kinds of step ask for a change of the session: one for another debug level, the other for
another destination of debug output. Either can be refused, the one because of its flags and the
other because of its path. A change that is refused is not made in part: nothing is left of the
attempt but the report (`Session.refused_change_is_its_report`).
-/

namespace MacroTrace

namespace Level

/-- Reading stops at a letter that stands for no level, and the complaint quotes the whole flag
string. -/
theorem decode_of_bad {flags : String} (h : ∃ c ∈ flags.toList, ofFlag? c = .none) :
    ∃ cause, decode (some flags) = .error cause ∧ cause.flags = flags := by
  obtain ⟨bad, hmem, hbad⟩ := h
  obtain ⟨c, position, hstops⟩ :=
    exists_stopsAt fun hflags => ofFlag?_eq_none.mp hbad (hflags bad hmem)
  exact ⟨_, decode_of_stopsAt hstops, rfl⟩

end Level

namespace Session

/-- The change of the session that a step asks for, if it asks for one. -/
def changeOf : Step → Act Unit
  | .debugMode flags => do
    let _ ← decodeLevel flags
  | .debugFile selector => setDebugOutput selector
  | _ => pure ()

/-- A session refuses the change that a step asks for: a letter of the flags stands for nothing, or
the file cannot be opened. The second step is one that does no more than report this. -/
inductive Refuses (s : Session) : Step → Step → Prop
  | flags {flags : String} (h : ∃ c ∈ flags.toList, Level.ofFlag? c = none) :
    s.Refuses (.debugMode (some flags))
      (.warn { errnum := 0, text := s!"debugmode: bad debug flags: `{flags}'" })
  | file {path : String} {cause : SystemError} (hpath : path ≠ "")
    (h : s.outputs.store.openAppend path = .error cause) :
    s.Refuses (.debugFile (some path))
      (.error
        { status := .success
          errnum := cause.number?.getD 0
          text := s!"debugfile: cannot set debug file `{path}'" })

/-- Between two sessions nothing has changed but what has been reported, and what has gone to the
standard streams. -/
def OnlyReports (s s' : Session) : Prop :=
  s' = { s with tracer.outputs.ports := s'.tracer.outputs.ports, reporter := s'.reporter }

variable {s s₁ : Session} {builtins : Registry} {before : List Step} {step report : Step}

theorem redirect_of_refused {path : String} {cause : SystemError} (hpath : path ≠ "")
    (h : s.outputs.store.openAppend path = .error cause) :
    s.outputs.redirect (.ofSelector (some path)) = .error (.debugFile path cause) := by
  have htarget : DebugTarget.ofSelector (some path) = .file path := by
    simp only [DebugTarget.ofSelector]
    rw [if_neg fun hempty => hpath (String.isEmpty_iff.mp hempty)]
  rw [htarget]
  simp only [Outputs.redirect, h]

/-- A change that is refused fails as a whole. -/
theorem Refuses.change_fails (h : s.Refuses step report) :
    ∃ cause, changeOf step s = .error (.failure cause) s := by
  cases h with
  | flags hbad =>
    obtain ⟨cause, hcause, -⟩ := Level.decode_of_bad hbad
    refine ⟨.badFlag cause, ?_⟩
    simp only [changeOf, decodeLevel, hcause]
    rfl
  | @file path cause hpath hopen =>
    refine ⟨.debugFile path cause, ?_⟩
    simp only [changeOf, setDebugOutput, redirect_of_refused hpath hopen]

/-- A step whose change is refused does what the report of that does. -/
theorem Refuses.takeStep_eq (h : s.Refuses step report) (builtins : Registry) :
    takeStep builtins step s = takeStep builtins report s := by
  cases h with
  | flags hbad =>
    obtain ⟨cause, hcause, hquoted⟩ := Level.decode_of_bad hbad
    simp only [takeStep, changeLevel, hcause, hquoted]
  | @file path cause hpath hopen =>
    simp only [takeStep, changeDebugFile, redirect_of_refused hpath hopen]
    rfl

theorem OnlyReports.refl (s : Session) : OnlyReports s s := rfl

theorem OnlyReports.trans {s s' s'' : Session} (h : OnlyReports s s') (h' : OnlyReports s' s'') :
    OnlyReports s s'' := by
  unfold OnlyReports at h h' ⊢
  rw [h', h]

theorem reportPosition_onlyReports (s : Session) :
    OnlyReports s (stateAfter reportPosition s) := by
  unfold reportPosition
  rw [stateAfter_congr (get_bind _ s)]
  cases s.location.reportable with
  | ok position => rfl
  | error line => rfl

theorem errorAt_onlyReports (status : ExitStatus) (errnum : Int32) (file : String) (line : UInt32)
    (message : String) (s : Session) :
    OnlyReports s (stateAfter (errorAt status errnum file line message) s) := by
  unfold stateAfter
  rw [errorAt_eq s status errnum file line message rfl]
  cases (s.reporter.noteError status).1 <;> rfl

theorem warnAt_onlyReports (errnum : Int32) (file : String) (line : UInt32) (message : String)
    (s : Session) : OnlyReports s (stateAfter (warnAt errnum file line message) s) := by
  cases hshown : s.reporter.suppressWarnings with
  | true =>
    have hdropped : warnAt errnum file line message s = .ok () s := by
      unfold warnAt
      rw [if_pos hshown]
    rw [stateAfter_of_ok hdropped]
    exact .refl s
  | false =>
    unfold stateAfter
    rw [warnAt_eq s errnum file line message hshown rfl]
    cases s.reporter.noteWarning.1 <;> rfl

/-- A report, be it an error or a warning, is all that comes of reporting. -/
theorem report_onlyReports {reportAt : String → UInt32 → Act Unit}
    (h : ∀ file line s, OnlyReports s (stateAfter (reportAt file line) s)) (s : Session) :
    OnlyReports s
      (stateAfter (reportPosition >>= fun position => reportAt position.1 position.2) s) :=
  stateAfter_bind (R := OnlyReports) OnlyReports.trans (reportPosition_onlyReports s)
    fun position s' _ => h position.1 position.2 s'

theorem error_onlyReports (status : ExitStatus) (errnum : Int32) (message : String) (s : Session) :
    OnlyReports s (stateAfter (error status errnum message) s) :=
  report_onlyReports (fun file line s => errorAt_onlyReports status errnum file line message s) s

theorem warn_onlyReports (errnum : Int32) (message : String) (s : Session) :
    OnlyReports s (stateAfter (warn errnum message) s) :=
  report_onlyReports (fun file line s => warnAt_onlyReports errnum file line message s) s

theorem Refuses.onlyReports (h : s.Refuses step report) (builtins : Registry) :
    OnlyReports s (stateAfter (takeStep builtins step) s) := by
  rw [stateAfter_congr (h.takeStep_eq builtins)]
  cases h with
  | flags hbad => exact warn_onlyReports _ _ s
  | file hpath hopen => exact error_onlyReports _ _ _ s

/-! ## Replays with a change that fails -/

/-- Two steps that come to the same where they are reached may be put for each other. -/
theorem takeSteps_replace
    (h : ∀ s₁, takeSteps builtins before s = .ok () s₁ →
      takeStep builtins step s₁ = takeStep builtins report s₁) (later : List Step) :
    takeSteps builtins (before ++ step :: later) s =
      takeSteps builtins (before ++ report :: later) s := by
  cases hbefore : takeSteps builtins before s with
  | error stop s₁ =>
    rw [takeSteps_append_of_error hbefore, takeSteps_append_of_error hbefore]
  | ok u s₁ =>
    rw [takeSteps_append_of_ok hbefore, takeSteps_append_of_ok hbefore]
    exact bind_congr_left (h s₁ hbefore) _

theorem takeSteps_take_replace
    (h : ∀ s₁, takeSteps builtins before s = .ok () s₁ →
      takeStep builtins step s₁ = takeStep builtins report s₁) (later : List Step) (n : Nat) :
    takeSteps builtins ((before ++ step :: later).take n) s =
      takeSteps builtins ((before ++ report :: later).take n) s := by
  rw [List.take_append, List.take_append]
  by_cases hn : n ≤ before.length
  · rw [Nat.sub_eq_zero_of_le hn, List.take_zero, List.take_zero]
  · obtain ⟨k, hk⟩ : ∃ k, n - before.length = k + 1 := ⟨n - before.length - 1, by omega⟩
    have hall : before.take n = before := List.take_of_length_le (by omega)
    rw [hk, hall, List.take_succ_cons, List.take_succ_cons]
    exact takeSteps_replace h (later.take k)

/-- **A change that fails leaves nothing but its report.** Let a step of a script ask for a change
that the session refuses when the step is reached. With the report of that in its place, the replay
is the same at every point: the streams, the files, the level, the line that is pending, the
destination, the counts, and how the run ends. The attempt itself hands back the session just as it
was, and all that the step changes is what has been reported. -/
theorem refused_change_is_its_report
    (h : ∀ s₁, takeSteps Registry.standard before s = .ok () s₁ → s₁.Refuses step report)
    (later : List Step) :
    (∀ n, takeSteps Registry.standard ((before ++ step :: later).take n) s =
      takeSteps Registry.standard ((before ++ report :: later).take n) s) ∧
    s.replaySteps (before ++ step :: later) = s.replaySteps (before ++ report :: later) ∧
    ∀ s₁, takeSteps Registry.standard before s = .ok () s₁ →
      (∃ cause, changeOf step s₁ = .error (.failure cause) s₁) ∧
        OnlyReports s₁ (stateAfter (takeStep Registry.standard step) s₁) := by
  have hsame : ∀ s₁, takeSteps Registry.standard before s = .ok () s₁ →
      takeStep Registry.standard step s₁ = takeStep Registry.standard report s₁ :=
    fun s₁ hs₁ => (h s₁ hs₁).takeStep_eq Registry.standard
  refine ⟨takeSteps_take_replace hsame later, replaySteps_congr (takeSteps_replace hsame later),
    fun s₁ hs₁ => ⟨(h s₁ hs₁).change_fails, (h s₁ hs₁).onlyReports Registry.standard⟩⟩

/-- Half a trace line is pending while debug output goes to a file. -/
def halfTraced : List Step :=
  [.debugMode (some "ae"), .debugFile (some "d"), .trace .pre { call := { name := "f" } }]

theorem refused_change_is_its_report_halfTraced :
    stoppedBy (takeSteps Registry.standard halfTraced) plainSession = none ∧
    (∀ s₁, takeSteps Registry.standard halfTraced plainSession = .ok () s₁ →
      s₁.Refuses (.debugMode (some "a?")) (.warn { text := "debugmode: bad debug flags: `a?'" })) ∧
    (plainSession.replaySteps (halfTraced ++ [.debugMode (some "a?"), .flush])).2.tracer.pending =
      ⟨Utf8.encode "m4trace: -1- f"⟩ ∧
    (∀ s₁, takeSteps Registry.standard halfTraced plainSession = .ok () s₁ →
      s₁.Refuses (.debugFile (some "no/d"))
          (.error { errnum := 2, text := "debugfile: cannot set debug file `no/d'" }) ∧
        (stateAfter (takeStep Registry.standard (.debugFile (some "no/d")))
          s₁).outputs.active.path? = some "d") := by
  have hgoes : stoppedBy (takeSteps Registry.standard halfTraced) plainSession = none := by cbv
  have hflags : ∀ s₁, takeSteps Registry.standard halfTraced plainSession = .ok () s₁ →
      s₁.Refuses (.debugMode (some "a?"))
        (.warn { text := "debugmode: bad debug flags: `a?'" }) :=
    fun s₁ _ => .flags ⟨'?', by decide, by decide⟩
  have hfile : ∀ s₁, takeSteps Registry.standard halfTraced plainSession = .ok () s₁ →
      s₁.Refuses (.debugFile (some "no/d"))
        (.error { errnum := 2, text := "debugfile: cannot set debug file `no/d'" }) := by
    intro s₁ hs₁
    have hopen : s₁.outputs.store.openAppend "no/d" = .error .noEntry := by
      rw [← stateAfter_of_ok hs₁]
      cbv
    have hpath : "no/d" ≠ "" := by decide
    exact Refuses.file hpath hopen
  obtain ⟨-, hpending, -⟩ := refused_change_is_its_report hflags [.flush]
  obtain ⟨-, -, honly⟩ := refused_change_is_its_report hfile []
  refine ⟨hgoes, hflags, ?_, fun s₁ hs₁ => ⟨hfile s₁ hs₁, ?_⟩⟩
  · rw [hpending]
    cbv
  · have hsame : (stateAfter (takeStep Registry.standard (.debugFile (some "no/d")))
        s₁).outputs.active = s₁.outputs.active := by
      rw [(honly s₁ hs₁).2]
      rfl
    rw [hsame, ← stateAfter_of_ok hs₁]
    cbv

end Session

end MacroTrace
