import MacroTrace.Proofs.ReplayOutcome
import MacroTrace.Proofs.Interjection
import MacroTrace.Proofs.TemplateKinds
/-!
# No agreement is broken

There are four ways to break an agreement (`Breach`): a line without a file, two kinds of arguments
that do not go with a template, and a count that is too large. A replay does none of this. The
position makes sense at every point, because a step refuses one that does not; what the tracer says
is given the arguments that its templates take; the table of builtins has numbers to spare for the
standard names; and a script is too short for its complaints to fill a count.
-/

namespace MacroTrace

/-! ## Numbers for builtins -/

namespace Registry

theorem register?_isSome {r : Registry} (h : r.last.toNat + 1 < UInt32.size) (name : String) :
    (r.register? name).isSome := by
  rw [register?, if_pos h]
  rfl

/-- Each name takes one number, as long as there are enough. -/
theorem last_registerAll {r : Registry} {names : List String}
    (h : r.last.toNat + names.length < UInt32.size) :
    (r.registerAll names).last.toNat = r.last.toNat + names.length := by
  induction names generalizing r with
  | nil => rfl
  | cons name rest ih =>
    rw [List.length_cons] at h ⊢
    have hroom : r.last.toNat + 1 < UInt32.size := by omega
    have hnext : (r.last + 1).toNat = r.last.toNat + 1 := by
      rw [UInt32.toNat_add]
      exact Nat.mod_eq_of_lt hroom
    rw [registerAll, register?, if_pos hroom]
    simp only
    rw [ih (by rw [hnext]; omega), hnext]
    omega

/-- No name runs out of numbers while there are enough for all of them. -/
theorem register?_of_room {r : Registry} {before names : List String} {name : String}
    (hroom : r.last.toNat + names.length < UInt32.size) (h : before ++ [name] <+: names) :
    ((r.registerAll before).register? name).isSome := by
  have hlength := h.length_le
  rw [List.length_append, List.length_singleton] at hlength
  refine register?_isSome ?_ name
  rw [last_registerAll (by omega)]
  omega

end Registry

/-! ## Positions -/

theorem Location.isStray_eq_false_iff (l : Location) :
    l.isStray = false ↔ (l.file = none → l.line = 0) := by
  unfold isStray
  cases l.file <;> simp

/-! ## Counts -/

namespace Session

theorem countOne_isOk {n : UInt64} (h : n.toNat + 1 < UInt64.size) : (countOne n).isOk = true := by
  rw [countOne, if_pos h]
  rfl

variable {suppressWarnings fatalWarnings : Bool} {reports : List Complaint} {s : Session}

/-- There is room for one more error and one more warning. -/
theorem Reports.countOne_isOk (h : s.Reports suppressWarnings fatalWarnings reports)
    (hroom : reports.length + 1 < UInt64.size) :
    (countOne s.reporter.errors).isOk = true ∧ (countOne s.reporter.warnings).isOk = true := by
  have herrors : reports.countP (·.isError) ≤ reports.length := List.countP_le_length
  have hwarnings : reports.countP (·.isWarning) ≤ reports.length := List.countP_le_length
  refine ⟨Session.countOne_isOk ?_, Session.countOne_isOk ?_⟩
  · rw [h.knows.errors]
    omega
  · rw [h.knows.warnings]
    split <;> omega

/-! ## Whole replays -/

section Replay

variable {config : Config} {outputs : Outputs} {s₀ : Session} {steps : List Step}

/-- A replay breaks no agreement, however it is configured and whatever its steps are. At every
point the position has no line without a file; a step that moves to such a position fails with the
account of it, and leaves the session as it was. There is always room for one more complaint. In
all settings and for every call, the phrases that a phase of tracing says have the arguments that
their templates take, and no others, so that no phase of tracing can break an agreement. The standard
names are all given numbers. (A script is held in memory, and the length of a list there is a number
of 64 bits.) -/
theorem replay_breaks_no_agreement (h : ofConfig config outputs = .ok s₀)
    (hlen : steps.length < UInt64.size) :
    (∀ breach, (s₀.replaySteps steps).1 ≠ .panicked breach) ∧
    (∀ before, before <+: steps →
      let location := (stateAfter (takeSteps Registry.standard before) s₀).location
      location.file = none → location.line = 0) ∧
    (∀ position s, takeStep Registry.standard (.location position) s =
      if position.isStray then
        .error
          (.failure
            (.script (some s!"location line {position.line.toNat} given without a file"))) s
      else .ok () { s with location := position }) ∧
    (∀ before step, before ++ [step] <+: steps →
      let reporter := (stateAfter (takeSteps Registry.standard before) s₀).reporter
      (countOne reporter.errors).isOk = true ∧ (countOne reporter.warnings).isOk = true) ∧
    (∀ (t : TraceSettings) builtins call expansion,
      (AllFit (t.prepre call) ∧ NoBreach (Tracer.prepre t call)) ∧
      ((∀ phrases, t.pre builtins call = .ok phrases → AllFit phrases ∧
          Tracer.pre t builtins call = Tracer.sayAll t.options phrases >>= fun _ =>
            if t.level.has .call then Tracer.finishLine else pure ()) ∧
        NoBreach (Tracer.pre t builtins call)) ∧
      (AllFit (t.post call expansion) ∧ NoBreach (Tracer.post t call expansion))) ∧
    (∀ before name, before ++ [name] <+: Registry.standardNames →
      ((Registry.empty.registerAll before).register? name).isSome) := by
  refine ⟨fun breach hbreach => ?_, fun before hbefore => ?_,
    takeStep_location Registry.standard, fun before step hbefore => ?_,
    fun t builtins call expansion =>
      ⟨⟨t.fits_prepre call, Tracer.noBreach_prepre t call⟩,
        ⟨fun _ h => ⟨t.fits_pre builtins call h, Tracer.pre_eq t builtins call h⟩,
          Tracer.noBreach_pre t builtins call⟩,
        t.fits_post call expansion, Tracer.noBreach_post t call expansion⟩,
    fun before name => Registry.register?_of_room (by decide)⟩
  · have hending := ending_cases h hlen
    rw [hbreach] at hending
    exact hending
  · have hlength := hbefore.length_le
    exact (Location.isStray_eq_false_iff _).mp (reports_at h (by omega)).placed
  · have hlength := hbefore.length_le
    rw [List.length_append, List.length_singleton] at hlength
    have hcomplaints := s₀.length_complaints_le Registry.standard before
    exact (reports_at h (by omega)).countOne_isOk (by omega)

end Replay

/-- A script that goes to a place in a file, complains, and then to a line of no file. -/
def strayScript : List Step :=
  [.location ⟨some "in.m4", 3⟩, .error { text := "a" }, .location ⟨none, 2⟩]

theorem replay_breaks_no_agreement_stray :
    ofConfig {} (.start {} (.initial 0) none none) = .ok plainSession ∧
      strayScript.length < UInt64.size ∧
      (plainSession.replaySteps strayScript).1 =
        .failed (.script (some "location line 2 given without a file")) ∧
      (stateAfter (takeSteps Registry.standard strayScript) plainSession).location =
        ⟨some "in.m4", 3⟩ ∧
      ∀ breach, (plainSession.replaySteps strayScript).1 ≠ .panicked breach := by
  have hconfig : ofConfig {} (.start {} (.initial 0) none none) = .ok plainSession := rfl
  have hlen : strayScript.length < UInt64.size := by decide
  exact ⟨hconfig, hlen, by cbv, by cbv, (replay_breaks_no_agreement hconfig hlen).1⟩

end Session

end MacroTrace
