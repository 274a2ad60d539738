import MacroTrace.Proofs.Transparency
/-!
# The flush at the end of a replay

When all steps have been taken, and when one of them asks for the end of the run, both standard
streams are flushed before the replay is over, so that whatever the program says afterwards comes
behind all that the replay has written. A step that fails is another matter: the replay hands on the
failure at once, and what has been written may still be held (`Session.flushed_unless_step_fails`).
-/

namespace MacroTrace

/-! ## Logs that end with a flush -/

/-- Whatever a log brings to a port is followed by a flush of it. -/
def Settled (p : Port) (log : List Event) : Prop :=
  ∀ before bytes after, log = before ++ .wrote p bytes :: after → .flushed p ∈ after

theorem exists_rest_of_flushed {p q : Port} {log before after : List Event} {bytes : Bytes}
    (h : log ++ [.flushed q] = before ++ .wrote p bytes :: after) :
    ∃ rest, after = rest ++ [.flushed q] ∧ log = before ++ .wrote p bytes :: rest := by
  rcases List.eq_nil_or_concat' after with rfl | ⟨rest, last, rfl⟩
  · have hlast := List.append_inj_right' h rfl
    cases hlast
  · have hconcat : log ++ [.flushed q] = (before ++ .wrote p bytes :: rest) ++ [last] := by
      rw [h, List.append_assoc, List.cons_append]
    obtain ⟨hlog, hlast⟩ := List.append_inj' hconcat rfl
    cases hlast
    exact ⟨rest, rfl, hlog⟩

theorem settled_flushed (p : Port) (log : List Event) : Settled p (log ++ [.flushed p]) := by
  intro before bytes after h
  obtain ⟨rest, rfl, -⟩ := exists_rest_of_flushed h
  exact List.mem_append_right rest (List.mem_singleton_self _)

/-- Another flush at the end changes nothing. -/
theorem Settled.flushed {p : Port} {log : List Event} (h : Settled p log) (q : Port) :
    Settled p (log ++ [.flushed q]) := by
  intro before bytes after hsplit
  obtain ⟨rest, rfl, hlog⟩ := exists_rest_of_flushed hsplit
  exact List.mem_append_left _ (h before bytes rest hlog)

/-! ## What comes behind -/

/-- What has arrived and what is held in the end are all that a log has brought to each port. -/
theorem Lands.through {held final : Bytes} {log : List Event} {arrivals : List Arrival}
    (h : Lands held log arrivals final) :
    Arrival.through .out arrivals ++ final = held ++ log.flatMap (Event.bytesTo .out) ∧
      Arrival.through .err arrivals = log.flatMap (Event.bytesTo .err) := by
  induction h with
  | done held => simp
  | handOn first _ ih =>
    refine ⟨?_, ?_⟩
    · rw [Arrival.through_cons_same, List.append_assoc, ih.1, List.append_assoc]
    · rw [Arrival.through_cons_other (by decide), ih.2]
  | out _ ih => simpa [Event.bytesTo] using ih
  | err _ ih => simpa [Event.bytesTo, Arrival.through_cons_other] using ih
  | flushOut _ ih => simpa [Event.bytesTo, Arrival.through_cons_other] using ih
  | flushErr _ ih => simpa [Event.bytesTo] using ih

/-- Nothing is held once standard output has been flushed for the last time. -/
theorem Lands.nothing_held {held final : Bytes} {log : List Event} {arrivals : List Arrival}
    (h : Lands held log arrivals final) {holds : Bool} (hholds : holds = false → held = [])
    (hend : log.foldl Event.holdsAfter holds = false) : final = [] := by
  induction h generalizing holds with
  | done held => exact hholds hend
  | handOn first _ ih => exact ih (fun hno => (List.append_eq_nil_iff.mp (hholds hno)).2) hend
  | out _ ih => exact ih (fun hno => by cases hno) hend
  | err _ ih => exact ih hholds hend
  | flushOut _ ih => exact ih (fun _ => rfl) hend
  | flushErr _ ih => exact ih hholds hend

/-- What arrives of two logs in three parts: what the first event shows, the rest of the first log,
and the second. -/
theorem Lands.split_event {held held' final : Bytes} {event : Event} {log later both : List Event}
    {arrivals : List Arrival} (shown : List Arrival)
    (hevent : ∀ {log arrivals final}, Lands held' log arrivals final →
      Lands held (event :: log) (shown ++ arrivals) final)
    (h : Lands held' both arrivals final)
    (hsplit : ∀ {log}, log ++ later = both → ∃ first rest left, arrivals = first ++ rest ∧
      Lands held' log first left ∧ Lands left later rest final)
    (hboth : log ++ later = event :: both) :
    ∃ first rest left, shown ++ arrivals = first ++ rest ∧ Lands held log first left ∧
      Lands left later rest final := by
  rcases List.append_eq_cons_iff.mp hboth with ⟨rfl, rfl⟩ | ⟨tail, rfl, htail⟩
  · exact ⟨[], shown ++ arrivals, held, rfl, .done held, hevent h⟩
  · obtain ⟨first, rest, left, rfl, hfirst, hrest⟩ := hsplit htail.symm
    exact ⟨shown ++ first, rest, left, (List.append_assoc ..).symm, hevent hfirst, hrest⟩

/-- What arrives of two logs, one behind the other, are the arrivals of the first and then those of
the second, which starts with what the first has left. -/
theorem Lands.split {held final : Bytes} {log later : List Event} {arrivals : List Arrival}
    (h : Lands held (log ++ later) arrivals final) :
    ∃ first rest left, arrivals = first ++ rest ∧ Lands held log first left ∧
      Lands left later rest final := by
  generalize hboth : log ++ later = both at h
  induction h generalizing log with
  | done held =>
    obtain ⟨rfl, rfl⟩ := List.append_eq_nil_iff.mp hboth
    exact ⟨[], [], held, rfl, .done held, .done held⟩
  | handOn bytes _ ih =>
    obtain ⟨first, rest, left, rfl, hfirst, hrest⟩ := ih hboth
    exact ⟨_, rest, left, rfl, .handOn bytes hfirst, hrest⟩
  | out h ih => exact Lands.split_event [] .out h ih hboth
  | @err _ bytes _ _ _ h ih => exact Lands.split_event [⟨.err, bytes⟩] .err h ih hboth
  | @flushOut held _ _ _ h ih => exact Lands.split_event [⟨.out, held⟩] .flushOut h ih hboth
  | flushErr h ih => exact Lands.split_event [] .flushErr h ih hboth

/-- However standard output buffers, all that a log brings to either port has arrived before
anything that comes later. -/
def ArrivesFirst (log : List Event) : Prop :=
  ∀ later arrivals final, Lands [] (log ++ later) arrivals final →
    ∃ first rest, arrivals = first ++ rest ∧
      (∀ p, Arrival.through p first = log.flatMap (Event.bytesTo p)) ∧
      Lands [] later rest final

theorem arrivesFirst_of_flushed {log : List Event}
    (h : log.foldl Event.holdsAfter false = false) : ArrivesFirst log := by
  intro later arrivals final hlands
  obtain ⟨first, rest, left, harrivals, hfirst, hrest⟩ := hlands.split
  have hleft : left = [] := hfirst.nothing_held (fun _ => rfl) h
  subst hleft
  obtain ⟨hout, herr⟩ := hfirst.through
  rw [List.append_nil] at hout
  refine ⟨first, rest, harrivals, fun p => ?_, hrest⟩
  cases p with
  | out => exact hout
  | err => exact herr

/-- What a flush of everything leaves behind. -/
theorem settled_of_flushes {log : List Event} (p : Port) :
    Settled p (log ++ [.flushed .out, .flushed .err]) := by
  have hsplit : log ++ [Event.flushed .out, .flushed .err] =
      (log ++ [.flushed .out]) ++ [.flushed .err] := by simp
  rw [hsplit]
  cases p with
  | out => exact (settled_flushed .out log).flushed .err
  | err => exact settled_flushed .err _

theorem arrivesFirst_of_flushes (log : List Event) :
    ArrivesFirst (log ++ [.flushed .out, .flushed .err]) := by
  refine arrivesFirst_of_flushed ?_
  rw [List.foldl_append]
  rfl

/-! ## Replays -/

namespace Session

/-- Flushing everything leaves a log that ends so, unless a port has refused something. That the
debug file may refuse makes no difference, as its turn comes last. -/
theorem log_flushAll {s : Session} (h : (stateAfter flushAll s).outputs.ports.Unrefused) :
    (stateAfter flushAll s).outputs.ports.log.toList =
      s.outputs.ports.log.toList ++ [.flushed .out, .flushed .err] :=
  (flush_follows s).log h

variable {s : Session} {steps : List Step}

/-- **What is flushed when a replay ends.** Suppose that the standard streams take everything. If
all steps are taken, or one of them asks for the end of the run, then each stream is flushed after
all that has been written to it, even if the debug file cannot be flushed; and however standard
output buffers, all of it has arrived before anything that is written after the replay. If a step
fails, nothing is flushed any more: the streams are left as that step has left them. -/
theorem flushed_unless_step_fails
    (hdone : (s.replaySteps steps).2.outputs.ports.Unrefused) :
    ((∀ stop, stoppedBy (takeSteps Registry.standard steps) s = some stop →
        ∃ status, stop = .exit status) →
      (∀ p, Settled p (s.replaySteps steps).2.outputs.ports.log.toList) ∧
        ArrivesFirst (s.replaySteps steps).2.outputs.ports.log.toList) ∧
    ∀ cause, stoppedBy (takeSteps Registry.standard steps) s = some (.failure cause) →
      s.replaySteps steps = (.failed cause, stateAfter (takeSteps Registry.standard steps) s) := by
  refine ⟨fun hends => ?_, fun _ hstop =>
    replaySteps_of_error (eq_error_of_stoppedBy hstop)⟩
  rw [replaySteps_flushes_last hends] at hdone ⊢
  rw [log_flushAll hdone]
  exact ⟨settled_of_flushes, arrivesFirst_of_flushes _⟩

/-- Text on standard output, and an error that ends the run. -/
def endedScript : List Step := [.output "x", .error { status := 2, text := "e" }, .output "y"]

theorem flushed_unless_step_fails_endedScript :
    (plainSession.replaySteps endedScript).2.outputs.ports.Unrefused ∧
      (plainSession.replaySteps endedScript).1 = .exited 2 ∧
      (∀ p, Settled p (plainSession.replaySteps endedScript).2.outputs.ports.log.toList) ∧
      ArrivesFirst (plainSession.replaySteps endedScript).2.outputs.ports.log.toList := by
  have hdone : (plainSession.replaySteps endedScript).2.outputs.ports.Unrefused :=
    Ports.unrefused_of_all (by cbv)
  have hstop : stoppedBy (takeSteps Registry.standard endedScript) plainSession =
      some (.exit 2) := by cbv
  refine ⟨hdone, by cbv, (flushed_unless_step_fails hdone).1 fun stop h => ⟨2, ?_⟩⟩
  rw [hstop] at h
  exact (Option.some.inj h).symm

/-- Text on both streams, and a position that makes no sense. -/
def strandedScript : List Step := [.output "x", .message "m", .location { line := 3 }]

/-- What was written before a step fails is flushed on neither stream, and what is said about the
failure may come before it. -/
theorem unsettled_strandedScript :
    (plainSession.replaySteps strandedScript).1 =
        .failed (.script (some "location line 3 given without a file")) ∧
      (plainSession.replaySteps strandedScript).2.outputs.ports.Unrefused ∧
      (∀ p, ¬ Settled p (plainSession.replaySteps strandedScript).2.outputs.ports.log.toList) ∧
      ∀ said, ∃ arrivals,
        Lands [] ((plainSession.replaySteps strandedScript).2.outputs.ports.log.toList ++
          [.wrote .err said]) (arrivals ++ [⟨.err, said⟩]) (Utf8.encode "x") := by
  have hended : (plainSession.replaySteps strandedScript).1 =
      .failed (.script (some "location line 3 given without a file")) := by cbv
  have hdone : (plainSession.replaySteps strandedScript).2.outputs.ports.Unrefused :=
    Ports.unrefused_of_all (by cbv)
  have hlog : (plainSession.replaySteps strandedScript).2.outputs.ports.log.toList =
      [.wrote .out (Utf8.encode "x"), .wrote .err (Utf8.encode "m4 debug: "),
        .wrote .err (Utf8.encode "m"), .wrote .err (Utf8.encode "\n")] := by cbv
  rw [hlog]
  refine ⟨hended, hdone, fun p hsettled => ?_, fun said => ?_⟩
  · cases p with
    | out => simpa using hsettled [] (Utf8.encode "x") _ rfl
    | err => simpa using hsettled (_ :: _ :: [_]) (Utf8.encode "\n") [] rfl
  · exact ⟨[_, _, _], .out (.err (.err (.err (.err (.done _)))))⟩

end Session

end MacroTrace
