import MacroTrace.Proofs.Uncoloured
/-!
# A run with and without colours

Whether standard error shows colours makes no difference to anything but markers. Two runs of the
same steps with both streams captured, of which one records colours and the other drops them, end in
the same way with the same counts and the same files. All that standard error shows is made of
pieces that are the same in both runs, and only the marker of a warning and that of the report that
the program ends itself are ever shown in a style (`Session.colours_only_mark`).
-/

namespace MacroTrace

/-! ## What standard error shows -/

/-- A piece of what standard error shows: bytes as they are, or a marker in a style. -/
inductive ShownPart
  | plain (bytes : Bytes)
  | marked (style : Style) (marker : String)
deriving DecidableEq, Repr

namespace ShownPart

def shown (colours : Bool) : ShownPart → Bytes
  | plain bytes => bytes
  | marked style marker => style.shown colours marker

def marker? : ShownPart → Option (Style × String)
  | plain _ => none
  | marked style marker => some (style, marker)

end ShownPart

namespace Utterance

/-- The pieces of which an utterance consists at standard error. -/
def pieces (outlet : Outlet) : Utterance → List ShownPart
  | printed _ | flush => []
  | debug bytes => if outlet = .port .err then [.plain bytes] else []
  | report d =>
    [.plain (Utf8.encode d.header)]
      ++ (if d.severity = .warning then [.marked .caution warningMarker] else [])
      ++ [.plain (Utf8.encode (d.message ++ d.trailer ++ "\n"))]
  | alarm program message =>
    [.plain (Utf8.encode (program ++ ": ")), .marked .alarm alarmMarker,
      .plain (Utf8.encode (message ++ "\n"))]

/-- What an utterance brings to standard error are its pieces. -/
theorem pieces_shown (outlet : Outlet) (colours : Bool) (u : Utterance) :
    (u.events outlet colours).flatMap (Event.bytesTo .err) =
      (u.pieces outlet).flatMap (ShownPart.shown colours) := by
  cases u with
  | printed text => simp [events, pieces, Ports.bytesTo_carried]
  | debug bytes =>
    rw [bytesTo_debug]
    by_cases hport : outlet = .port .err <;>
      simp [Remark.bytesTo, pieces, ShownPart.shown, hport]
  | report d =>
    have hwarning : (if d.severity = .warning then
        [ShownPart.marked .caution warningMarker] else []).flatMap (ShownPart.shown colours) =
        if d.severity = .warning then Style.caution.shown colours warningMarker else [] := by
      split <;> simp [ShownPart.shown]
    simp [events, pieces, Ports.bytesTo_carried, Diagnostic.bytes_requests, Diagnostic.shown,
      List.flatMap_append, hwarning, ShownPart.shown]
  | flush => simp [events, pieces, Ports.bytesTo_carried, Request.bytes]
  | alarm program message =>
    simp [events, pieces, Ports.bytesTo_carried, Request.bytes, bytes_alarmRequests, alarmShown,
      ShownPart.shown]

/-- The marker that is shown in a style with an utterance, if there is one. -/
def marker? : Utterance → Option (Style × String)
  | report d => if d.severity = .warning then some (.caution, warningMarker) else none
  | alarm _ _ => some (.alarm, alarmMarker)
  | _ => none

theorem pieces_marker (outlet : Outlet) (u : Utterance) :
    (u.pieces outlet).filterMap ShownPart.marker? = u.marker?.toList := by
  cases u with
  | debug bytes =>
    by_cases hport : outlet = .port .err <;> simp [pieces, marker?, ShownPart.marker?, hport]
  | report d =>
    by_cases hwarning : d.severity = .warning <;>
      simp [pieces, marker?, ShownPart.marker?, hwarning, List.filterMap_cons]
  | _ => rfl

end Utterance

namespace Session

/-- The pieces that a step shows at standard error. -/
def pieces (builtins : Registry) (s : Session) (step : Step) : List ShownPart :=
  (s.utterances builtins step).flatMap (·.pieces s.outputs.active.outlet)

/-- All pieces that a run shows at standard error, in order. -/
def allPieces (s : Session) (builtins : Registry) (steps : List Step) : List ShownPart :=
  s.along (pieces builtins) builtins steps

variable {s t : Session} {builtins : Registry}

theorem pieces_eventsOf (step : Step) :
    (s.eventsOf (s.utterances builtins step)).flatMap (Event.bytesTo .err) =
      (s.pieces builtins step).flatMap (ShownPart.shown s.outputs.ports.err.colours) := by
  unfold eventsOf pieces
  rw [List.flatMap_assoc, List.flatMap_assoc]
  congr
  funext u
  exact u.pieces_shown _ _

/-- What a run brings to standard error are its pieces. -/
theorem takeSteps_pieces (hplaced : s.location.isStray = false) (steps : List Step) :
    ∃ events,
      Ports.Follows events s.outputs.ports
        (stateAfter (takeSteps builtins steps) s).outputs.ports ∧
      events.flatMap (Event.bytesTo .err) =
        (s.allPieces builtins steps).flatMap (ShownPart.shown s.outputs.ports.err.colours) := by
  induction steps generalizing s with
  | nil => exact ⟨[], .refl _, rfl⟩
  | cons step rest ih =>
    have hfollows := takeStep_follows hplaced builtins step
    unfold allPieces
    rw [along, List.flatMap_append, ← pieces_eventsOf]
    cases hstep : takeStep builtins step s with
    | error stop s₁ =>
      rw [stateAfter_of_error (takeSteps_of_error hstep rest), ← stateAfter_of_error hstep]
      exact ⟨_, hfollows, (List.append_nil _).symm⟩
    | ok u s₁ =>
      have hplaced' := @placed_takeStep builtins step s hplaced
      rw [stateAfter_of_ok hstep] at hfollows hplaced'
      obtain ⟨events, hlater, hshown⟩ := ih hplaced'
      have hcolours : s₁.outputs.ports.err.colours = s.outputs.ports.err.colours :=
        hfollows.colours .err
      rw [hcolours] at hshown
      rw [stateAfter_congr (takeSteps_of_ok hstep rest)]
      exact ⟨_, hfollows.trans hlater, by rw [List.flatMap_append, hshown]; rfl⟩

/-- A replay brings its pieces to standard error, if nothing is refused. -/
theorem replaySteps_pieces (hplaced : s.location.isStray = false) (steps : List Step)
    (hdone : (s.replaySteps steps).2.outputs.ports.Unrefused) :
    (s.replaySteps steps).2.outputs.ports.textAt .err =
      s.outputs.ports.textAt .err ++
        (s.allPieces Registry.standard steps).flatMap
          (ShownPart.shown s.outputs.ports.err.colours) := by
  obtain ⟨events, hfollows, hshown⟩ := takeSteps_pieces hplaced steps
  obtain ⟨flushes, hflushes, hnothing⟩ := s.replaySteps_flushes steps
  unfold Ports.textAt
  rw [(hfollows.trans hflushes).log hdone, List.flatMap_append, List.flatMap_append, hnothing,
    List.append_nil, hshown]

/-! ### Markers -/

theorem work_markers (builtins : Registry) (step : Step) (s : Session) :
    (s.workUtterances builtins step).filterMap Utterance.marker? =
      if stoppedBy (s.work builtins step) s = some .abort then [(.alarm, alarmMarker)] else [] := by
  by_cases habort : stoppedBy (s.work builtins step) s = some .abort
  · obtain ⟨message, hwords⟩ := work_abort (eq_error_of_stoppedBy habort)
    rw [if_pos habort, hwords]
    rfl
  · rw [if_neg habort]
    cases step with
    | trace phase traced =>
      rcases traceCall_cases builtins phase traced s with ⟨bytes, s', hwords, -, -⟩ |
        ⟨s', hwords, -, -⟩ | ⟨message, s', -, hends, -⟩
      · exact congrArg (List.filterMap Utterance.marker?) hwords
      · exact congrArg (List.filterMap Utterance.marker?) hwords
      · exact absurd (stoppedBy_of_error hends) habort
    | numeric check =>
      simp only [workUtterances]
      cases check.value? s.blanks <;> rfl
    | _ => rfl

/-- After a complaint a step does not end the program. -/
theorem not_abort_of_complaint {step : Step} {c : Complaint} (h : s.complaint? step = some c) :
    stoppedBy (s.work builtins step) t ≠ some .abort := by
  rcases work_of_complaint builtins h with ⟨hwork, -⟩ | ⟨text, hwork, -⟩
  · rw [hwork]
    nofun
  · rw [hwork]
    exact fun habort => whileDoing_ne_abort (eq_error_of_stoppedBy habort)

theorem countOne_eq_ok {n m : UInt64} (h : countOne n = .ok m) : m.toNat = n.toNat + 1 := by
  unfold countOne at h
  split at h
  · rename_i hroom
    cases h
    rw [UInt64.toNat_add]
    exact Nat.mod_eq_of_lt hroom
  · cases h

/-- A complaint that is shown with a marker counts as a warning, and no other does, unless the count
is full. -/
theorem note_markers (s : Session) (c : Complaint)
    (h : ∀ breach, (s.reporter.note c).1 ≠ .error (.panic breach)) :
    ∃ n, (s.reporter.note c).2.warnings.toNat = s.reporter.warnings.toNat + n ∧
      (if s.drops c then [] else [Utterance.report (s.diagnostic c)]).filterMap
        Utterance.marker? = List.replicate n (.caution, warningMarker) := by
  unfold Reporter.note at h ⊢
  unfold drops
  cases hc : c.severity with
  | error =>
    have hmarker : (Utterance.report (s.diagnostic c)).marker? = none := by
      simp [Utterance.marker?, diagnostic, hc]
    refine ⟨0, ?_, by simp [hmarker]⟩
    simp only [Reporter.noteError]
    cases countOne s.reporter.errors <;> rfl
  | warning =>
    have hmarker : (Utterance.report (s.diagnostic c)).marker? =
        some (.caution, warningMarker) := by
      simp [Utterance.marker?, diagnostic, hc]
    cases hsuppress : s.reporter.suppressWarnings with
    | true => exact ⟨0, rfl, by simp⟩
    | false =>
      rw [hc, hsuppress] at h
      simp only [Reporter.noteWarning, Bool.false_eq_true, if_false] at h ⊢
      cases hcount : countOne s.reporter.warnings with
      | error breach =>
        rw [hcount] at h
        exact absurd rfl (h breach)
      | ok m => exact ⟨1, countOne_eq_ok hcount, by simp [hmarker]⟩

theorem markers_pieces (step : Step) :
    (s.pieces builtins step).filterMap ShownPart.marker? =
      (s.utterances builtins step).filterMap Utterance.marker? := by
  unfold pieces
  rw [List.filterMap_flatMap, List.filterMap_eq_flatMap_toList]
  congr
  funext u
  exact u.pieces_marker _

/-- What a step shows with a marker: as many warnings as are counted, and, if it ends the program,
the report of that. -/
theorem takeStep_markers (hplaced : s.location.isStray = false) (step : Step)
    (hgoes : ∀ breach, stoppedBy (takeStep builtins step) s ≠ some (.panic breach)) :
    ∃ n, (stateAfter (takeStep builtins step) s).reporter.warnings.toNat =
        s.reporter.warnings.toNat + n ∧
      (s.pieces builtins step).filterMap ShownPart.marker? =
        List.replicate n (.caution, warningMarker) ++
          if stoppedBy (takeStep builtins step) s = some .abort then [(.alarm, alarmMarker)]
          else [] := by
  rw [markers_pieces, reporter_takeStep hplaced]
  unfold utterances
  cases hc : s.complaint? step with
  | none =>
    rw [stoppedBy_congr (takeStep_of_no_complaint hc)]
    exact ⟨0, rfl, work_markers builtins step s⟩
  | some c =>
    simp only
    cases hv : (s.reporter.note c).1 with
    | error stop =>
      rw [stoppedBy_of_error (takeStep_of_ended hplaced hc hv)] at hgoes ⊢
      have hrefused : ∀ breach, (s.reporter.note c).1 ≠ .error (.panic breach) := by
        intro breach hbreach
        rw [hv] at hbreach
        cases hbreach
        exact hgoes breach rfl
      have habort : stop ≠ .abort := by
        rintro rfl
        rcases note_cases s.reporter c with ⟨breach, hfull⟩ | hverdict
        · exact hrefused breach hfull
        · rw [hv] at hverdict
          split at hverdict <;> cases hverdict
      obtain ⟨n, hcount, hmarkers⟩ := s.note_markers c hrefused
      refine ⟨n, hcount, ?_⟩
      rw [List.append_nil, hmarkers, if_neg (fun h => habort (Option.some.inj h)), List.append_nil]
    | ok u =>
      have habort := @not_abort_of_complaint s s builtins step c hc
      have habort' := @not_abort_of_complaint s (s.reported c) builtins step c hc
      obtain ⟨n, hcount, hmarkers⟩ := s.note_markers c (by rw [hv]; nofun)
      refine ⟨n, hcount, ?_⟩
      rw [stoppedBy_congr (takeStep_of_complaint hplaced hc hv), if_neg habort',
        List.filterMap_append, hmarkers, work_markers, if_neg habort]

/-- What a run shows with a marker: all warnings that are counted on the way, and, if it ends the
program, the report of that. -/
theorem takeSteps_markers (hplaced : s.location.isStray = false) (steps : List Step)
    (hgoes : ∀ breach, stoppedBy (takeSteps builtins steps) s ≠ some (.panic breach)) :
    ∃ n, (stateAfter (takeSteps builtins steps) s).reporter.warnings.toNat =
        s.reporter.warnings.toNat + n ∧
      (s.allPieces builtins steps).filterMap ShownPart.marker? =
        List.replicate n (.caution, warningMarker) ++
          if stoppedBy (takeSteps builtins steps) s = some .abort then [(.alarm, alarmMarker)]
          else [] := by
  induction steps generalizing s with
  | nil => exact ⟨0, rfl, rfl⟩
  | cons step rest ih =>
    have hfirst := @takeStep_markers s builtins hplaced step
    unfold allPieces
    rw [along, List.filterMap_append]
    cases hstep : takeStep builtins step s with
    | error stop s₁ =>
      have hrun := takeSteps_of_error hstep rest
      rw [stoppedBy_of_error hrun] at hgoes ⊢
      rw [stoppedBy_of_error hstep, stateAfter_of_error hstep] at hfirst
      rw [stateAfter_of_error hrun, List.filterMap_nil, List.append_nil]
      exact hfirst hgoes
    | ok u s₁ =>
      have hplaced' := @placed_takeStep builtins step s hplaced
      have hrun := takeSteps_of_ok hstep rest
      rw [stoppedBy_congr hrun] at hgoes ⊢
      rw [stoppedBy_of_ok hstep, stateAfter_of_ok hstep] at hfirst
      rw [stateAfter_of_ok hstep] at hplaced'
      obtain ⟨n, hcount, hmarkers⟩ := hfirst (by simp)
      obtain ⟨m, hlater, hrest⟩ := ih hplaced' hgoes
      rw [stateAfter_congr hrun]
      refine ⟨n + m, by rw [hlater, hcount, Nat.add_assoc], ?_⟩
      rw [hmarkers, if_neg (by simp), List.append_nil]
      refine (congrArg _ hrest).trans ?_
      rw [List.replicate_add, List.append_assoc]

/-! ## Two runs -/

theorem Uncoloured.pieces (h : s.Uncoloured t) (step : Step) :
    t.pieces builtins step = s.pieces builtins step := by
  have hutterances := h.utterances builtins step
  obtain ⟨ports, hsame, hports⟩ := h.outputs
  unfold Session.pieces
  rw [hutterances, hsame, hports.same]

/-- Runs of the same steps make no difference to two sessions but the one that there is. -/
theorem Uncoloured.takeSteps (h : s.Uncoloured t) (hplaced : s.location.isStray = false)
    (steps : List Step) :
    Alike Uncoloured (takeSteps builtins steps s) (takeSteps builtins steps t) ∧
      t.allPieces builtins steps = s.allPieces builtins steps := by
  induction steps generalizing s t with
  | nil => exact ⟨.ok () h, rfl⟩
  | cons step rest ih =>
    have halike := h.takeStep hplaced builtins step
    have hplaced' := @placed_takeStep builtins step s hplaced
    unfold allPieces
    rw [along, along, h.pieces step]
    generalize hs : Session.takeStep builtins step s = r at halike
    generalize ht : Session.takeStep builtins step t = r' at halike
    cases halike with
    | error stop h₁ =>
      rw [takeSteps_of_error hs rest, takeSteps_of_error ht rest]
      exact ⟨.error stop h₁, rfl⟩
    | ok u h₁ =>
      rw [stateAfter_of_ok hs] at hplaced'
      rw [takeSteps_of_ok hs rest, takeSteps_of_ok ht rest]
      obtain ⟨hrest, hpieces⟩ := ih h₁ hplaced'
      exact ⟨hrest, congrArg _ hpieces⟩

/-- Replays of the same steps end in the same way, and make no difference to two sessions but the
one that there is. -/
theorem Uncoloured.replaySteps (h : s.Uncoloured t) (hplaced : s.location.isStray = false)
    (steps : List Step) :
    (t.replaySteps steps).1 = (s.replaySteps steps).1 ∧
      (s.replaySteps steps).2.Uncoloured (t.replaySteps steps).2 := by
  have halike := (@Uncoloured.takeSteps s t Registry.standard h hplaced steps).1
  unfold Session.replaySteps
  generalize Session.takeSteps Registry.standard steps s = r at halike ⊢
  generalize Session.takeSteps Registry.standard steps t = r' at halike ⊢
  cases halike with
  | ok u h₁ =>
    have hflush := uncoloured_flushAll.alike h₁
    simp only
    generalize flushAll _ = f at hflush ⊢
    generalize flushAll _ = f' at hflush ⊢
    cases hflush with
    | ok u h₂ =>
      exact ⟨congrArg (fun r : Reporter => Ending.finished r.status) h₂.reporter, h₂⟩
    | error cause h₂ => exact ⟨rfl, h₂⟩
  | error stop h₁ =>
    cases stop with
    | exit status =>
      simp only [afterFlush_eq]
      exact ⟨trivial, uncoloured_flushAll.stateAfter h₁⟩
    | _ => exact ⟨rfl, h₁⟩

theorem Uncoloured.ports (h : s.Uncoloured t) : s.outputs.ports.Uncoloured t.outputs.ports := by
  obtain ⟨ports, hsame, hports⟩ := h.outputs
  rw [hsame]
  exact hports

theorem Uncoloured.closedStore (h : s.Uncoloured t) :
    s.outputs.closedStore = t.outputs.closedStore := by
  obtain ⟨ports, hsame, -⟩ := h.outputs
  rw [hsame]
  rfl

theorem Uncoloured.textAt_out (h : s.Uncoloured t) :
    s.outputs.ports.textAt .out = t.outputs.ports.textAt .out := by
  have hlog := h.ports.log
  unfold Ports.textAt
  generalize s.outputs.ports.log.toList = a at hlog ⊢
  generalize t.outputs.ports.log.toList = b at hlog ⊢
  induction hlog with
  | nil => rfl
  | cons hevent _ ih =>
    rw [List.flatMap_cons, List.flatMap_cons, ih]
    cases hevent <;> rfl

/-- What standard error shows after a replay, with and without colours. -/
theorem Uncoloured.textAt_err (h : s.Uncoloured t) (hplaced : s.location.isStray = false)
    (steps : List Step) :
    (s.replaySteps steps).2.outputs.ports.textAt .err =
        s.outputs.ports.textAt .err ++
          (t.allPieces Registry.standard steps).flatMap (ShownPart.shown true) ∧
      (t.replaySteps steps).2.outputs.ports.textAt .err =
        t.outputs.ports.textAt .err ++
          (t.allPieces Registry.standard steps).flatMap (ShownPart.shown false) := by
  have hplaced' : t.location.isStray = false := by rwa [h.location]
  have hpieces := (@Uncoloured.takeSteps s t Registry.standard h hplaced steps).2
  have hafter := (h.replaySteps hplaced steps).2.ports
  have hplain : t.outputs.ports.err.colours = false := by rw [h.ports.same]
  refine ⟨?_, ?_⟩
  · rw [replaySteps_pieces hplaced steps hafter.willing.unrefused, h.ports.coloured, hpieces]
  · rw [replaySteps_pieces hplaced' steps hafter.willing'.unrefused, hplain]

theorem aborted_iff (steps : List Step) :
    (s.replaySteps steps).1 = .aborted ↔
      stoppedBy (Session.takeSteps Registry.standard steps) s = some .abort := by
  refine ⟨fun h => ?_, fun h => by_contra fun hgoes => not_aborted_of_ending hgoes h⟩
  unfold Session.replaySteps at h
  cases hrun : Session.takeSteps Registry.standard steps s with
  | ok u s₁ =>
    rw [hrun] at h
    simp only at h
    split at h <;> cases h
  | error stop s₁ =>
    rw [hrun] at h
    cases stop with
    | abort => exact stoppedBy_of_error hrun
    | _ => cases h

/-- The markers that a replay shows. -/
theorem replaySteps_markers (hplaced : s.location.isStray = false) (steps : List Step)
    (hgoes : ∀ breach, (s.replaySteps steps).1 ≠ .panicked breach) :
    ∃ n, (s.replaySteps steps).2.reporter.warnings.toNat = s.reporter.warnings.toNat + n ∧
      (s.allPieces Registry.standard steps).filterMap ShownPart.marker? =
        List.replicate n (.caution, warningMarker) ++
          if (s.replaySteps steps).1 = .aborted then [(.alarm, alarmMarker)] else [] := by
  have hgoes' : ∀ breach,
      stoppedBy (Session.takeSteps Registry.standard steps) s ≠ some (.panic breach) := by
    intro breach hbreach
    refine hgoes breach ?_
    unfold Session.replaySteps
    rw [eq_error_of_stoppedBy hbreach]
  obtain ⟨n, hcount, hmarkers⟩ := takeSteps_markers hplaced steps hgoes'
  refine ⟨n, by rw [reporter_replaySteps, hcount], ?_⟩
  rw [hmarkers]
  simp only [aborted_iff]

/-- How a session is set up once its level is known. -/
def configureAt (config : Config) (level : Level) : EStateM Failure Outputs Session := do
  match config.debugFile with
  | some path => Outputs.lead (.ofSelector (some path))
  | none => pure ()
  return withSettings config level (← get)

theorem configure_eq (config : Config) (o : Outputs) :
    configure config o = match config.debugFlags.map (Level.decode ∘ some) with
      | some (.error cause) => .error (.badFlag cause) o
      | some (.ok level) => configureAt config level o
      | none => configureAt config .none o := by
  unfold configure
  cases config.debugFlags with
  | none => rfl
  | some flags =>
    have hread : Outputs.reading (fun _ => (Level.decode (some flags)).mapError .badFlag) o =
        match Level.decode (some flags) with
        | .error cause => .error (.badFlag cause) o
        | .ok level => .ok level o := by
      unfold Outputs.reading
      cases Level.decode (some flags) <;> rfl
    simp only [Option.map_some, Function.comp]
    cases hlevel : Level.decode (some flags) with
    | ok level =>
      rw [hlevel] at hread
      exact bind_of_ok hread
    | error cause =>
      rw [hlevel] at hread
      exact bind_of_error hread

/-- What comes of setting up a session with and without colours. -/
inductive SetUpAlike (ports ports' : Ports) :
    EStateM.Result Failure Outputs Session → EStateM.Result Failure Outputs Session → Prop
  | ok {s t : Session} {r r' : Outputs} (h : s.Uncoloured t) (hplaced : s.location.isStray = false)
    (hcount : s.reporter.warnings = 0) (hlog : s.outputs.ports.log = ports.log)
    (hlog' : t.outputs.ports.log = ports'.log) : SetUpAlike ports ports' (.ok s r) (.ok t r')
  | error (cause : Failure) {r r' : Outputs} (h : r.Uncoloured r') :
    SetUpAlike ports ports' (.error cause r) (.error cause r')

/-- A session is set up in the same way with and without colours. -/
theorem configure_uncoloured {o o' : Outputs} (h : o.Uncoloured o') (config : Config) :
    SetUpAlike o.ports o'.ports (configure config o) (configure config o') := by
  have hsettings : ∀ level, SetUpAlike o.ports o'.ports (configureAt config level o)
      (configureAt config level o') := by
    intro level
    unfold configureAt
    cases config.debugFile with
    | none => exact .ok ⟨_, rfl, _, rfl, h⟩ rfl rfl rfl rfl
    | some path =>
      rcases h.redirect (.ofSelector (some path)) with
        ⟨r, r', hr, hr', halike⟩ | ⟨cause, hr, hr'⟩
      · have hlead : Outputs.lead (.ofSelector (some path)) o = .ok () r := by
          simp only [Outputs.lead, hr]
        have hlead' : Outputs.lead (.ofSelector (some path)) o' = .ok () r' := by
          simp only [Outputs.lead, hr']
        simp only
        rw [bind_of_ok hlead, bind_of_ok hlead']
        exact .ok ⟨_, rfl, _, rfl, halike⟩ rfl rfl (Outputs.log_redirect hr)
          (Outputs.log_redirect hr')
      · have hlead : Outputs.lead (.ofSelector (some path)) o = .error cause o := by
          simp only [Outputs.lead, hr]
        have hlead' : Outputs.lead (.ofSelector (some path)) o' = .error cause o' := by
          simp only [Outputs.lead, hr']
        simp only
        rw [bind_of_error hlead, bind_of_error hlead']
        exact .error cause h
  rw [configure_eq, configure_eq]
  split
  · exact .error _ h
  · exact hsettings _
  · exact hsettings _

/-- Colours make no difference to anything but markers. For every configuration and every script,
with both streams captured, colours recorded or dropped: setting up fails in the same way, with the
same files, or else the replays end in the same way, with the same counts, the same files and the
same text at standard output, the same events go through the streams in the same order, but where
the one has an escape sequence, the other has nothing, and the journals are the same. All that standard error shows is made
of pieces that are the same in both runs. A piece is either shown as it is, whatever it contains, or
it is a marker, which the one run shows between escape sequences and the other as it is; and unless
an agreement is broken, the markers are as many as the warnings that are counted, followed by that
of the report that the program ends itself, if it does. -/
theorem colours_only_mark (config : Config) (store : FileStore)
    (outIdentity errIdentity : Option Identity) (steps : List Step) :
    match configure config (.start (.captures true) store outIdentity errIdentity),
      configure config (.start (.captures false) store outIdentity errIdentity) with
    | .error cause o, .error cause' o' =>
      cause = cause' ∧ o.store = o'.store ∧
        List.Forall₂ Event.Uncoloured o.ports.log.toList o'.ports.log.toList
    | .ok s _, .ok t _ =>
      let coloured := s.replaySteps steps
      let plain := t.replaySteps steps
      let pieces := t.allPieces Registry.standard steps
      coloured.1 = plain.1 ∧
      coloured.2.reporter = plain.2.reporter ∧
      coloured.2.outputs.closedStore = plain.2.outputs.closedStore ∧
      coloured.2.outputs.ports.textAt .out = plain.2.outputs.ports.textAt .out ∧
      List.Forall₂ Event.Uncoloured coloured.2.outputs.ports.log.toList
        plain.2.outputs.ports.log.toList ∧
      coloured.2.outputs.ports.journal = plain.2.outputs.ports.journal ∧
      coloured.2.outputs.ports.textAt .err = pieces.flatMap (ShownPart.shown true) ∧
      plain.2.outputs.ports.textAt .err = pieces.flatMap (ShownPart.shown false) ∧
      ((∀ breach, plain.1 ≠ .panicked breach) →
        pieces.filterMap ShownPart.marker? =
          List.replicate plain.2.reporter.warnings.toNat (.caution, "Warning: ") ++
            if plain.1 = .aborted then [(.alarm, "INTERNAL ERROR: ")] else [])
    | _, _ => False := by
  have hstart := Outputs.uncoloured_start store outIdentity errIdentity
  have halike := configure_uncoloured hstart config
  rw [Outputs.ports_start, Outputs.ports_start] at halike
  generalize configure config (.start (.captures true) store outIdentity errIdentity) = r
    at halike ⊢
  generalize configure config (.start (.captures false) store outIdentity errIdentity) = r'
    at halike ⊢
  cases halike with
  | error cause h =>
    obtain ⟨ports, rfl, hports⟩ := h
    exact ⟨rfl, rfl, hports.log⟩
  | @ok s t _ _ h hplaced hcount hlog hlog' =>
    obtain ⟨hending, hafter⟩ := h.replaySteps hplaced steps
    obtain ⟨hcoloured, hplain⟩ := h.textAt_err hplaced steps
    unfold Ports.textAt at hcoloured hplain
    rw [hlog] at hcoloured
    rw [hlog'] at hplain
    have hjournal := congrArg Ports.journal hafter.ports.same
    refine ⟨hending.symm, hafter.reporter.symm, hafter.closedStore, hafter.textAt_out,
      hafter.ports.log, hjournal.symm, hcoloured, hplain, fun hgoes => ?_⟩
    have hplaced' : t.location.isStray = false := by rwa [h.location]
    obtain ⟨n, hwarnings, hmarkers⟩ := replaySteps_markers hplaced' steps hgoes
    have hn : (t.replaySteps steps).2.reporter.warnings.toNat = n := by
      rw [hwarnings, h.reporter, hcount]
      exact Nat.zero_add n
    rw [hn]
    exact hmarkers

/-- A message and a warning that hold a marker and escape sequences, and a call that cannot be
traced. -/
def gaudyScript : List Step :=
  [.debugMode (some "a"), .message "Warning: \x1b[31m", .warn { text := "Warning: \x1b[0m" },
    .trace .pre { call := { name := "f", args := [.builtin ⟨99⟩] } }]

def gaudySession (colours : Bool) : Session :=
  start (.start (.captures colours) (.initial 0) none none)

theorem colours_only_mark_gaudyScript :
    (∀ breach, ((gaudySession false).replaySteps gaudyScript).1 ≠ .panicked breach) ∧
      ((gaudySession true).replaySteps gaudyScript).2.outputs.ports.textAt .err =
        Utf8.encode ("m4 debug: Warning: \x1b[31m\n" ++
          "m4: \x1b[0m\x1b[1m\x1b[33mWarning: \x1b[0mWarning: \x1b[0m\n" ++
          "m4: \x1b[0m\x1b[1m\x1b[31mINTERNAL ERROR: \x1b[0m" ++
          "builtin #99 not found in builtin table (trace_pre, macro `f')\n") ∧
      ((gaudySession false).replaySteps gaudyScript).2.outputs.ports.textAt .err =
        Utf8.encode ("m4 debug: Warning: \x1b[31m\nm4: Warning: Warning: \x1b[0m\n" ++
          "m4: INTERNAL ERROR: builtin #99 not found in builtin table (trace_pre, macro `f')\n") ∧
      ((gaudySession false).allPieces Registry.standard gaudyScript).filterMap ShownPart.marker? =
        [(.caution, "Warning: "), (.alarm, "INTERNAL ERROR: ")] := by
  have hending : ((gaudySession false).replaySteps gaudyScript).1 = .aborted := by cbv
  have hgoes : ∀ breach, ((gaudySession false).replaySteps gaudyScript).1 ≠ .panicked breach := by
    intro breach hbreach
    rw [hending] at hbreach
    cases hbreach
  have hcount : ((gaudySession false).replaySteps gaudyScript).2.reporter.warnings = 1 := by cbv
  have hset : ∀ colours,
      configure {} (.start (.captures colours) (.initial 0) none none) =
        .ok (gaudySession colours) (.start (.captures colours) (.initial 0) none none) :=
    fun _ => rfl
  have hruns := colours_only_mark {} (.initial 0) none none gaudyScript
  rw [hset true, hset false] at hruns
  obtain ⟨-, -, -, -, -, -, hcoloured, hplain, hmarkers⟩ := hruns
  refine ⟨hgoes, ?_, ?_, ?_⟩
  · rw [hcoloured]
    cbv
  · rw [hplain]
    cbv
  · rw [hmarkers hgoes, hending, hcount]
    rfl

end Session

end MacroTrace
