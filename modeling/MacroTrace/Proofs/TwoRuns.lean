import MacroTrace.Proofs.Chronology
import MacroTrace.Proofs.Openings
/-!
# Two runs of which one takes additional steps

A script with some of its steps marked as added stands for two scripts, the one with and the one
without these steps (`allSteps`, `keptSteps`). If sessions of the two runs correspond in a way that
no step disturbs, and an added step does not disturb it although only one of the runs takes it, then
the runs correspond throughout (`Session.Undisturbed.run`).
-/

namespace MacroTrace

/-- A step of a script, marked if it has been added. -/
structure Entry where
  step : Step
  isAdded : Bool
deriving DecidableEq, Repr

/-- The script with the steps that have been added. -/
def allSteps (entries : List Entry) : List Step := entries.map (·.step)

/-- The script without the steps that have been added. -/
def keptSteps (entries : List Entry) : List Step := allSteps (entries.filter (!·.isAdded))

theorem length_keptSteps_le (entries : List Entry) :
    (keptSteps entries).length ≤ entries.length := by
  unfold keptSteps allSteps
  rw [List.length_map]
  exact List.length_filter_le _ _

theorem keptSteps_cons_of_added {entry : Entry} (h : entry.isAdded) (rest : List Entry) :
    keptSteps (entry :: rest) = keptSteps rest := by
  simp [keptSteps, allSteps, h]

theorem keptSteps_cons_of_kept {entry : Entry} (h : entry.isAdded = false) (rest : List Entry) :
    keptSteps (entry :: rest) = entry.step :: keptSteps rest := by
  simp [keptSteps, allSteps, h]

theorem allSteps_mono {before entries : List Entry} (h : before <+: entries) :
    allSteps before <+: allSteps entries := h.map _

theorem keptSteps_mono {before entries : List Entry} (h : before <+: entries) :
    keptSteps before <+: keptSteps entries := (h.filter _).map _

namespace Session

/-- What can be observed along a run, step by step. -/
def along {α : Type} (observe : Session → Step → List α) (builtins : Registry) (s : Session) :
    List Step → List α
  | [] => []
  | step :: rest =>
    observe s step ++ match takeStep builtins step s with
      | .ok () s => s.along observe builtins rest
      | .error _ _ => []

/-- Steps are taken without a mishap. -/
def Unhindered (s : Session) (builtins : Registry) (steps : List Step) : Prop :=
  ∀ stop, stoppedBy (takeSteps builtins steps) s = some stop → stop.isMishap = false

/-- No added step stops the run. -/
def AddedGoOn (s : Session) (builtins : Registry) (entries : List Entry) : Prop :=
  ∀ before entry s₁, before ++ [entry] <+: entries → entry.isAdded →
    takeSteps builtins (allSteps before) s = .ok () s₁ →
    stoppedBy (takeStep builtins entry.step) s₁ = none

/-- A correspondence of sessions that is not disturbed when both take a step that is to be shared,
nor when the first of them takes an aside alone. Corresponding sessions are stopped by the same
shared steps. -/
structure Undisturbed (builtins : Registry) (isShared isAside : Step → Prop)
    (R : Session → Session → Prop) : Prop where
  placed {s t : Session} (h : R s t) : s.location.isStray = false ∧ t.location.isStray = false
  stops {s t : Session} (h : R s t) {step : Step} (hshared : isShared step) :
    s.stop? builtins step = t.stop? builtins step
  kept {s t : Session} (h : R s t) {step : Step} (hshared : isShared step) :
    R (stateAfter (takeStep builtins step) s) (stateAfter (takeStep builtins step) t)
  aside {s t : Session} (h : R s t) {step : Step} (haside : isAside step) :
    R (stateAfter (takeStep builtins step) s) t

variable {builtins : Registry} {s s' t : Session} {step : Step} {steps later : List Step}
  {entries before : List Entry}

theorem Unhindered.first (h : s.Unhindered builtins (step :: later)) {stop : Stop}
    (hstop : stoppedBy (takeStep builtins step) s = some stop) : stop.isMishap = false := by
  refine h stop ?_
  exact stoppedBy_of_error (takeSteps_of_error (eq_error_of_stoppedBy hstop) later)

theorem Unhindered.rest (h : s.Unhindered builtins (step :: later))
    (hstep : takeStep builtins step s = .ok () s') : s'.Unhindered builtins later := by
  intro stop hstop
  refine h stop ?_
  rw [stoppedBy_congr (takeSteps_of_ok hstep later)]
  exact hstop

/-- What holds of a run as a whole, in this respect, holds of its beginning. -/
theorem Unhindered.earlier {earlier : List Step} (h : s.Unhindered builtins steps)
    (hbefore : earlier <+: steps) : s.Unhindered builtins earlier := by
  obtain ⟨later, rfl⟩ := hbefore
  intro stop hstop
  refine h stop ?_
  exact stoppedBy_of_error (takeSteps_append_of_error (eq_error_of_stoppedBy hstop) later)

theorem AddedGoOn.rest {entry : Entry} {rest : List Entry}
    (h : s.AddedGoOn builtins (entry :: rest))
    (hstep : takeStep builtins entry.step s = .ok () s') : s'.AddedGoOn builtins rest := by
  intro before next s₁ hbefore hadded hrun
  refine h (entry :: before) next s₁ ?_ hadded ?_
  · exact List.cons_prefix_cons.mpr ⟨rfl, hbefore⟩
  · show takeSteps builtins (entry.step :: allSteps before) s = _
    rw [takeSteps_of_ok hstep]
    exact hrun

theorem AddedGoOn.earlier (h : s.AddedGoOn builtins entries) (hbefore : before <+: entries) :
    s.AddedGoOn builtins before :=
  fun earlier entry s₁ hearlier => h earlier entry s₁ (hearlier.trans hbefore)

/-- Without a mishap, corresponding sessions go on or are stopped in the same way. -/
theorem Undisturbed.stoppedBy_eq {isShared isAside : Step → Prop}
    {R : Session → Session → Prop} (hR : Undisturbed builtins isShared isAside R) (hst : R s t)
    (hshared : isShared step)
    (hs : ∀ stop, stoppedBy (takeStep builtins step) s = some stop → stop.isMishap = false)
    (ht : ∀ stop, stoppedBy (takeStep builtins step) t = some stop → stop.isMishap = false) :
    stoppedBy (takeStep builtins step) s = stoppedBy (takeStep builtins step) t := by
  have hstops : ∀ {u : Session}, u.location.isStray = false →
      (∀ stop, stoppedBy (takeStep builtins step) u = some stop → stop.isMishap = false) →
      stoppedBy (takeStep builtins step) u = u.stop? builtins step := by
    intro u hplaced hu
    rcases stoppedBy_takeStep hplaced builtins step with hsame | ⟨stop, hstop, hmishap⟩
    · exact hsame
    · rw [hu stop hstop] at hmishap
      cases hmishap
  rw [hstops (hR.placed hst).1 hs, hstops (hR.placed hst).2 ht]
  exact hR.stops hst hshared

/-- The run with the added steps ends like the one without them, in a session that corresponds, and
what can be observed along the way is the same. -/
theorem Undisturbed.run {α : Type} {isShared isAside : Step → Prop}
    {R : Session → Session → Prop} (hR : Undisturbed builtins isShared isAside R)
    (observe : Session → Step → List α)
    (hsame : ∀ {s t : Session} {step : Step}, R s t → isShared step →
      observe s step = observe t step)
    (hnothing : ∀ {s t : Session} {step : Step}, R s t → isAside step → observe s step = [])
    (hst : R s t) (hasides : ∀ entry ∈ entries, entry.isAdded → isAside entry.step)
    (hshares : ∀ entry ∈ entries, entry.isAdded = false → isShared entry.step)
    (hgoes : s.AddedGoOn builtins entries) (hs : s.Unhindered builtins (allSteps entries))
    (ht : t.Unhindered builtins (keptSteps entries)) :
    stoppedBy (takeSteps builtins (allSteps entries)) s =
        stoppedBy (takeSteps builtins (keptSteps entries)) t ∧
      R (stateAfter (takeSteps builtins (allSteps entries)) s)
        (stateAfter (takeSteps builtins (keptSteps entries)) t) ∧
      s.along observe builtins (allSteps entries) =
        t.along observe builtins (keptSteps entries) := by
  induction entries generalizing s t with
  | nil => exact ⟨rfl, hst, rfl⟩
  | cons entry rest ih =>
    have hasides' := fun e he => hasides e (List.mem_cons_of_mem _ he)
    have hshares' := fun e he => hshares e (List.mem_cons_of_mem _ he)
    have hall : allSteps (entry :: rest) = entry.step :: allSteps rest := rfl
    rw [hall] at hs ⊢
    cases hadded : entry.isAdded with
    | true =>
      -- Only the first run takes the step, and it goes on.
      have haside := hasides entry List.mem_cons_self hadded
      have hstep := eq_ok_of_stoppedBy
        (hgoes [] entry s (List.cons_prefix_cons.mpr ⟨rfl, List.nil_prefix⟩) hadded rfl)
      rw [keptSteps_cons_of_added hadded] at ht ⊢
      have hlater :=
        ih (hR.aside hst haside) hasides' hshares' (hgoes.rest hstep) (hs.rest hstep) ht
      rw [stoppedBy_congr (takeSteps_of_ok hstep _), stateAfter_congr (takeSteps_of_ok hstep _),
        along, hstep, hnothing hst haside]
      exact hlater
    | false =>
      rw [keptSteps_cons_of_kept hadded] at ht ⊢
      have hshared := hshares entry List.mem_cons_self hadded
      have hkept := hR.kept hst hshared
      have hstops := hR.stoppedBy_eq hst hshared (fun _ => hs.first) (fun _ => ht.first)
      rw [along, along, hsame hst hshared]
      cases hstop : stoppedBy (takeStep builtins entry.step) t with
      | none =>
        rw [hstop] at hstops
        have hstep := eq_ok_of_stoppedBy hstops
        have hstep' := eq_ok_of_stoppedBy hstop
        obtain ⟨hends, hafter, halong⟩ :=
          ih hkept hasides' hshares' (hgoes.rest hstep) (hs.rest hstep) (ht.rest hstep')
        rw [stoppedBy_congr (takeSteps_of_ok hstep _), stateAfter_congr (takeSteps_of_ok hstep _),
          stoppedBy_congr (takeSteps_of_ok hstep' _), stateAfter_congr (takeSteps_of_ok hstep' _),
          hstep, hstep']
        exact ⟨hends, hafter, congrArg _ halong⟩
      | some stop =>
        rw [hstop] at hstops
        have hstep := eq_error_of_stoppedBy hstops
        have hstep' := eq_error_of_stoppedBy hstop
        have hrun := takeSteps_of_error hstep (allSteps rest)
        have hrun' := takeSteps_of_error hstep' (keptSteps rest)
        rw [stoppedBy_of_error hrun, stateAfter_of_error hrun, stoppedBy_of_error hrun',
          stateAfter_of_error hrun', hstep, hstep']
        exact ⟨rfl, hkept, rfl⟩

theorem stoppedBy_of_entry {entry : Entry} {s₁ : Session} {stop : Stop}
    (hbefore : before ++ [entry] <+: entries)
    (hrun : takeSteps builtins (allSteps before) s = .ok () s₁)
    (hstop : stoppedBy (takeStep builtins entry.step) s₁ = some stop) :
    stoppedBy (takeSteps builtins (allSteps entries)) s = some stop := by
  obtain ⟨more, rfl⟩ := hbefore
  have hall : allSteps (before ++ [entry] ++ more) =
      allSteps before ++ entry.step :: allSteps more := by
    simp [allSteps]
  have hstep := takeSteps_of_error (eq_error_of_stoppedBy hstop) (allSteps more)
  rw [hall, stoppedBy_congr (takeSteps_append_of_ok hrun _), stoppedBy_of_error hstep]

theorem addedGoOn_of_finished (h : stoppedBy (takeSteps builtins (allSteps entries)) s = none) :
    s.AddedGoOn builtins entries := by
  intro before entry s₁ hbefore _ hrun
  cases hstop : stoppedBy (takeStep builtins entry.step) s₁ with
  | none => rfl
  | some stop =>
    rw [stoppedBy_of_entry hbefore hrun hstop] at h
    cases h

/-- What is taken from an observation piece by piece can be taken from each step's. -/
theorem hom_along {α β : Type} {g : List α → List β} (hnil : g [] = [])
    (happend : ∀ a b, g (a ++ b) = g a ++ g b) (observe : Session → Step → List α) (s : Session)
    (steps : List Step) :
    g (s.along observe builtins steps) =
      s.along (fun s step => g (observe s step)) builtins steps := by
  induction steps generalizing s with
  | nil => exact hnil
  | cons step rest ih =>
    simp only [along, happend]
    cases takeStep builtins step s with
    | ok u s₁ => simp only [ih]
    | error stop s₁ => simp only [hnil]

theorem along_congr {α : Type} {observe observe' : Session → Step → List α}
    (h : ∀ step ∈ steps, ∀ s, observe s step = observe' s step) (s : Session) :
    s.along observe builtins steps = s.along observe' builtins steps := by
  induction steps generalizing s with
  | nil => rfl
  | cons step rest ih =>
    have hrest := fun s => ih (fun next hnext => h next (List.mem_cons_of_mem step hnext)) s
    simp only [along, h step List.mem_cons_self s, hrest]

theorem exists_step_of_mem_along {α : Type} {observe : Session → Step → List α} {a : α}
    (h : a ∈ s.along observe builtins steps) :
    ∃ s₁ : Session, ∃ step ∈ steps, a ∈ observe s₁ step := by
  induction steps generalizing s with
  | nil => cases h
  | cons step rest ih =>
    rcases List.mem_append.mp h with hfirst | hlater
    · exact ⟨s, step, List.mem_cons_self, hfirst⟩
    · split at hlater
      · obtain ⟨s₁, next, hnext, ha⟩ := ih hlater
        exact ⟨s₁, next, List.mem_cons_of_mem step hnext, ha⟩
      · cases hlater

/-! ## Where debug output leads -/

/-- Debug output leads to the same place after a step that both sessions take. -/
theorem leadsAlike_takeStep (hs : s.location.isStray = false) (ht : t.location.isStray = false)
    (h : Outputs.LeadsAlike s.outputs t.outputs) (step : Step) :
    Outputs.LeadsAlike (stateAfter (takeStep builtins step) s).outputs
      (stateAfter (takeStep builtins step) t).outputs := by
  have hstay : ∀ {o o' : Outputs}, Outputs.Stays s.outputs o → Outputs.Stays t.outputs o' →
      Outputs.LeadsAlike o o' := fun hs ht =>
    (Outputs.LeadsAlike.of_stays hs).symm.trans (h.trans (.of_stays ht))
  cases step with
  | debugFile selector =>
    rcases h.redirect (.ofSelector selector) with ⟨o, o', ho, ho', halike⟩ | ⟨failure, ho, ho'⟩
    · rw [outputs_debugFile ho, outputs_debugFile ho']
      exact halike
    · exact hstay (debugFile_stays hs ho) (debugFile_stays ht ho')
  | _ => exact hstay (takeStep_stays hs (by simp)) (takeStep_stays ht (by simp))

/-- Debug output leads to the same place after a step that one of them takes alone, if it is not
redirected. -/
theorem leadsAlike_aside (hs : s.location.isStray = false)
    (h : Outputs.LeadsAlike s.outputs t.outputs) {step : Step}
    (hstep : ∀ selector, step ≠ .debugFile selector) :
    Outputs.LeadsAlike (stateAfter (takeStep builtins step) s).outputs t.outputs :=
  (Outputs.LeadsAlike.of_stays (takeStep_stays hs hstep)).symm.trans h

/-- A step opens no passage and closes none. -/
theorem samePassages_takeStep (hs : s.location.isStray = false) (builtins : Registry)
    (step : Step) :
    (stateAfter (takeStep builtins step) s).outputs.store.SamePassages s.outputs.store := by
  have hstay : ∀ {o : Outputs}, Outputs.Stays s.outputs o →
      o.store.SamePassages s.outputs.store := fun h => FileStore.samePassages_of_shape h.shape
  cases step with
  | debugFile selector =>
    cases hr : s.outputs.redirect (.ofSelector selector) with
    | ok o =>
      rw [outputs_debugFile hr]
      exact Outputs.redirect_samePassages hr
    | error failure => exact hstay (debugFile_stays hs hr)
  | _ => exact hstay (takeStep_stays hs (by simp))

/-! ## Mishaps -/

/-- In a replay no agreement is ever broken, so all that can go wrong is that a stream fails. -/
theorem unhindered_of_streams {config : Config} {outputs : Outputs}
    (h : ofConfig config outputs = .ok s) (hlen : steps.length < UInt64.size)
    (hstreams : ∀ doing cause,
      stoppedBy (takeSteps Registry.standard steps) s ≠ some (.failure (.system doing cause))) :
    s.Unhindered Registry.standard steps := by
  intro stop hstop
  cases stop with
  | panic breach =>
    obtain ⟨before, step, more, s₁, hsteps, hbefore, hstep⟩ :=
      exists_stopping_step (eq_error_of_stoppedBy hstop)
    have hprefix : before ++ [step] <+: steps := ⟨more, by rw [hsteps]; simp⟩
    obtain ⟨hreports, hroom⟩ := reports_before h hlen hprefix hbefore
    exact absurd hstep (hreports.no_breach hroom)
  | failure cause =>
    cases cause with
    | system doing cause => exact absurd hstop (hstreams doing cause)
    | _ => rfl
  | _ => rfl

/-! ## Endings -/

/-- How a replay ends, unless a stream fails. -/
theorem ending_eq {steps : List Step}
    (hended : ∀ doing cause, (s.replaySteps steps).1 ≠ .failed (.system doing cause)) :
    (s.replaySteps steps).1 = match stoppedBy (takeSteps Registry.standard steps) s with
      | none => .finished (stateAfter (takeSteps Registry.standard steps) s).reporter.status
      | some (.exit status) => .exited status
      | some (.failure cause) => .failed cause
      | some (.panic breach) => .panicked breach
      | some .abort => .aborted := by
  cases hrun : takeSteps Registry.standard steps s with
  | ok u s' =>
    rw [stoppedBy_of_ok hrun, stateAfter_of_ok hrun]
    unfold replaySteps at hended ⊢
    rw [hrun] at hended ⊢
    simp only at hended ⊢
    cases hflush : flushAll s' with
    | ok u' s'' =>
      have hwrites : s'.Writes (stateAfter flushAll s') := onTracer_writes _ s'
      rw [stateAfter_of_ok hflush] at hwrites
      rw [hwrites]
    | error cause s'' =>
      rw [hflush] at hended
      exact absurd rfl (hended _ cause)
  | error stop s' =>
    rw [stoppedBy_of_error hrun, replaySteps_of_error hrun]
    cases stop <;> rfl

/-- A replay ends with a flush if no step stops it, or one that asks for its end. -/
theorem replaySteps_flushes_last {steps : List Step}
    (h : ∀ stop, stoppedBy (takeSteps Registry.standard steps) s = some stop →
      ∃ status, stop = .exit status) :
    (s.replaySteps steps).2 =
      stateAfter flushAll (stateAfter (takeSteps Registry.standard steps) s) := by
  cases hrun : takeSteps Registry.standard steps s with
  | ok u s' =>
    rw [stateAfter_of_ok hrun]
    unfold replaySteps
    rw [hrun]
    simp only
    cases hlast : flushAll s' with
    | ok u' s'' => exact (stateAfter_of_ok hlast).symm
    | error cause s'' => exact (stateAfter_of_error hlast).symm
  | error stop s' =>
    obtain ⟨status, rfl⟩ := h stop (stoppedBy_of_error hrun)
    rw [stateAfter_of_error hrun, replaySteps_of_error hrun, afterFlush_eq]

/-- What is left to do after the steps of a replay is a flush, if anything. -/
theorem after_replaySteps (s : Session) (steps : List Step) :
    (s.replaySteps steps).2 = stateAfter (takeSteps Registry.standard steps) s ∨
      (s.replaySteps steps).2 =
        stateAfter flushAll (stateAfter (takeSteps Registry.standard steps) s) := by
  by_cases h : ∀ stop, stoppedBy (takeSteps Registry.standard steps) s = some stop →
      ∃ status, stop = .exit status
  · exact .inr (replaySteps_flushes_last h)
  · refine .inl ?_
    push Not at h
    obtain ⟨stop, hstop, hother⟩ := h
    rw [replaySteps_of_error (eq_error_of_stoppedBy hstop)]
    cases stop with
    | exit status => exact absurd rfl (hother status)
    | _ => rfl

/-- The last flush reports nothing. -/
theorem reporter_replaySteps (s : Session) (steps : List Step) :
    (s.replaySteps steps).2.reporter =
      (stateAfter (takeSteps Registry.standard steps) s).reporter := by
  rcases s.after_replaySteps steps with hafter | hafter
  · rw [hafter]
  · rw [hafter]
    have hwrites : (stateAfter (takeSteps Registry.standard steps) s).Writes
        (stateAfter flushAll (stateAfter (takeSteps Registry.standard steps) s)) :=
      onTracer_writes _ _
    rw [hwrites]

theorem not_aborted_of_ending {steps : List Step} (h : (s.replaySteps steps).1 ≠ .aborted) :
    stoppedBy (takeSteps Registry.standard steps) s ≠ some .abort := by
  intro hstop
  refine h ?_
  unfold replaySteps
  rw [eq_error_of_stoppedBy hstop]

theorem unhindered_of_ending {config : Config} {outputs : Outputs} {steps : List Step}
    (h : ofConfig config outputs = .ok s) (hlen : steps.length < UInt64.size)
    (hended : ∀ doing cause, (s.replaySteps steps).1 ≠ .failed (.system doing cause)) :
    s.Unhindered Registry.standard steps := by
  refine unhindered_of_streams h hlen fun doing cause hstop => hended doing cause ?_
  unfold replaySteps
  rw [eq_error_of_stoppedBy hstop]

end Session

end MacroTrace
