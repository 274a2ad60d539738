import MacroTrace.Proofs.StepEffect
/-!
# The order of words where both standard streams lead to one place

If standard output and standard error lead to one place, then debug output is never written there by
another way: it goes through standard output, or somewhere else (`Outputs.Shares`). Standard output
is flushed before every report. So whatever standard output holds back in between, everything
arrives in the order in which it was put into words (`Session.storage_in_order`).
-/

namespace MacroTrace

namespace Outputs

/-- Whether debug output leads to what has an identity. -/
def leadsTo (o : Outputs) (id : Identity) : Bool :=
  match o.active.outlet with
  | .port .out => o.outIdentity = some id
  | .port .err => o.errIdentity = some id
  | .file node => o.store.identity? node = some id
  | .nowhere => false

/-- Both standard streams lead to one place, and debug output only through standard output if at
all: neither through standard error nor as to a file. -/
structure Shares (o : Outputs) (id : Identity) : Prop where
  out : o.outIdentity = some id
  err : o.errIdentity = some id
  notErr : o.active.outlet ≠ .port .err
  notFile : ∀ node, o.active.outlet = .file node → o.store.identity? node ≠ some id

theorem Shares.leadsTo_iff {o : Outputs} {id : Identity} (h : o.Shares id) :
    o.leadsTo id ↔ o.active.outlet = .port .out := by
  unfold leadsTo
  cases ha : o.active.outlet with
  | port p =>
    cases p with
    | out => simp [h.out]
    | err => exact absurd ha h.notErr
  | file node => simp [h.notFile node ha]
  | nowhere => simp

/-- What becomes the destination never leads to the shared place by another way. -/
theorem adopt_shares {o : Outputs} {id : Identity} {next : Destination}
    (hheld : ∀ w, next = .file w → w.held = []) (hout : o.outIdentity = some id)
    (herr : o.errIdentity = some id) : (o.adopt next).Shares id := by
  rw [adopt_eq hheld]
  by_cases hshadowed : isShadowed { o with active := next, store := o.active.close o.store }
  · simp only [hshadowed, if_true]
    exact ⟨hout, herr, by simp [Destination.outlet], by simp [Destination.outlet]⟩
  · simp only [hshadowed, Bool.false_eq_true, if_false]
    unfold isShadowed activeIdentity at hshadowed
    simp only [hout] at hshadowed
    refine ⟨hout, herr, ?_, ?_⟩
    · intro hnext
      cases next with
      | stderr => simp [herr] at hshadowed
      | _ => simp [Destination.outlet] at hnext
    · intro node hnext hsame
      cases next with
      | file w =>
        have hnode : w.node = node := by simpa [Destination.outlet] using hnext
        rw [← hnode] at hsame
        simp only [show (o.active.close o.store).identity? w.node = some id from hsame,
          decide_true, not_true_eq_false] at hshadowed
      | _ => simp [Destination.outlet] at hnext

/-- Between two states of the outputs, what is in the files that both standard streams lead to has
stayed, and debug output still does not lead there by another way. -/
structure Spares (id : Identity) (o o' : Outputs) : Prop where
  shares : o'.Shares id
  identity : o'.store.identity? = o.store.identity?
  bytes : ∀ node, o.store.identity? node = some id →
    o'.store.bytesAt node = o.store.bytesAt node

variable {id : Identity} {o o' o'' : Outputs}

theorem Spares.refl (h : o.Shares id) : Spares id o o := ⟨h, rfl, fun _ _ => rfl⟩

theorem Spares.trans (h : Spares id o o') (h' : Spares id o' o'') : Spares id o o'' where
  shares := h'.shares
  identity := h'.identity.trans h.identity
  bytes node hnode := by
    have hnode' : o'.store.identity? node = some id := by
      rw [h.identity, hnode]
    rw [h'.bytes node hnode', h.bytes node hnode]

theorem Stays.spares (h : Stays o o') (hshares : o.Shares id) : Spares id o o' where
  shares := by
    refine ⟨h.outIdentity.trans hshares.out, h.errIdentity.trans hshares.err, ?_, ?_⟩
    · rw [h.outlet]
      exact hshares.notErr
    · intro node hnode
      rw [h.outlet] at hnode
      rw [h.identity]
      exact hshares.notFile node hnode
  identity := h.identity
  bytes node hnode := h.others node fun houtlet => hshares.notFile node houtlet hnode

theorem redirect_spares {target : DebugTarget} (h : o.redirect target = .ok o')
    (hshares : o.Shares id) : Spares id o o' := by
  obtain ⟨next, hheld, -, rfl⟩ := redirect_eq_ok h
  refine ⟨adopt_shares hheld hshares.out hshares.err, ?_, fun node hnode => ?_⟩
  · rw [store_adopt hheld, Destination.identity?_close]
    exact identity?_opened o target
  · have hne : o.active.outlet ≠ .file node := fun houtlet => hshares.notFile node houtlet hnode
    rw [store_adopt hheld, Destination.bytesAt_close_other hne]
    exact bytesAt_opened o target node

end Outputs

/-! ## The order of utterances -/

theorem Ports.orderly_carried_out (holds colours : Bool) (requests : List Request) :
    Event.orderly holds (carried .out colours requests) := by
  unfold carried
  induction requests.filter (!·.isVoid) generalizing holds with
  | nil => rfl
  | cons request rest ih =>
    rw [List.map_cons]
    cases request <;> exact Bool.and_eq_true_iff.mpr ⟨rfl, ih _⟩

theorem Ports.holdsAfter_carried_err (holds colours : Bool) (requests : List Request) :
    (carried .err colours requests).foldl Event.holdsAfter holds = holds := by
  unfold carried
  induction requests.filter (!·.isVoid) with
  | nil => rfl
  | cons request rest ih =>
    rw [List.map_cons, List.foldl_cons]
    cases request <;> exact ih

/-- Standard error may be written as long as standard output holds nothing. -/
theorem Ports.orderly_carried_err (colours : Bool) (requests : List Request) :
    Event.orderly false (carried .err colours requests) := by
  unfold carried
  induction requests.filter (!·.isVoid) with
  | nil => rfl
  | cons request rest ih =>
    rw [List.map_cons]
    cases request <;> exact Bool.and_eq_true_iff.mpr ⟨rfl, ih⟩

theorem Ports.carried_flush (p : Port) (colours : Bool) :
    carried p colours [.flush] = [.flushed p] := rfl

namespace Utterance

variable {outlet : Outlet} {colours : Bool}

theorem orderly_events (hnotErr : outlet ≠ .port .err) (holds : Bool) (u : Utterance) :
    Event.orderly holds (u.events outlet colours) := by
  have herr : ∀ colours requests,
      Event.orderly false (Ports.carried .err colours requests) = true :=
    Ports.orderly_carried_err
  cases u with
  | printed text => exact Ports.orderly_carried_out holds false _
  | debug bytes =>
    unfold events
    cases outlet with
    | port p =>
      cases p with
      | out => exact Ports.orderly_carried_out holds false _
      | err => exact absurd rfl hnotErr
    | _ => rfl
  | report d =>
    simp [events, Ports.carried_flush, Event.orderly, Event.holdsAfter, herr]
  | flush => rfl
  | alarm program message =>
    simp [events, Ports.carried_flush, Event.orderly, Event.holdsAfter, herr]

theorem bytes_events (hnotErr : outlet ≠ .port .err) (u : Utterance) :
    (u.events outlet colours).flatMap Event.bytes =
      u.bytes (outlet = .port .out) colours := by
  have hout : ∀ bytes, (Ports.carried .out false [.write bytes]).flatMap Event.bytes = bytes := by
    intro bytes
    simp [Ports.bytes_carried, Request.bytes]
  cases u with
  | printed text => exact hout _
  | debug bytes =>
    unfold events Utterance.bytes
    cases outlet with
    | port p =>
      cases p with
      | out => simpa using hout bytes
      | err => exact absurd rfl hnotErr
    | _ => simp
  | report d =>
    simp [events, Utterance.bytes, Ports.carried_flush, Event.bytes, Ports.bytes_carried,
      Diagnostic.bytes_requests]
  | flush => rfl
  | alarm program message =>
    simp [events, Utterance.bytes, Ports.carried_flush, Event.bytes, Ports.bytes_carried,
      bytes_alarmRequests]

/-- After these utterances standard output holds nothing. -/
theorem holdsAfter_settling {u : Utterance} (holds : Bool)
    (h : (∃ d, u = .report d) ∨ u = .flush ∨ ∃ program message, u = .alarm program message) :
    (u.events outlet colours).foldl Event.holdsAfter holds = false := by
  rcases h with ⟨d, rfl⟩ | rfl | ⟨program, message, rfl⟩
  · simp [events, Ports.carried_flush, Event.holdsAfter, Ports.holdsAfter_carried_err]
  · rfl
  · simp [events, Ports.carried_flush, Event.holdsAfter, Ports.holdsAfter_carried_err]

end Utterance

/-! ## The order of steps -/

namespace Session

variable {s s' s'' : Session} {id : Identity}

/-- What the words of a step come to where both standard streams lead. -/
def wordsOf (s : Session) (id : Identity) (utterances : List Utterance) : Bytes :=
  utterances.flatMap
    (·.bytes (s.outputs.leadsTo id) s.outputs.ports.err.colours)

/-- What all steps of a run put into words, in order. -/
def chronicle (s : Session) (id : Identity) (builtins : Registry) : List Step → Bytes
  | [] => []
  | step :: rest =>
    s.wordsOf id (s.utterances builtins step) ++ match takeStep builtins step s with
      | .ok () s => s.chronicle id builtins rest
      | .error _ _ => []

/-- Between two sessions, exactly these words have gone through the standard streams, in an order
that no buffering can spoil; if `isSettled` is set, nothing can be held back in the end. -/
structure Words (id : Identity) (words : Bytes) (isSettled : Bool) (s s' : Session) : Prop where
  log : ∃ events, Ports.Follows events s.outputs.ports s'.outputs.ports ∧
    events.flatMap Event.bytes = words ∧ (∀ holds, Event.orderly holds events) ∧
    (isSettled → ∀ holds, events.foldl Event.holdsAfter holds = false)
  spares : Outputs.Spares id s.outputs s'.outputs
  placed : s'.location.isStray = false

theorem Words.refl (hshares : s.outputs.Shares id) (hplaced : s.location.isStray = false) :
    Words id [] false s s where
  log := ⟨[], .refl _, rfl, fun _ => rfl, fun h => by cases h⟩
  spares := .refl hshares
  placed := hplaced

theorem Words.trans {a b : Bytes} {isSettled isSettled' : Bool} (h : Words id a isSettled s s')
    (h' : Words id b isSettled' s' s'') : Words id (a ++ b) isSettled' s s'' := by
  obtain ⟨events, hfollows, hbytes, horderly, -⟩ := h.log
  obtain ⟨events', hfollows', hbytes', horderly', hsettled'⟩ := h'.log
  refine ⟨⟨events ++ events', hfollows.trans hfollows', ?_, fun holds => ?_, fun hs holds => ?_⟩,
    h.spares.trans h'.spares, h'.placed⟩
  · rw [List.flatMap_append, hbytes, hbytes']
  · rw [Event.orderly_append, horderly, horderly']
    rfl
  · rw [List.foldl_append]
    exact hsettled' hs _

theorem orderly_eventsOf (hshares : s.outputs.Shares id) (utterances : List Utterance)
    (holds : Bool) : Event.orderly holds (s.eventsOf utterances) := by
  induction utterances generalizing holds with
  | nil => rfl
  | cons u rest ih =>
    rw [← List.singleton_append, eventsOf_append, Event.orderly_append, ih, Bool.and_true]
    unfold eventsOf
    rw [List.flatMap_singleton]
    exact u.orderly_events hshares.notErr holds

theorem bytes_eventsOf (hshares : s.outputs.Shares id) (utterances : List Utterance) :
    (s.eventsOf utterances).flatMap Event.bytes = s.wordsOf id utterances := by
  have hleads : s.outputs.leadsTo id = decide (s.outputs.active.outlet = .port .out) := by
    rw [Bool.eq_iff_iff, decide_eq_true_eq]
    exact hshares.leadsTo_iff
  unfold eventsOf wordsOf
  rw [List.flatMap_assoc, hleads]
  congr 1
  funext u
  exact u.bytes_events hshares.notErr

/-! ### One step -/

/-- No step makes debug output lead to the shared place by another way. -/
theorem takeStep_spares (hshares : s.outputs.Shares id) (hplaced : s.location.isStray = false)
    (builtins : Registry) (step : Step) :
    Outputs.Spares id s.outputs (stateAfter (takeStep builtins step) s).outputs := by
  cases step with
  | debugFile selector =>
    cases hr : s.outputs.redirect (.ofSelector selector) with
    | ok outputs =>
      rw [outputs_debugFile hr]
      exact Outputs.redirect_spares hr hshares
    | error failure => exact (debugFile_stays hplaced hr).spares hshares
  | _ => exact (takeStep_stays hplaced (by simp)).spares hshares

theorem whileDoing_ne_abort {doing : String} {action : EStateM SystemError Session Unit} :
    whileDoing doing action s ≠ .error .abort s' := by
  unfold whileDoing mapError
  intro h
  split at h <;> cases h

/-- Only over a call that it cannot trace does the program end itself. -/
theorem work_abort {builtins : Registry} {step : Step}
    (h : s.work builtins step s = .error .abort s') :
    ∃ message, s.workUtterances builtins step = [.alarm s.program message] := by
  cases step with
  | trace phase traced =>
    have hcall : traceCall builtins phase traced s = .error .abort s' := h
    rcases traceCall_cases builtins phase traced s with ⟨bytes, s₁, -, hends, -⟩ |
      ⟨s₁, -, hends, -⟩ | ⟨message, s₁, hwords, -, -⟩
    · exact absurd hcall hends.ne_abort
    · exact absurd hcall hends.ne_abort
    · exact ⟨message, hwords⟩
  | location position =>
    have hmove : moveTo position s = .error .abort s' := h
    unfold moveTo at hmove
    cases hstray : position.isStray <;> rw [hstray] at hmove <;> cases hmove
  | debugMode flags =>
    simp only [work] at h
    cases hdecode : Level.decode flags <;> rw [hdecode] at h <;> cases h
  | debugFile selector =>
    simp only [work] at h
    cases hopen : s.outputs.redirect (.ofSelector selector) <;> rw [hopen] at h <;> cases h
  | numeric check =>
    simp only [work] at h
    cases hvalue : check.value? s.blanks with
    | some value =>
      rw [hvalue] at h
      exact absurd h whileDoing_ne_abort
    | none =>
      rw [hvalue] at h
      cases h
  | error report => cases h
  | warn report => cases h
  | _ => exact absurd h whileDoing_ne_abort

/-- A step that stops the run, but not for a failure, leaves nothing behind in standard output. -/
theorem utterances_settle {builtins : Registry} {step : Step} {stop : Stop}
    (hplaced : s.location.isStray = false) (h : takeStep builtins step s = .error stop s')
    (hstop : ∀ cause, stop ≠ .failure cause) (holds : Bool) :
    (s.eventsOf (s.utterances builtins step)).foldl Event.holdsAfter holds = false := by
  have hone : ∀ u : Utterance,
      ((∃ d, u = .report d) ∨ u = .flush ∨ ∃ program message, u = .alarm program message) →
      (s.eventsOf [u]).foldl Event.holdsAfter holds = false := by
    intro u hu
    unfold eventsOf
    rw [List.flatMap_singleton]
    exact u.holdsAfter_settling holds hu
  unfold utterances
  cases hc : s.complaint? step with
  | none =>
    rw [takeStep_of_no_complaint hc] at h
    rcases (work_quiet s builtins step s).stop stop s' h with ⟨cause, hcause⟩ | habort
    · exact absurd hcause (hstop cause)
    · rw [habort] at h
      obtain ⟨message, hwords⟩ := work_abort h
      simp only [hwords]
      exact hone _ (.inr (.inr ⟨_, _, rfl⟩))
  | some c =>
    simp only
    cases hv : (s.reporter.note c).1 with
    | error ended =>
      have hdrops : s.drops c = false := by
        cases hd : s.drops c with
        | false => rfl
        | true =>
          rw [note_of_drops hd] at hv
          cases hv
      simp only [hdrops, Bool.false_eq_true, if_false, List.append_nil]
      exact hone _ (.inl ⟨_, rfl⟩)
    | ok _ =>
      -- The run has gone on after the complaint; what is left to print can only fail.
      rw [takeStep_of_complaint hplaced hc hv] at h
      rcases work_of_complaint builtins hc with ⟨hwork, -⟩ | ⟨text, hwork, -⟩
      · rw [hwork] at h
        cases h
      · rw [hwork] at h
        rcases (print_quiet text _).stop stop s' h with ⟨cause, hcause⟩ | habort
        · exact absurd hcause (hstop cause)
        · rw [habort] at h
          exact absurd h whileDoing_ne_abort

theorem takeStep_words (hshares : s.outputs.Shares id) (hplaced : s.location.isStray = false)
    (builtins : Registry) (step : Step) {isSettled : Bool}
    (hsettled : isSettled → ∃ stop s', takeStep builtins step s = .error stop s' ∧
      ∀ cause, stop ≠ .failure cause) :
    Words id (s.wordsOf id (s.utterances builtins step)) isSettled s
      (stateAfter (takeStep builtins step) s) := by
  refine ⟨⟨_, takeStep_follows hplaced builtins step, bytes_eventsOf hshares _,
    orderly_eventsOf hshares _, fun hs holds => ?_⟩, takeStep_spares hshares hplaced builtins step,
    placed_takeStep hplaced⟩
  obtain ⟨stop, s', hstep, hstop⟩ := hsettled hs
  exact utterances_settle hplaced hstep hstop holds

/-! ### All steps -/

theorem takeSteps_words (hshares : s.outputs.Shares id) (hplaced : s.location.isStray = false)
    (builtins : Registry) (steps : List Step) {isSettled : Bool}
    (hsettled : isSettled → ∃ stop s', takeSteps builtins steps s = .error stop s' ∧
      ∀ cause, stop ≠ .failure cause) :
    Words id (s.chronicle id builtins steps) isSettled s
      (stateAfter (takeSteps builtins steps) s) := by
  -- What one step hands on to the next is that debug output leads there by no other way; only the
  -- step that stops the run has to settle anything.
  induction steps generalizing s with
  | nil =>
    cases isSettled with
    | false => exact .refl hshares hplaced
    | true =>
      obtain ⟨stop, s', hrun, -⟩ := hsettled rfl
      cases hrun
  | cons step rest ih =>
    rw [chronicle]
    cases hstep : takeStep builtins step s with
    | ok u s₁ =>
      have hfirst : Words id _ false s (stateAfter (takeStep builtins step) s) :=
        takeStep_words hshares hplaced builtins step fun h => by cases h
      rw [stateAfter_of_ok hstep] at hfirst
      rw [stateAfter_congr (takeSteps_of_ok hstep rest)]
      rw [takeSteps_of_ok hstep] at hsettled
      exact hfirst.trans (ih hfirst.spares.shares hfirst.placed hsettled)
    | error stop s₁ =>
      have hrun := takeSteps_of_error hstep rest
      rw [stateAfter_of_error hrun, ← stateAfter_of_error hstep]
      simp only [List.append_nil]
      refine takeStep_words hshares hplaced builtins step fun hs => ?_
      obtain ⟨stop', s', hrun', hstop⟩ := hsettled hs
      rw [hrun] at hrun'
      cases hrun'
      exact ⟨stop, s₁, hstep, hstop⟩

/-- A flush says nothing, and leaves nothing behind in standard output. -/
theorem flushAll_words (hshares : s.outputs.Shares id) (hplaced : s.location.isStray = false) :
    Words id [] true s (stateAfter flushAll s) := by
  have hwrites : s.Writes (stateAfter flushAll s) := onTracer_writes _ s
  refine ⟨⟨_, flush_follows s, bytes_eventsOf hshares [.flush], orderly_eventsOf hshares _,
    fun _ holds => ?_⟩, (onOutputs_stays Outputs.flushAll_stays s).spares hshares, ?_⟩
  · unfold eventsOf
    rw [List.flatMap_singleton]
    exact Utterance.flush.holdsAfter_settling holds (.inr (.inl rfl))
  · rw [hwrites]
    exact hplaced

theorem afterFlush_eq (s : Session) : s.afterFlush = stateAfter flushAll s := by
  unfold afterFlush stateAfter
  cases flushAll s <;> rfl

/-- A replay that does not fail says what its steps say, and leaves nothing behind in standard
output. -/
theorem replaySteps_words (hshares : s.outputs.Shares id) (hplaced : s.location.isStray = false)
    {steps : List Step} (hended : ∀ cause, (s.replaySteps steps).1 ≠ .failed cause) :
    Words id (s.chronicle id Registry.standard steps) true s (s.replaySteps steps).2 := by
  have hopen : Words id (s.chronicle id Registry.standard steps) false s
      (stateAfter (takeSteps Registry.standard steps) s) :=
    takeSteps_words hshares hplaced Registry.standard steps fun h => by cases h
  cases hrun : takeSteps Registry.standard steps s with
  | ok u s' =>
    rw [stateAfter_of_ok hrun] at hopen
    have hflush := hopen.trans (flushAll_words hopen.spares.shares hopen.placed)
    rw [List.append_nil] at hflush
    unfold replaySteps at hended ⊢
    rw [hrun] at hended ⊢
    simp only at hended ⊢
    cases hlast : flushAll s' with
    | ok u' s'' =>
      rw [stateAfter_of_ok hlast] at hflush
      exact hflush
    | error cause s'' =>
      rw [hlast] at hended
      exact absurd rfl (hended _)
  | error stop s' =>
    have hclosed : (∀ cause, stop ≠ .failure cause) →
        Words id (s.chronicle id Registry.standard steps) true s s' := by
      intro hstop
      rw [← stateAfter_of_error hrun]
      exact takeSteps_words hshares hplaced Registry.standard steps fun _ => ⟨stop, s', hrun, hstop⟩
    rw [stateAfter_of_error hrun] at hopen
    rw [replaySteps_of_error hrun] at hended ⊢
    cases stop with
    | exit status =>
      have hflush := hopen.trans (flushAll_words hopen.spares.shares hopen.placed)
      rw [List.append_nil, ← afterFlush_eq] at hflush
      exact hflush
    | failure cause => exact absurd rfl (hended cause)
    | panic breach => exact hclosed fun cause h => by cases h
    | abort => exact hclosed fun cause h => by cases h

/-! ## The shared place -/

/-- At the start nothing has been said, and debug output leads through standard output to the shared
place, or elsewhere. -/
theorem ofConfig_words {config : Config} {ports : Ports} {store : FileStore}
    (h : ofConfig config (.start ports store (some id) (some id)) = .ok s) :
    s.outputs.Shares id ∧ s.location.isStray = false ∧ s.outputs.ports.log = ports.log ∧
      s.outputs.store.identity? = store.identity? ∧
      ∀ node, store.identity? node = some id →
        s.outputs.store.bytesAt node = store.bytesAt node := by
  have hstart : (Outputs.start ports store (some id) (some id)).Shares id :=
    Outputs.adopt_shares (by simp) rfl rfl
  have hstore : (Outputs.start ports store (some id) (some id)).store = store :=
    Outputs.store_adopt (by simp) _
  have hports : (Outputs.start ports store (some id) (some id)).ports = ports :=
    Outputs.ports_start ..
  obtain ⟨level, outputs, rfl, hsame | ⟨target, hredirect⟩⟩ := ofConfig_eq_ok h
  · rw [hsame]
    refine ⟨hstart, rfl, congrArg Ports.log hports, ?_, fun node _ => ?_⟩
    · show (Outputs.start ports store (some id) (some id)).store.identity? = _
      rw [hstore]
    · show (Outputs.start ports store (some id) (some id)).store.bytesAt node = _
      rw [hstore]
  · have hspares := Outputs.redirect_spares hredirect hstart
    have hidentity := hspares.identity
    have hbytes := hspares.bytes
    rw [hstore] at hidentity hbytes
    have hlog := (Outputs.log_redirect hredirect).trans (congrArg Ports.log hports)
    exact ⟨hspares.shares, rfl, hlog, hidentity, hbytes⟩

theorem closedStore_spares {o : Outputs} (hshares : o.Shares id) {node : Nat}
    (hnode : o.store.identity? node = some id) :
    o.closedStore.bytesAt node = o.store.bytesAt node :=
  Destination.bytesAt_close_other (fun houtlet => hshares.notFile node houtlet hnode) o.store

/-- If both standard streams lead to one place, then everything arrives there in the order in which
it was put into words: what the processor prints, debug output that leads there, and reports. It
makes no difference where debug output is sent in between and by which path, nor what standard
output holds back until it is flushed, nor how the replay ends, as long as no stream refuses
anything and the replay does not fail. In the end nothing is held back; what is in the file that
both streams lead to is what was in it at first, and behind it what has arrived. -/
theorem storage_in_order {config : Config} {ports : Ports} {store : FileStore}
    (h : ofConfig config (.start ports store (some id) (some id)) = .ok s)
    (hfresh : ports.log = #[]) {steps : List Step}
    (hended : ∀ cause, (s.replaySteps steps).1 ≠ .failed cause)
    (hunrefused : (s.replaySteps steps).2.outputs.ports.Unrefused)
    {arrivals : List Arrival} {held : Bytes}
    (hland : Lands [] (s.replaySteps steps).2.outputs.ports.log.toList arrivals held) :
    let final := (s.replaySteps steps).2.outputs
    let words := s.chronicle id Registry.standard steps
    held = [] ∧ Arrival.together arrivals = words ∧
      ∀ node, store.identity? node = some id →
        final.store.bytesAt node ++ Arrival.together arrivals = store.bytesAt node ++ words ∧
        final.closedStore.bytesAt node ++ Arrival.together arrivals =
          store.bytesAt node ++ words := by
  intro final words
  obtain ⟨hshares, hplaced, hnew, hidentity, hstored⟩ := ofConfig_words h
  have hwords := replaySteps_words hshares hplaced hended
  obtain ⟨events, hfollows, hbytes, horderly, hsettled⟩ := hwords.log
  have hlog : final.ports.log.toList = events := by
    have hadded := hfollows.log hunrefused
    rw [hnew, hfresh] at hadded
    simpa using hadded
  rw [hlog] at hland
  obtain ⟨harrived, hnothing⟩ := hland.in_order (horderly false) fun _ => rfl
  have hheld : held = [] := hnothing (hsettled rfl false)
  have htogether : Arrival.together arrivals = words := by
    rw [hheld, List.append_nil, List.nil_append, hbytes] at harrived
    exact harrived
  refine ⟨hheld, htogether, fun node hnode => ?_⟩
  have hbefore : s.outputs.store.identity? node = some id := by
    rw [hidentity, hnode]
  have hafter : final.store.identity? node = some id := by
    rw [hwords.spares.identity, hbefore]
  have hsame : final.store.bytesAt node = store.bytesAt node := by
    rw [hwords.spares.bytes node hbefore, hstored node hnode]
  have hclosed := closedStore_spares hwords.spares.shares hafter
  refine ⟨?_, ?_⟩
  · rw [hsame, htogether]
  · rw [hclosed, hsame, htogether]

/-- A file that is also reached by a link; both standard streams lead to it. -/
def sharedFile : FileStore :=
  ⟨#[.directory 0 [("log", 1), ("link", 2)], .regular (Utf8.encode "x"), .link "log"], 0, 0, 7, []⟩

/-- A session at the start whose standard streams lead to this file. -/
def sharingSession : Session := start (.start {} sharedFile (some ⟨7, 1⟩) (some ⟨7, 1⟩))

/-- Debug output goes to the shared file by its link, to another file, and back. -/
def sharingScript : List Step :=
  [.output "a", .debugFile (some "link"), .message "b", .debugFile (some "other"), .message "c",
    .error { text := "d" }, .debugFile none, .trace .prepre { call := { name := "f" } },
    .output "e"]

theorem storage_in_order_link :
    ofConfig {} (.start {} sharedFile (some ⟨7, 1⟩) (some ⟨7, 1⟩)) = .ok sharingSession ∧
      (∀ cause, (sharingSession.replaySteps sharingScript).1 ≠ .failed cause) ∧
      (sharingSession.replaySteps sharingScript).2.outputs.ports.Unrefused ∧
      (sharingSession.replaySteps sharingScript).2.outputs.closedStore.bytesAt 1 ++
          Arrival.together (land .byLine []
            (sharingSession.replaySteps sharingScript).2.outputs.ports.log.toList).1 =
        Utf8.encode "xam4 debug: b\nm4: d\nm4trace: -1- f ...\ne" := by
  have hconfig : ofConfig {} (.start {} sharedFile (some ⟨7, 1⟩) (some ⟨7, 1⟩)) =
      .ok sharingSession := rfl
  have hrun :
      (let run := sharingSession.replaySteps sharingScript
       (run.1 = .finished .failure) && (run.2.outputs.ports.out.past.all (·.2 = .done)
        && run.2.outputs.ports.err.past.all (·.2 = .done))) = true := by cbv
  obtain ⟨hending, hdone⟩ := Bool.and_eq_true_iff.mp hrun
  obtain ⟨hout, herr⟩ := Bool.and_eq_true_iff.mp hdone
  have hended : ∀ cause, (sharingSession.replaySteps sharingScript).1 ≠ .failed cause := by
    intro cause h
    rw [of_decide_eq_true hending] at h
    cases h
  have hunrefused : (sharingSession.replaySteps sharingScript).2.outputs.ports.Unrefused := by
    intro p answered ha
    cases p with
    | out => exact of_decide_eq_true (List.all_eq_true.mp hout answered ha)
    | err => exact of_decide_eq_true (List.all_eq_true.mp herr answered ha)
  obtain ⟨-, -, hfile⟩ :=
    storage_in_order hconfig rfl hended hunrefused (lands_land .byLine [] _)
  refine ⟨hconfig, hended, hunrefused, ?_⟩
  rw [(hfile 1 rfl).2]
  cbv

end Session

end MacroTrace
