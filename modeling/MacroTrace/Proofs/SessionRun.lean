import MacroTrace.Proofs.FailedChange
/-!
# Sessions that a caller goes on with

A caller of a session need not stop when an operation fails or asks for the end of the run. What a
caller can do is a `SessionAct`, and a run of the session is any list of them, each done whatever
has become of those before. The debug file gets what is written as debug output while it is open,
and between the file and the bytes held back from it nothing of this is lost, as long as the file
takes what it is given (`Session.due_afterAll`). The standard streams may do what they like.
-/

namespace MacroTrace

theorem forall_prefix_of_all {α : Type} {p : List α → Prop} [DecidablePred p] {l : List α}
    (h : l.inits.all fun before => p before) : ∀ before, before <+: l → p before :=
  fun before hbefore =>
    of_decide_eq_true (List.all_eq_true.mp h before ((List.mem_inits ..).mpr hbefore))

/-! ## Files that take everything -/

/-- A file takes whatever is appended to it. -/
def FileStore.Takes (s : FileStore) (node : Nat) : Prop :=
  ∀ bytes, ∃ s', s.append node bytes = .ok s'

namespace FileStore

theorem takes_iff (s : FileStore) (node : Nat) :
    s.Takes node ↔ ∃ contents, s.nodes[node]? = some (.regular contents) := by
  constructor
  · intro h
    obtain ⟨s', hs'⟩ := h [0]
    unfold append at hs'
    split at hs'
    · rename_i contents hc
      exact ⟨contents, hc⟩
    · cases hs'
    · cases hs'
  · rintro ⟨contents, hc⟩ bytes
    unfold append
    rw [hc]
    exact ⟨_, rfl⟩

instance (s : FileStore) (node : Nat) : Decidable (s.Takes node) :=
  match h : s.nodes[node]? with
  | some (.regular contents) => .isTrue ((s.takes_iff node).mpr ⟨contents, h⟩)
  | some (.directory _ _) | some (.link _) | some .full | none =>
    .isFalse fun htakes => by
      obtain ⟨contents, hc⟩ := (s.takes_iff node).mp htakes
      rw [h] at hc
      cases hc

/-- Whether a file takes everything is a matter of which files there are. -/
theorem Takes.of_shape {s s' : FileStore} {node : Nat} (h : s.Takes node)
    (hshape : s'.shape = s.shape) : s'.Takes node := by
  rw [takes_iff] at h ⊢
  obtain ⟨contents, hc⟩ := h
  have hnodes : s'.nodes.map Node.shape = s.nodes.map Node.shape := congrArg FileStore.nodes hshape
  have hnode : (s'.nodes[node]?).map Node.shape = some (.regular []) := by
    rw [← Array.getElem?_map, hnodes, Array.getElem?_map, hc]
    rfl
  obtain ⟨found, hfound, hregular⟩ := Option.map_eq_some_iff.mp hnode
  cases found with
  | regular contents' => exact ⟨contents', hfound⟩
  | _ => cases hregular

theorem Takes.create {s : FileStore} {node : Nat} (h : s.Takes node) (directory : Nat)
    (name : String) : (s.create directory name (.regular [])).Takes node := by
  rw [takes_iff] at h ⊢
  obtain ⟨contents, hc⟩ := h
  have hlt : node < s.nodes.size := (Array.getElem?_eq_some_iff.mp hc).1
  have hne : node ≠ s.nodes.size := Nat.ne_of_lt hlt
  refine ⟨contents, ?_⟩
  simp only [FileStore.create, Array.getElem?_push, Array.size_modify, hne, if_false,
    Array.getElem?_modify, hc]
  by_cases hd : directory = node <;> simp [hd]

theorem Takes.openAppend {s s' : FileStore} {node opened : Nat} {path : String} (h : s.Takes node)
    (hopen : s.openAppend path = .ok (opened, s')) : s'.Takes node := by
  rcases openAppend_cases hopen with rfl | ⟨directory, name, rfl⟩
  · exact h
  · exact h.create directory name

end FileStore

namespace FileWriter

variable {w : FileWriter} {s : FileStore}

theorem flush_of_takes (h : s.Takes w.node) : (w.flush s).1 = .ok () := by
  unfold flush
  split
  · rfl
  · obtain ⟨s', hs'⟩ := h w.held
    rw [hs']

theorem put_of_takes (h : s.Takes w.node) (bytes : Bytes) : (w.put bytes s).1 = .ok () := by
  unfold put
  split
  · obtain ⟨s', hs'⟩ := h bytes
    rw [hs']
  · rfl

theorem write_of_takes (h : s.Takes w.node) (bytes : Bytes) : (w.write bytes s).1 = .ok () := by
  unfold write
  split
  · rfl
  · rw [writeLarge_eq]
    split
    · have hadds := w.flush_adds s
      have hlater : (w.flush s).2.2.Takes (w.flush s).2.1.node := by
        rw [hadds.node]
        exact h.of_shape hadds.shape
      rw [flush_of_takes h]
      exact put_of_takes hlater bytes
    · exact put_of_takes h bytes

end FileWriter

namespace Outputs

/-- If debug output goes to the file of this number, then the file takes it. -/
def Accepts (node : Nat) (o : Outputs) : Prop :=
  o.active.outlet = .file node → o.store.Takes node

instance (node : Nat) (o : Outputs) : Decidable (Accepts node o) :=
  inferInstanceAs (Decidable (o.active.outlet = .file node → o.store.Takes node))

variable {node : Nat} {o o' : Outputs}

theorem accepts_of_outlet (houtlet : o.active.outlet = .port .err ∨ o.active.outlet = .file node)
    (h : Accepts node o) : ∀ other, Accepts other o := by
  intro other hother
  rcases houtlet with hport | hfile
  · rw [hport] at hother
    cases hother
  · rw [hfile] at hother
    cases hother
    exact h hfile

theorem Accepts.stays (h : Accepts node o) (hstays : Stays o o') : Accepts node o' := by
  intro houtlet
  rw [hstays.outlet] at houtlet
  exact (h houtlet).of_shape hstays.shape

/-- As long as debug output goes elsewhere, nothing changes for a file. -/
theorem Stays.due (h : Stays o o') (houtlet : o.active.outlet ≠ .file node) :
    o'.due node = o.due node := by
  have houtlet' : o'.active.outlet ≠ .file node := by
    rw [h.outlet]
    exact houtlet
  unfold Outputs.due
  rw [h.others node houtlet, Destination.heldFor_of_outlet_ne houtlet,
    Destination.heldFor_of_outlet_ne houtlet']

/-- A file that takes everything refuses no debug output. -/
theorem write_of_accepts (h : Accepts node o) (houtlet : o.active.outlet = .file node)
    (bytes : Bytes) : ∃ o', write bytes o = .ok () o' := by
  obtain ⟨writer, hwriter, rfl⟩ := exists_writer houtlet
  rw [write_eq]
  simp only [hwriter]
  rw [onFile_of_file hwriter]
  simp only [FileWriter.write_of_takes (h houtlet)]
  exact ⟨_, rfl⟩

/-- What is written as debug output is due to the file that is open, if it takes it. -/
theorem due_write_of_accepts (h : Accepts node o) (bytes : Bytes) :
    (stateAfter (write bytes) o).due node =
      o.due node ++ if o.active.outlet = .file node then bytes else [] := by
  by_cases houtlet : o.active.outlet = .file node
  · obtain ⟨o', ho'⟩ := write_of_accepts h houtlet bytes
    rw [stateAfter_of_ok ho', due_write ho']
  · rw [(write_stays bytes o).due houtlet, if_neg houtlet, List.append_nil]

theorem due_flushFile (o : Outputs) (node : Nat) :
    (stateAfter (onFile (·.flush)) o).due node = o.due node := by
  cases ha : o.active with
  | file writer =>
    have hadds := writer.flush_adds o.store
    rw [stateAfter_onFile ha]
    by_cases hnode : writer.node = node
    · subst hnode
      have hdue := hadds.due
      rw [List.append_nil] at hdue
      simpa [due, ha, Destination.heldFor, hadds.node] using hdue
    · have hothers := hadds.others node fun h => hnode h.symm
      simp [due, ha, Destination.heldFor, hadds.node, hnode, hothers]
  | _ => rw [stateAfter_of_ok (onFile_of_not_file (by simp [ha]))]

theorem due_onPorts {α : Type} (action : EStateM SystemError Ports α) (o : Outputs) (node : Nat) :
    (stateAfter (onPorts action) o).due node = o.due node := by
  rw [stateAfter_onPorts]
  rfl

/-- Nothing is lost when everything is flushed, whether or not the flush comes to its end. -/
theorem due_stateAfter_flushAll (o : Outputs) (node : Nat) :
    (stateAfter flushAll o).due node = o.due node := by
  let R : Outputs → Outputs → Prop := fun o o' => o'.due node = o.due node
  have htrans : ∀ {a b c}, R a b → R b c → R a c := fun hab hbc => hbc.trans hab
  refine stateAfter_bind (R := R) htrans (due_onPorts _ o node) fun _ o₁ _ => ?_
  refine stateAfter_bind (R := R) htrans (due_onPorts _ o₁ node) fun _ o₂ _ => ?_
  exact due_flushFile o₂ node

theorem takes_opened (h : o.store.Takes node) (target : DebugTarget) :
    (o.opened target).Takes node := by
  unfold opened
  split
  · split
    · rename_i hopen
      exact h.openAppend hopen
    · exact h
  · exact h

/-- A change of destination loses nothing if the file that is left takes what is held back. -/
theorem due_redirect_of_accepts (h : Accepts node o) {target : DebugTarget}
    (hr : o.redirect target = .ok o') : o'.due node = o.due node := by
  obtain ⟨next, hheld, -, rfl⟩ := redirect_eq_ok hr
  unfold due
  rw [heldFor_adopt hheld, store_adopt hheld, List.append_nil]
  show (o.active.close (o.opened target)).bytesAt node = _
  by_cases houtlet : o.active.outlet = .file node
  · obtain ⟨writer, hwriter, rfl⟩ := exists_writer houtlet
    have hclose : o.active.canClose (o.opened target) := by
      have htakes : (o.opened target).Takes writer.node := takes_opened (h houtlet) target
      unfold Destination.canClose
      simp only [hwriter, FileWriter.flush_of_takes htakes]
    rw [Destination.bytesAt_close hclose, bytesAt_opened]
  · rw [Destination.bytesAt_close_other houtlet, bytesAt_opened,
      Destination.heldFor_of_outlet_ne houtlet, List.append_nil]

end Outputs

/-! ## What a caller can do -/

/-- What a caller can do with a session. A `change` is one of the settings, or of anything else that
has no part in what is traced and written. -/
inductive SessionAct
  | change (f : Session → Session) (h : ∀ s, (f s).tracer = s.tracer)
  | setLevel (level : Level)
  | decodeLevel (flags : Option String)
  | redirect (selector : Option String)
  | header
  | message (text : String)
  | flush
  | print (text : String)
  | trace (builtins : Registry) (phase : Phase) (traced : TracedCall)
  | error (report : ErrorReport)
  | errorAt (report : ErrorReport) (file : String) (line : UInt32)
  | warn (report : WarningReport)
  | warnAt (report : WarningReport) (file : String) (line : UInt32)
  | argc (check : CountCheck)
  | numeric (check : NumberCheck)

namespace SessionAct

/-- The operation by which an act is done. -/
def action : SessionAct → Act Unit
  | change f _ => modify f
  | setLevel level => Session.setLevel level
  | decodeLevel flags => do
    let _ ← Session.decodeLevel flags
  | redirect selector => Session.setDebugOutput selector
  | header => Session.whileDoing "writing debug message" Session.writeMessageHeader
  | message text => Session.whileDoing "writing debug message" (Session.debugMessage text)
  | flush => Session.whileDoing "flushing output" Session.flushAll
  | print text => Session.print text
  | trace builtins phase traced => Session.traceCall builtins phase traced
  | error report => Session.error report.status report.errnum report.text
  | errorAt report file line => Session.errorAt report.status report.errnum file line report.text
  | warn report => Session.warn report.errnum report.text
  | warnAt report file line => Session.warnAt report.errnum file line report.text
  | argc check => do
    let _ ← Session.checkArgCount check.name check.count check.least check.most check.sideEffect
  | numeric check => do
    let _ ← Session.numericArg check.name check.text

/-- The chunks of debug output that an act writes, one after the other. -/
def chunks (s : Session) : SessionAct → List Bytes
  | header => [Utf8.encode (messageHeader s.program s.level s.location)]
  | message text =>
    [Utf8.encode (messageHeader s.program s.level s.location), Utf8.encode text, Utf8.encode "\n"]
  | trace builtins phase traced =>
    (s.traceUtterances builtins phase traced).filterMap (·.chunk?)
  | _ => []

/-- The chunks of debug output that an act writes, with the outlet in force. -/
def deliveries (s : Session) (act : SessionAct) : List Delivery :=
  (act.chunks s).map (⟨s.outputs.active.outlet, ·⟩)

/-- The session after an act, whatever has become of it. -/
def perform (s : Session) (act : SessionAct) : Session := stateAfter act.action s

end SessionAct

namespace Session

/-- The session after a run. -/
def afterAll (s : Session) (acts : List SessionAct) : Session := acts.foldl SessionAct.perform s

/-- All debug output of a run, each chunk with the outlet in force when it is written. -/
def deliveries (s : Session) : List SessionAct → List Delivery
  | [] => []
  | act :: rest => act.deliveries s ++ (act.perform s).deliveries rest

/-! ### What is due to a file -/

variable {s : Session} {node : Nat}

theorem OnlyReports.due {s s' : Session} (h : OnlyReports s s') (node : Nat) :
    s'.outputs.due node = s.outputs.due node := by
  rw [h]
  rfl

/-- A chunk of debug output, with more to come. -/
theorem due_write_bind {bytes more : Bytes} {rest : Unit → EStateM SystemError Session Unit}
    (h : Outputs.Accepts node s.outputs)
    (hrest : ∀ s' : Session, Outputs.Accepts node s'.outputs →
      (stateAfter (rest ()) s').outputs.due node =
        s'.outputs.due node ++ if s'.outputs.active.outlet = .file node then more else []) :
    (stateAfter (onOutputs (Outputs.write bytes) >>= rest) s).outputs.due node =
      s.outputs.due node ++
        if s.outputs.active.outlet = .file node then bytes ++ more else [] := by
  have hdue := Outputs.due_write_of_accepts h bytes
  have hstays := Outputs.write_stays bytes s.outputs
  rw [← outputs_onOutputs] at hdue hstays
  cases hw : onOutputs (Outputs.write bytes) s with
  | ok u s' =>
    rw [stateAfter_of_ok hw] at hdue hstays
    rw [stateAfter_bind_of_ok hw, hrest s' (h.stays hstays), hdue, hstays.outlet]
    split
    · rw [List.append_assoc]
    · rw [List.append_nil]
  | error cause s' =>
    have houtlet : s.outputs.active.outlet ≠ .file node := by
      intro houtlet
      obtain ⟨o', ho'⟩ := Outputs.write_of_accepts h houtlet bytes
      have herror := onOutputs_eq_error hw
      rw [ho'] at herror
      cases herror
    rw [stateAfter_of_error hw] at hdue
    rw [stateAfter_bind_of_error hw, hdue, if_neg houtlet, if_neg houtlet]

theorem due_write_last (h : Outputs.Accepts node s.outputs) (bytes : Bytes) :
    (stateAfter (onOutputs (Outputs.write bytes)) s).outputs.due node =
      s.outputs.due node ++ if s.outputs.active.outlet = .file node then bytes else [] := by
  rw [outputs_onOutputs]
  exact Outputs.due_write_of_accepts h bytes

theorem due_message (h : Outputs.Accepts node s.outputs) (text : String) :
    (stateAfter (debugMessage text) s).outputs.due node =
      s.outputs.due node ++ if s.outputs.active.outlet = .file node then
        Utf8.encode (messageHeader s.program s.level s.location)
          ++ (Utf8.encode text ++ Utf8.encode "\n")
      else [] := by
  have hheader : debugMessage text s =
      (onOutputs (Outputs.writeText (messageHeader s.program s.level s.location)) >>= fun _ =>
        onOutputs (Outputs.writeText text) >>= fun _ => onOutputs (Outputs.writeText "\n")) s :=
    bind_congr_left (get_bind _ s) _
  rw [stateAfter_congr hheader]
  refine due_write_bind h fun s₁ h₁ => ?_
  exact due_write_bind h₁ fun s₂ h₂ => due_write_last h₂ _

theorem due_trace (h : Outputs.Accepts node s.outputs) (builtins : Registry) (phase : Phase)
    (traced : TracedCall) :
    (stateAfter (traceCall builtins phase traced) s).outputs.due node =
      s.outputs.due node ++ if s.outputs.active.outlet = .file node then
        ((s.traceUtterances builtins phase traced).filterMap (·.chunk?)).flatten
      else [] := by
  rcases traceCall_cases builtins phase traced s with ⟨bytes, s', hwords, hends, houtputs⟩ |
    ⟨s', hwords, hends, houtputs⟩ | ⟨message, s', hwords, habort, houtputs⟩
  · rw [hends.stateAfter, houtputs, Outputs.due_write_of_accepts h, hwords]
    simp [Utterance.chunk?]
  · rw [hends.stateAfter, houtputs, hwords]
    simp
  · rw [stateAfter_of_error habort, houtputs, hwords]
    have hflush := Outputs.due_stateAfter_flushAll s.outputs node
    rw [← outputs_onOutputs] at hflush
    show (stateAfter flushAll s).outputs.due node = _
    simp [Utterance.chunk?, hflush, flushAll]

theorem due_decodeLevel (flags : Option String) (s : Session) (node : Nat) :
    ((SessionAct.decodeLevel flags).perform s).outputs.due node = s.outputs.due node := by
  simp only [SessionAct.perform, SessionAct.action, decodeLevel]
  cases Level.decode flags with
  | ok level => rfl
  | error cause => rfl

theorem due_setDebugOutput (h : Outputs.Accepts node s.outputs) (selector : Option String) :
    (stateAfter (setDebugOutput selector) s).outputs.due node = s.outputs.due node := by
  unfold stateAfter setDebugOutput
  cases hr : s.outputs.redirect (.ofSelector selector) with
  | ok outputs => exact Outputs.due_redirect_of_accepts h hr
  | error failure => rfl

theorem raiseAny_onlyReports (c : Option Complaint) (s : Session) :
    OnlyReports s (stateAfter (raiseAny c) s) := by
  cases c with
  | none => exact .refl s
  | some c =>
    simp only [raiseAny, raise]
    split
    · exact error_onlyReports _ _ _ s
    · exact warn_onlyReports _ _ s

theorem checkArgCount_onlyReports (check : CountCheck) (s : Session) :
    OnlyReports s ((SessionAct.argc check).perform s) := by
  simp only [SessionAct.perform, SessionAct.action, checkArgCount_eq]
  refine stateAfter_bind (R := OnlyReports) OnlyReports.trans ?_ fun _ s' _ => .refl s'
  exact stateAfter_bind (R := OnlyReports) OnlyReports.trans (raiseAny_onlyReports _ s)
    fun _ s' _ => .refl s'

theorem numericArg_onlyReports (check : NumberCheck) (s : Session) :
    OnlyReports s ((SessionAct.numeric check).perform s) := by
  simp only [SessionAct.perform, SessionAct.action]
  refine stateAfter_bind (R := OnlyReports) OnlyReports.trans ?_ fun _ s' _ => .refl s'
  rw [stateAfter_congr (numericArg_eq check s)]
  exact stateAfter_bind (R := OnlyReports) OnlyReports.trans (raiseAny_onlyReports _ s)
    fun _ s' _ => .refl s'

end Session

namespace SessionAct

theorem reaching_chunks (outlet : Outlet) (node : Nat) (chunks : List Bytes) :
    Delivery.reaching (.file node) (chunks.map (⟨outlet, ·⟩)) =
      if outlet = .file node then chunks.flatten else [] := by
  induction chunks with
  | nil => simp [Delivery.reaching]
  | cons bytes rest ih =>
    rw [List.map_cons, ← List.singleton_append, Delivery.reaching_append, ih]
    by_cases h : outlet = .file node <;> simp [Delivery.reaching, h]

/-- What is due to a file grows by the debug output that is written while it is open. -/
theorem due_perform {s : Session} {node : Nat} (h : Outputs.Accepts node s.outputs)
    (act : SessionAct) :
    (act.perform s).outputs.due node =
      s.outputs.due node ++ Delivery.reaching (.file node) (act.deliveries s) := by
  unfold deliveries
  rw [reaching_chunks]
  have hsilent : act.chunks s = [] → (act.perform s).outputs.due node = s.outputs.due node →
      (act.perform s).outputs.due node = s.outputs.due node ++
        if s.outputs.active.outlet = .file node then (act.chunks s).flatten else [] := by
    intro hchunks hdue
    simp [hchunks, hdue]
  cases act with
  | change f hf =>
    have houtputs : (f s).outputs = s.outputs := congrArg Tracer.outputs (hf s)
    exact hsilent rfl (congrArg (Outputs.due · node) houtputs)
  | setLevel level => exact hsilent rfl rfl
  | decodeLevel flags => exact hsilent rfl (Session.due_decodeLevel flags s node)
  | redirect selector => exact hsilent rfl (Session.due_setDebugOutput h selector)
  | header =>
    have hwrite : stateAfter Session.writeMessageHeader s = stateAfter (Session.onOutputs
        (Outputs.write (Utf8.encode (messageHeader s.program s.level s.location)))) s :=
      stateAfter_congr (get_bind _ s)
    simp only [perform, action, Session.whileDoing, Session.stateAfter_mapError, hwrite]
    simpa [chunks] using Session.due_write_last h _
  | message text =>
    simp only [perform, action, Session.whileDoing, Session.stateAfter_mapError,
      Session.due_message h]
    simp [chunks]
  | flush =>
    refine hsilent rfl ?_
    simp only [perform, action, Session.whileDoing, Session.stateAfter_mapError,
      Session.flushAll, Session.outputs_onOutputs]
    exact Outputs.due_stateAfter_flushAll s.outputs node
  | print text =>
    refine hsilent rfl ?_
    simp only [perform, action, Session.print, Session.whileDoing, Session.stateAfter_mapError,
      Session.writeOut, Session.outputs_onOutputs]
    exact Outputs.due_onPorts _ s.outputs node
  | trace builtins phase traced => exact Session.due_trace h builtins phase traced
  | error report => exact hsilent rfl ((Session.error_onlyReports _ _ _ s).due node)
  | errorAt report file line =>
    exact hsilent rfl ((Session.errorAt_onlyReports _ _ file line _ s).due node)
  | warn report => exact hsilent rfl ((Session.warn_onlyReports _ _ s).due node)
  | warnAt report file line =>
    exact hsilent rfl ((Session.warnAt_onlyReports _ file line _ s).due node)
  | argc check => exact hsilent rfl ((Session.checkArgCount_onlyReports check s).due node)
  | numeric check => exact hsilent rfl ((Session.numericArg_onlyReports check s).due node)

end SessionAct

namespace Session

/-- **What a run makes due to a file.** As long as the file takes what it is given while it is open,
what is in it and what is held back from it are together what they were at first, with all the debug
output behind that was written while it was open; whatever the standard streams do, and however
often something else fails. -/
theorem due_afterAll {s : Session} {acts : List SessionAct} {node : Nat}
    (h : ∀ earlier, earlier <+: acts → Outputs.Accepts node (s.afterAll earlier).outputs) :
    (s.afterAll acts).outputs.due node =
      s.outputs.due node ++ Delivery.reaching (.file node) (s.deliveries acts) := by
  induction acts generalizing s with
  | nil => exact (List.append_nil _).symm
  | cons act rest ih =>
    have hfirst : Outputs.Accepts node s.outputs := h [] (List.nil_prefix ..)
    have hrest : ∀ earlier, earlier <+: rest →
        Outputs.Accepts node ((act.perform s).afterAll earlier).outputs :=
      fun earlier hearlier => h (act :: earlier) (List.cons_prefix_cons.mpr ⟨rfl, hearlier⟩)
    show ((act.perform s).afterAll rest).outputs.due node = _
    rw [ih hrest, act.due_perform hfirst, deliveries, Delivery.reaching_append, List.append_assoc]

end Session

end MacroTrace
