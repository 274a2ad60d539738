import MacroTrace.Proofs.SessionRun
/-!
# What is saved when the program ends itself

A call with a builtin that the table does not know ends the program on the spot, and nothing is left
to hand on the bytes that are held back from the debug file. So everything is flushed before: first
the standard streams, and then the debug file, unless one of the streams has failed by then. What is
held back from the file is lost if and only if that happens (`Session.abort_saves_iff`).
-/

namespace MacroTrace

/-- Both standard streams carry out the flush that is due next. -/
def Ports.BothFlush (s : Ports) : Prop :=
  ∀ p, (s.state p).behaviour (s.state p).past .flush = .done

namespace Outputs

/-- The outputs once a standard stream has been flushed. -/
def flushed (o : Outputs) (p : Port) : Outputs :=
  { o with ports := o.ports.afterReply p .flush .done (.flushed p) }

variable {o : Outputs} {node : Nat} {p : Port}

theorem flushPort_of_done (h : (o.ports.state p).behaviour (o.ports.state p).past .flush = .done) :
    onPorts (Ports.ask p .flush) o = .ok () (o.flushed p) := by
  unfold onPorts
  rw [Ports.ask_eq (by decide), h]
  rfl

theorem flushPort_of_refused
    (h : (o.ports.state p).behaviour (o.ports.state p).past .flush ≠ .done) :
    ∃ cause ports, onPorts (Ports.ask p .flush) o = .error cause { o with ports } := by
  unfold onPorts
  rw [Ports.ask_eq (by decide)]
  cases hreply : (o.ports.state p).behaviour (o.ports.state p).past .flush with
  | done => exact absurd hreply h
  | refused taken cause => exact ⟨cause, _, rfl⟩

/-- If both standard streams are flushed, then the debug file has its turn as well. -/
theorem flushAll_of_both (h : Accepts node o) (houtlet : o.active.outlet = .file node)
    (hboth : o.ports.BothFlush) : ∃ o', flushAll o = .ok () o' := by
  obtain ⟨writer, hwriter, rfl⟩ := exists_writer houtlet
  have hout : onPorts (Ports.ask .out .flush) o = .ok () (o.flushed .out) :=
    flushPort_of_done (hboth .out)
  have herr : onPorts (Ports.ask .err .flush) (o.flushed .out) =
      .ok () ((o.flushed .out).flushed .err) := flushPort_of_done (p := .err) (hboth .err)
  have hfile : ∃ o', onFile (·.flush) ((o.flushed .out).flushed .err) = .ok () o' := by
    have hactive : ((o.flushed .out).flushed .err).active = .file writer := hwriter
    have htakes : ((o.flushed .out).flushed .err).store.Takes writer.node := h houtlet
    rw [onFile_of_file hactive]
    simp only [FileWriter.flush_of_takes htakes]
    exact ⟨_, rfl⟩
  obtain ⟨o', ho'⟩ := hfile
  exact ⟨o', (bind_of_ok hout).trans ((bind_of_ok herr).trans ho')⟩

theorem bytesAt_flushAll_of_both (h : Accepts node o) (houtlet : o.active.outlet = .file node)
    (hboth : o.ports.BothFlush) : (stateAfter flushAll o).store.bytesAt node = o.due node := by
  obtain ⟨o', ho'⟩ := flushAll_of_both h houtlet hboth
  obtain ⟨hdue, hheld⟩ := due_flushAll ho' node
  rw [stateAfter_of_ok ho', ← hdue, due, hheld, List.append_nil]

/-- If one of the standard streams is not flushed, then the files stay as they are. -/
theorem store_flushAll_of_not_both (hboth : ¬ o.ports.BothFlush) :
    (stateAfter flushAll o).store = o.store := by
  unfold flushAll
  by_cases hout : (o.ports.state .out).behaviour (o.ports.state .out).past .flush = .done
  · have herr : (o.ports.state .err).behaviour (o.ports.state .err).past .flush ≠ .done := by
      intro herr
      refine hboth fun p => ?_
      cases p with
      | out => exact hout
      | err => exact herr
    obtain ⟨cause, ports, hrefused⟩ := flushPort_of_refused (o := o.flushed .out) (p := .err) herr
    rw [stateAfter_bind_of_ok (flushPort_of_done hout), stateAfter_bind_of_error hrefused]
    rfl
  · obtain ⟨cause, ports, hrefused⟩ := flushPort_of_refused hout
    rw [stateAfter_bind_of_error hrefused]

end Outputs

namespace Session

variable {s : Session} {acts : List SessionAct} {builtins : Registry} {call : Call}
  {id : BuiltinId} {node : Nat}

/-- When the program ends itself, all that is done to the files is one flush of everything. -/
theorem exists_abort (h : s.traceSettings.unknownBuiltin? builtins call = some id) :
    ∃ s', tracePre builtins call s = .error .abort s' ∧
      s'.outputs.store = (stateAfter Outputs.flushAll s.outputs).store := by
  refine ⟨_, tracePre_of_unknown h, ?_⟩
  rw [outputs_mapPorts, flushAll, outputs_onOutputs]
  rfl

/-- **What is saved when the program ends itself.** Let a session be used in whatever way, debug
output going to a file in the end that takes all it is given, and then let a call be traced with a
builtin that the table does not know. The program ends itself, and what was written to the file is
then in it if and only if both standard streams carry out their flush, or nothing was held back from
the file. Otherwise the bytes that were held back are lost, and no others. -/
theorem abort_saves_iff
    (htakes : ∀ earlier, earlier <+: acts → Outputs.Accepts node (s.afterAll earlier).outputs)
    (houtlet : (s.afterAll acts).outputs.active.outlet = .file node)
    (hunknown : (s.afterAll acts).traceSettings.unknownBuiltin? builtins call = some id) :
    ∃ s', tracePre builtins call (s.afterAll acts) = .error .abort s' ∧
      let given := s.outputs.due node ++ Delivery.reaching (.file node) (s.deliveries acts)
      let o := (s.afterAll acts).outputs
      (s'.outputs.store.bytesAt node = given ↔
        o.ports.BothFlush ∨ o.active.heldFor node = []) ∧
      (¬ o.ports.BothFlush →
        s'.outputs.store.bytesAt node ++ o.active.heldFor node = given) := by
  obtain ⟨s', habort, hstore⟩ := exists_abort hunknown
  refine ⟨s', habort, ?_⟩
  intro given o
  have haccepts : Outputs.Accepts node o := htakes acts List.prefix_rfl
  have hgiven : o.store.bytesAt node ++ o.active.heldFor node = given := due_afterAll htakes
  have hlost : ¬ o.ports.BothFlush → s'.outputs.store.bytesAt node = o.store.bytesAt node := by
    intro hboth
    rw [hstore, Outputs.store_flushAll_of_not_both hboth]
  refine ⟨⟨fun hsaved => ?_, ?_⟩, fun hboth => ?_⟩
  · by_cases hboth : o.ports.BothFlush
    · exact .inl hboth
    · rw [hlost hboth, ← hgiven] at hsaved
      exact .inr (List.self_eq_append_right.mp hsaved)
  · rintro (hboth | hheld)
    · rw [hstore, Outputs.bytesAt_flushAll_of_both haccepts houtlet hboth]
      exact hgiven
    · by_cases hboth : o.ports.BothFlush
      · rw [hstore, Outputs.bytesAt_flushAll_of_both haccepts houtlet hboth]
        exact hgiven
      · rw [hlost hboth, ← hgiven, hheld, List.append_nil]
  · rw [hlost hboth, hgiven]

/-! ### A full device in the place of standard output -/

/-- Debug output to a file, and text that standard output can hold. -/
def tracedRun : List SessionAct :=
  [.decodeLevel (some "a"), .redirect (some "d"), .message "m", .print "x"]

/-- A call with a builtin that is in no table. -/
def strangeCall : Call := { name := "f", args := [.builtin ⟨999⟩] }

/-- A session whose standard output leads to a device that is full. -/
def fullSession : Session :=
  start (.start { out := { behaviour := .full .byLine false } } (.initial 0) none none)

theorem abort_saves_iff_tracedRun :
    (∀ earlier, earlier <+: tracedRun →
        Outputs.Accepts 5 (plainSession.afterAll earlier).outputs) ∧
      (plainSession.afterAll tracedRun).outputs.active.outlet = .file 5 ∧
      ∃ s', tracePre Registry.standard strangeCall (plainSession.afterAll tracedRun) =
          .error .abort s' ∧
        s'.outputs.store.bytesAt 5 = Utf8.encode "m4 debug: m\n" := by
  have htakes : ∀ earlier, earlier <+: tracedRun →
      Outputs.Accepts 5 (plainSession.afterAll earlier).outputs := forall_prefix_of_all (by cbv)
  have houtlet : (plainSession.afterAll tracedRun).outputs.active.outlet = .file 5 := by cbv
  have hunknown : (plainSession.afterAll tracedRun).traceSettings.unknownBuiltin?
      Registry.standard strangeCall = some ⟨999⟩ := by cbv
  have hboth : (plainSession.afterAll tracedRun).outputs.ports.BothFlush := by
    intro p
    cases p <;> cbv
  have hgiven : plainSession.outputs.due 5 ++
      Delivery.reaching (.file 5) (plainSession.deliveries tracedRun) =
        Utf8.encode "m4 debug: m\n" := by cbv
  obtain ⟨s', habort, hsaved, -⟩ := abort_saves_iff htakes houtlet hunknown
  refine ⟨htakes, houtlet, s', habort, ?_⟩
  rw [hsaved.mpr (.inl hboth), hgiven]

/-- The message is lost, although the file would have taken it. -/
theorem message_lost_fullSession :
    (∀ earlier, earlier <+: tracedRun →
        Outputs.Accepts 5 (fullSession.afterAll earlier).outputs) ∧
      Delivery.reaching (.file 5) (fullSession.deliveries tracedRun) =
        Utf8.encode "m4 debug: m\n" ∧
      ∃ s', tracePre Registry.standard strangeCall (fullSession.afterAll tracedRun) =
          .error .abort s' ∧
        s'.outputs.store.bytesAt 5 = [] := by
  have hunknown : (fullSession.afterAll tracedRun).traceSettings.unknownBuiltin?
      Registry.standard strangeCall = some ⟨999⟩ := by cbv
  obtain ⟨s', habort, hstore⟩ := exists_abort hunknown
  refine ⟨forall_prefix_of_all (by cbv), by cbv, s', habort, ?_⟩
  rw [hstore]
  cbv

end Session

end MacroTrace
