import MacroTrace.Stream.Outputs
import MacroTrace.Proofs.FileContents
import MacroTrace.Proofs.PortLog
/-!
# Where debug output ends up

Whatever a caller does with debug output, by redirecting it, writing to it and flushing, every chunk
reaches exactly the outlet that was in force when it was written. For a file this holds with what is
still held back from it counted in (`Outputs.due`), and nothing is held back from a file that is not
the destination in force, nor after a flush or a change of destination.
-/

namespace MacroTrace

/-- What a caller can do with debug output. `header` writes the start of a one-line message. -/
inductive DebugAct
  | redirect (selector : Option String)
  | write (bytes : Bytes)
  | header (program : String) (level : Level) (location : Location)
  | flush
deriving DecidableEq, Repr

/-- What bytes can reach when they are written as debug output: a standard stream, a file (by
whatever path it was opened), or nothing at all. -/
inductive Outlet
  | port (port : Port)
  | file (node : Nat)
  | nowhere
deriving DecidableEq, Repr

namespace Destination

/-- What bytes reach that are written to a destination. -/
def outlet : Destination → Outlet
  | stderr => .port .err
  | stdout => .port .out
  | file writer => .file writer.node
  | discard => .nowhere

/-- The bytes that a destination holds back from a file. -/
def heldFor (d : Destination) (node : Nat) : Bytes :=
  match d with
  | file writer => if writer.node = node then writer.held else []
  | _ => []

/-- Whether nothing is refused when a destination is left. -/
def canClose (d : Destination) (s : FileStore) : Bool :=
  match d with
  | file writer =>
    match (writer.flush s).1 with
    | .ok () => true
    | .error _ => false
  | _ => true

theorem heldFor_of_outlet_ne {d : Destination} {node : Nat} (h : d.outlet ≠ .file node) :
    d.heldFor node = [] := by
  cases d with
  | file writer =>
    have hn : writer.node ≠ node := fun e => h (by rw [← e]; rfl)
    simp [heldFor, hn]
  | _ => rfl

/-! ## Leaving a destination -/

theorem identity?_close (d : Destination) (s : FileStore) :
    (d.close s).identity? = s.identity? := by
  cases d with
  | file writer => exact (writer.flush_adds s).identity
  | _ => rfl

theorem bytesAt_close_other {d : Destination} {node : Nat} (h : d.outlet ≠ .file node)
    (s : FileStore) : (d.close s).bytesAt node = s.bytesAt node := by
  cases d with
  | file writer => exact (writer.flush_adds s).others node fun e => h (by rw [e]; rfl)
  | _ => rfl

theorem bytesAt_prefix_close (d : Destination) (s : FileStore) (node : Nat) :
    s.bytesAt node <+: (d.close s).bytesAt node := by
  by_cases h : d.outlet = .file node
  · cases d with
    | file writer =>
      cases h
      exact (writer.flush_adds s).grows
    | _ => cases h
  · exact ⟨[], by rw [List.append_nil, bytesAt_close_other h]⟩

/-- Leaving a destination hands everything on that was held back. -/
theorem bytesAt_close {d : Destination} {s : FileStore} (h : d.canClose s) (node : Nat) :
    (d.close s).bytesAt node = s.bytesAt node ++ d.heldFor node := by
  by_cases ho : d.outlet = .file node
  · cases d with
    | file writer =>
      cases ho
      have hok : (writer.flush s).1 = .ok () := by
        unfold canClose at h
        simp only at h
        split at h
        · assumption
        · cases h
      have hdue := (writer.flush_adds s).due
      rw [FileWriter.held_flush hok, List.append_nil, List.append_nil] at hdue
      show (writer.flush s).2.2.bytesAt writer.node = _
      simp [hdue, heldFor]
    | _ => cases ho
  · rw [bytesAt_close_other ho, heldFor_of_outlet_ne ho, List.append_nil]

theorem close_of_nothing_held {d : Destination} (h : ∀ w, d = .file w → w.held = [])
    (s : FileStore) : d.close s = s := by
  cases d with
  | file writer => simp [close, FileWriter.close, FileWriter.flush, h writer rfl]
  | _ => rfl

theorem closingFault?_of_nothing_held {d : Destination} (h : ∀ w, d = .file w → w.held = [])
    (s : FileStore) : d.closingFault? s = none := by
  cases d with
  | file writer => simp [closingFault?, FileWriter.flush, h writer rfl]
  | _ => rfl

end Destination

namespace Outputs

theorem exists_writer {o : Outputs} {node : Nat} (h : o.active.outlet = .file node) :
    ∃ writer, o.active = .file writer ∧ writer.node = node := by
  cases ha : o.active with
  | file writer =>
    rw [ha] at h
    exact ⟨writer, rfl, Outlet.file.inj h⟩
  | _ =>
    rw [ha] at h
    cases h

/-- What is in a file, and behind it what is still held back from it. -/
def due (o : Outputs) (node : Nat) : Bytes := o.store.bytesAt node ++ o.active.heldFor node

/-! ## Redirecting -/

/-- The store once a target has been opened, if it is a file that can be opened. -/
def opened (o : Outputs) (target : DebugTarget) : FileStore :=
  match target with
  | .file path =>
    match o.store.openAppend path with
    | .ok (_, store) => store
    | .error _ => o.store
  | _ => o.store

theorem bytesAt_opened (o : Outputs) (target : DebugTarget) (node : Nat) :
    (o.opened target).bytesAt node = o.store.bytesAt node := by
  unfold opened
  split
  · split
    · rename_i h
      exact FileStore.bytesAt_openAppend h node
    · rfl
  · rfl

theorem identity?_opened (o : Outputs) (target : DebugTarget) :
    (o.opened target).identity? = o.store.identity? := by
  unfold opened
  split
  · split
    · rename_i h
      exact FileStore.identity?_openAppend h
    · rfl
  · rfl

/-- A redirection that succeeds makes a destination the one in force that holds nothing back; it is
standard error, nothing or a file. -/
theorem redirect_eq_ok {o o' : Outputs} {target : DebugTarget} (h : o.redirect target = .ok o') :
    ∃ next : Destination, (∀ w, next = .file w → w.held = []) ∧ next ≠ .stdout ∧
      o' = { o with store := o.opened target }.adopt next := by
  cases target with
  | stderr =>
    cases h
    exact ⟨.stderr, by simp, by simp, rfl⟩
  | discard =>
    cases h
    exact ⟨.discard, by simp, by simp, rfl⟩
  | file path =>
    unfold redirect at h
    simp only [opened]
    cases ho : o.store.openAppend path with
    | error cause => simp [ho] at h
    | ok opening =>
      simp only [ho, Except.ok.injEq] at h
      exact ⟨.file { path, node := opening.1 }, by simp, by simp, h.symm⟩

theorem redirect_eq_error {o : Outputs} {target : DebugTarget} {failure : Failure}
    (h : o.redirect target = .error failure) : ∃ path cause, failure = .debugFile path cause := by
  cases target with
  | file path =>
    unfold redirect at h
    simp only at h
    split at h
    · cases h
    · rename_i cause _
      cases h
      exact ⟨path, cause, rfl⟩
  | _ => cases h

theorem closedPorts_of_nothing_held {o : Outputs} (h : ∀ w, o.active = .file w → w.held = []) :
    o.closedPorts = o.ports := by
  unfold closedPorts
  rw [Destination.closingFault?_of_nothing_held h]

/-- When a destination is closed, nothing goes through the ports. -/
theorem closedPorts_follows (o : Outputs) : Ports.Follows [] o.ports o.closedPorts := by
  unfold closedPorts
  split
  · exact Ports.note_follows ..
  · exact .refl _

theorem closedPorts_eq (o : Outputs) : ∃ journal, o.closedPorts = { o.ports with journal } := by
  unfold closedPorts
  split
  · exact ⟨_, rfl⟩
  · exact ⟨_, rfl⟩

/-- Adopting a destination closes the one before; standard output takes the place of a destination
that would reach the same. -/
theorem adopt_eq {next : Destination} (h : ∀ w, next = .file w → w.held = []) (o : Outputs) :
    o.adopt next =
      { o with
        store := o.active.close o.store
        ports := o.closedPorts
        active := if { o with active := next, store := o.active.close o.store }.isShadowed
          then .stdout else next } := by
  have hshadowed : (o.replace next).isShadowed =
      isShadowed { o with active := next, store := o.active.close o.store } := rfl
  unfold adopt
  simp only [hshadowed]
  split
  · unfold replace
    simp only
    rw [Destination.close_of_nothing_held h, closedPorts_of_nothing_held h]
  · rfl

theorem heldFor_adopt {next : Destination} (h : ∀ w, next = .file w → w.held = []) (o : Outputs)
    (node : Nat) : (o.adopt next).active.heldFor node = [] := by
  rw [adopt_eq h]
  simp only
  split
  · rfl
  · cases next with
    | file w =>
      have hw := h w rfl
      simp [Destination.heldFor, hw]
    | _ => rfl

theorem store_adopt {next : Destination} (h : ∀ w, next = .file w → w.held = []) (o : Outputs) :
    (o.adopt next).store = o.active.close o.store := by
  rw [adopt_eq h]

theorem ports_adopt {next : Destination} (h : ∀ w, next = .file w → w.held = []) (o : Outputs) :
    (o.adopt next).ports = o.closedPorts := by
  rw [adopt_eq h]

theorem ports_start (ports : Ports) (store : FileStore) (outIdentity errIdentity : Option Identity) :
    (start ports store outIdentity errIdentity).ports = ports :=
  (ports_adopt (by simp) _).trans (closedPorts_of_nothing_held (by simp))

/-! ## Writing and flushing -/

/-- Between two states of the outputs the destination has stayed, and at most its file has changed,
by growing. -/
structure Stays (o o' : Outputs) : Prop where
  outlet : o'.active.outlet = o.active.outlet
  outIdentity : o'.outIdentity = o.outIdentity
  errIdentity : o'.errIdentity = o.errIdentity
  identity : o'.store.identity? = o.store.identity?
  shape : o'.store.shape = o.store.shape
  others : ∀ node, o.active.outlet ≠ .file node → o'.store.bytesAt node = o.store.bytesAt node
  grows : ∀ node, o.store.bytesAt node <+: o'.store.bytesAt node

theorem Stays.refl (o : Outputs) : Stays o o where
  outlet := rfl
  outIdentity := rfl
  errIdentity := rfl
  identity := rfl
  shape := rfl
  others _ _ := rfl
  grows _ := List.prefix_rfl

theorem Stays.trans {o o' o'' : Outputs} (h : Stays o o') (h' : Stays o' o'') : Stays o o'' where
  outlet := h'.outlet.trans h.outlet
  outIdentity := h'.outIdentity.trans h.outIdentity
  errIdentity := h'.errIdentity.trans h.errIdentity
  identity := h'.identity.trans h.identity
  shape := h'.shape.trans h.shape
  others node hn := (h'.others node (by rw [h.outlet]; exact hn)).trans (h.others node hn)
  grows node := (h.grows node).trans (h'.grows node)

theorem stateAfter_onPorts {α : Type} (action : EStateM SystemError Ports α) (o : Outputs) :
    stateAfter (onPorts action) o = { o with ports := stateAfter action o.ports } := by
  unfold stateAfter onPorts
  cases action o.ports <;> rfl

theorem onPorts_eq_ok {α : Type} {action : EStateM SystemError Ports α} {o o' : Outputs} {a : α}
    (h : onPorts action o = .ok a o') :
    ∃ ports, action o.ports = .ok a ports ∧ o' = { o with ports } := by
  unfold onPorts at h
  split at h
  · rename_i ports ha
    cases h
    exact ⟨ports, ha, rfl⟩
  · cases h

theorem onPorts_stays {α : Type} (action : EStateM SystemError Ports α) (o : Outputs) :
    Stays o (stateAfter (onPorts action) o) := by
  rw [stateAfter_onPorts]
  exact ⟨rfl, rfl, rfl, rfl, rfl, fun _ _ => rfl, fun _ => List.prefix_rfl⟩

section OnFile

variable {action : FileWriter → FileStore → Except SystemError Unit × FileWriter × FileStore}

theorem onFile_of_file {o : Outputs} {writer : FileWriter} (h : o.active = .file writer) :
    onFile action o =
      let o' : Outputs := { o with
        active := .file (action writer o.store).2.1
        store := (action writer o.store).2.2 }
      match (action writer o.store).1 with
      | .ok () => .ok () o'
      | .error cause => .error cause o' := by
  unfold onFile
  simp only [h]
  obtain ⟨result, writer', store⟩ := action writer o.store
  cases result <;> rfl

theorem onFile_of_not_file {o : Outputs} (h : ∀ writer, o.active ≠ .file writer) :
    onFile action o = .ok () o := by
  unfold onFile
  split
  · rename_i writer ha
    exact absurd ha (h writer)
  · rfl

theorem stateAfter_onFile {o : Outputs} {writer : FileWriter} (h : o.active = .file writer) :
    stateAfter (onFile action) o = { o with
      active := .file (action writer o.store).2.1
      store := (action writer o.store).2.2 } := by
  unfold stateAfter
  rw [onFile_of_file h]
  cases (action writer o.store).1 <;> rfl

/-- Whatever is done with the writer of the debug file, it is that file alone that changes. -/
theorem onFile_stays
    (hadds : ∀ w s, ∃ taken, FileWriter.Adds taken w (action w s).2.1 s (action w s).2.2)
    (o : Outputs) : Stays o (stateAfter (onFile action) o) := by
  cases ha : o.active with
  | file writer =>
    obtain ⟨taken, h⟩ := hadds writer o.store
    rw [stateAfter_onFile ha]
    refine ⟨?_, rfl, rfl, h.identity, h.shape, fun node hn => ?_, fun node => ?_⟩
    · rw [ha]
      exact congrArg Outlet.file h.node
    · refine h.others node fun e => hn ?_
      rw [ha, e]
      rfl
    · by_cases e : node = writer.node
      · subst e
        exact h.grows
      · exact ⟨[], by rw [List.append_nil, h.others node e]⟩
  | _ =>
    rw [stateAfter_of_ok (onFile_of_not_file (by simp [ha]))]
    exact .refl o

end OnFile

theorem write_eq (bytes : Bytes) (o : Outputs) :
    write bytes o = match o.active with
      | .stderr => onPorts (Ports.ask .err (.write bytes)) o
      | .stdout => onPorts (Ports.ask .out (.write bytes)) o
      | .file _ => onFile (·.write bytes) o
      | .discard => .ok () o := by
  unfold write
  rw [get_bind]
  cases o.active <;> rfl

theorem write_stays (bytes : Bytes) (o : Outputs) : Stays o (stateAfter (write bytes) o) := by
  have hw := write_eq bytes o
  split at hw
  · rw [stateAfter_congr hw]
    exact onPorts_stays _ o
  · rw [stateAfter_congr hw]
    exact onPorts_stays _ o
  · rw [stateAfter_congr hw]
    exact onFile_stays (fun w s => (w.write_adds bytes s).imp fun _ h => h.1) o
  · rw [stateAfter_of_ok hw]
    exact .refl o

theorem flushAll_stays (o : Outputs) : Stays o (stateAfter flushAll o) := by
  refine stateAfter_bind (R := Stays) Stays.trans (onPorts_stays _ o) fun _ o₁ _ => ?_
  refine stateAfter_bind (R := Stays) Stays.trans (onPorts_stays _ o₁) fun _ o₂ _ => ?_
  exact onFile_stays (fun w s => ⟨[], w.flush_adds s⟩) o₂

/-- A write that succeeds adds its bytes to what is due to the file in force, and to nothing else.
-/
theorem due_write {bytes : Bytes} {o o' : Outputs} {u : Unit} (h : write bytes o = .ok u o')
    (node : Nat) :
    o'.due node = o.due node ++ (if o.active.outlet = .file node then bytes else []) := by
  rw [write_eq] at h
  cases ha : o.active with
  | file writer =>
    simp only [ha] at h
    rw [onFile_of_file ha] at h
    obtain ⟨taken, hadds, htaken⟩ := writer.write_adds bytes o.store
    cases hr : (writer.write bytes o.store).1 with
    | error cause => simp [hr] at h
    | ok _ =>
      simp only [hr, EStateM.Result.ok.injEq, true_and] at h
      subst h
      have htaken := htaken hr
      subst htaken
      by_cases e : writer.node = node
      · subst e
        have hdue := hadds.due
        simp only [due, ha, Destination.heldFor, Destination.outlet, hadds.node, if_true]
        exact hdue
      · have e' : Outlet.file writer.node ≠ .file node := fun he => e (Outlet.file.inj he)
        simp only [due, ha, Destination.heldFor, Destination.outlet, hadds.node, e, e', if_false]
        rw [hadds.others node fun he => e he.symm]
        simp
  | discard =>
    simp only [ha] at h
    cases h
    simp [Destination.outlet]
  | _ =>
    simp only [ha] at h
    obtain ⟨ports, -, rfl⟩ := onPorts_eq_ok h
    simp [due, ha, Destination.outlet]

/-- A flush that succeeds leaves what is due as it is, and nothing is held back any longer. -/
theorem due_flushAll {o o' : Outputs} {u : Unit} (h : flushAll o = .ok u o') (node : Nat) :
    o'.due node = o.due node ∧ o'.active.heldFor node = [] := by
  obtain ⟨_, o₁, h₁, h⟩ := bind_eq_ok h
  obtain ⟨_, o₂, h₂, h⟩ := bind_eq_ok h
  obtain ⟨ports₁, -, rfl⟩ := onPorts_eq_ok h₁
  obtain ⟨ports₂, -, rfl⟩ := onPorts_eq_ok h₂
  cases ha : o.active with
  | file writer =>
    rw [onFile_of_file (by exact ha)] at h
    simp only at h
    have hadds := writer.flush_adds o.store
    cases hr : (writer.flush o.store).1 with
    | error cause => simp [hr] at h
    | ok _ =>
      simp only [hr, EStateM.Result.ok.injEq, true_and] at h
      subst h
      have hheld := FileWriter.held_flush hr
      have hnone : (Destination.file (writer.flush o.store).2.1).heldFor node = [] := by
        simp [Destination.heldFor, hheld]
      refine ⟨?_, hnone⟩
      by_cases e : node = writer.node
      · subst e
        have hdue := hadds.due
        rw [hheld] at hdue
        simpa [due, ha, Destination.heldFor, hheld] using hdue
      · have e' : writer.node ≠ node := fun he => e he.symm
        simp only [due, ha, hnone, List.append_nil]
        rw [hadds.others node e]
        simp [Destination.heldFor, e']
  | _ =>
    rw [onFile_of_not_file (by simp [ha])] at h
    cases h
    simp [due, ha, Destination.heldFor]

end Outputs

/-! ## What reaches which outlet -/

/-- Whether an event brings bytes, and is not a flush. -/
def Event.isWrite : Event → Bool
  | .wrote _ _ => true
  | .flushed _ => false

/-- A chunk that was written, and the outlet that was in force then. -/
structure Delivery where
  outlet : Outlet
  bytes : Bytes
deriving DecidableEq, Repr

namespace Delivery

/-- What goes through a standard stream, if the chunk goes there; a port is never asked to take
nothing. -/
def event? (d : Delivery) : Option Event :=
  match d.outlet with
  | .port p => if d.bytes.isEmpty then none else some (.wrote p d.bytes)
  | _ => none

def reaching (outlet : Outlet) (ds : List Delivery) : Bytes :=
  (ds.filter (·.outlet = outlet)).flatMap (·.bytes)

theorem reaching_append (outlet : Outlet) (a b : List Delivery) :
    reaching outlet (a ++ b) = reaching outlet a ++ reaching outlet b := by
  simp [reaching]

end Delivery

namespace DebugAct

def chunk? : DebugAct → Option Bytes
  | write bytes => some bytes
  | header program level location => some (Utf8.encode (messageHeader program level location))
  | _ => none

/-- Does what is asked for; the caller goes on even if it fails. -/
def perform (o : Outputs) : DebugAct → Outputs
  | redirect selector =>
    match o.redirect (.ofSelector selector) with
    | .ok o' => o'
    | .error _ => o
  | write bytes => stateAfter (Outputs.write bytes) o
  | header program level location =>
    stateAfter (Outputs.writeText (messageHeader program level location)) o
  | flush => stateAfter Outputs.flushAll o

/-- Whether no write and no flush is refused, those among them that a change of destination brings
along. That a file cannot be opened is another matter. -/
def isSmooth (o : Outputs) : DebugAct → Bool
  | redirect selector =>
    match o.redirect (.ofSelector selector) with
    | .ok _ => o.active.canClose (o.opened (.ofSelector selector))
    | .error _ => true
  | write bytes => succeeds (Outputs.write bytes) o
  | header program level location =>
    succeeds (Outputs.writeText (messageHeader program level location)) o
  | flush => succeeds Outputs.flushAll o

/-- Whether nothing is to be held back afterwards: everything is flushed, or the destination
changes. -/
def settles (o : Outputs) : DebugAct → Bool
  | redirect selector =>
    match o.redirect (.ofSelector selector) with
    | .ok _ => true
    | .error _ => false
  | flush => true
  | _ => false

def delivery (o : Outputs) (act : DebugAct) : List Delivery :=
  act.chunk?.toList.map (⟨o.active.outlet, ·⟩)

end DebugAct

namespace Outputs

/-- Does everything that is asked for, one after the other. -/
def performAll (o : Outputs) (acts : List DebugAct) : Outputs :=
  acts.foldl DebugAct.perform o

/-- Whether no write and no flush is refused on the way. -/
def areSmooth (o : Outputs) : List DebugAct → Bool
  | [] => true
  | act :: rest => act.isSmooth o && (act.perform o).areSmooth rest

/-- All chunks, each with the outlet that is in force when it is written. -/
def deliveries (o : Outputs) : List DebugAct → List Delivery
  | [] => []
  | act :: rest => act.delivery o ++ (act.perform o).deliveries rest

theorem performAll_append (o : Outputs) (a b : List DebugAct) :
    o.performAll (a ++ b) = (o.performAll a).performAll b := by
  simp [performAll]

theorem deliveries_append (o : Outputs) (a b : List DebugAct) :
    o.deliveries (a ++ b) = o.deliveries a ++ (o.performAll a).deliveries b := by
  induction a generalizing o with
  | nil => rfl
  | cons act rest ih =>
    simp only [List.cons_append, deliveries, ih, List.append_assoc]
    rfl

theorem areSmooth_append {o : Outputs} {a b : List DebugAct} (h : o.areSmooth (a ++ b)) :
    o.areSmooth a ∧ (o.performAll a).areSmooth b := by
  induction a generalizing o with
  | nil => exact ⟨rfl, h⟩
  | cons act rest ih =>
    obtain ⟨hact, hrest⟩ := Bool.and_eq_true_iff.mp h
    obtain ⟨ha, hb⟩ := ih hrest
    exact ⟨Bool.and_eq_true_iff.mpr ⟨hact, ha⟩, hb⟩

/-! ### One act -/

/-- A change of destination without refusals leaves what is due as it is, and holds nothing back. -/
theorem due_redirect {o o' : Outputs} {target : DebugTarget} (h : o.redirect target = .ok o')
    (hclose : o.active.canClose (o.opened target)) (node : Nat) :
    o'.due node = o.due node ∧ o'.active.heldFor node = [] := by
  obtain ⟨next, hheld, -, rfl⟩ := redirect_eq_ok h
  refine ⟨?_, heldFor_adopt hheld _ node⟩
  unfold due
  rw [heldFor_adopt hheld, store_adopt hheld, Destination.bytesAt_close hclose, bytesAt_opened,
    List.append_nil]

theorem bytesAt_prefix_redirect {o o' : Outputs} {target : DebugTarget}
    (h : o.redirect target = .ok o') (node : Nat) :
    o.store.bytesAt node <+: o'.store.bytesAt node := by
  obtain ⟨next, hheld, -, rfl⟩ := redirect_eq_ok h
  rw [store_adopt hheld]
  have hgrows := Destination.bytesAt_prefix_close o.active (o.opened target) node
  rwa [bytesAt_opened] at hgrows

theorem ports_redirect {o o' : Outputs} {target : DebugTarget} (h : o.redirect target = .ok o') :
    o'.ports = { o with store := o.opened target }.closedPorts := by
  obtain ⟨next, hheld, -, rfl⟩ := redirect_eq_ok h
  exact ports_adopt hheld _

/-- A redirection brings nothing to the ports, at most an entry to the journal. -/
theorem redirect_follows {o o' : Outputs} {target : DebugTarget}
    (h : o.redirect target = .ok o') : Ports.Follows [] o.ports o'.ports := by
  rw [ports_redirect h]
  exact closedPorts_follows { o with store := o.opened target }

theorem log_redirect {o o' : Outputs} {target : DebugTarget} (h : o.redirect target = .ok o') :
    o'.ports.log = o.ports.log := by
  obtain ⟨journal, hjournal⟩ := closedPorts_eq { o with store := o.opened target }
  rw [ports_redirect h, hjournal]

/-- Debug output that is written to a standard stream goes through it, and no other way. -/
theorem writes_write {bytes : Bytes} {o o' : Outputs} {u : Unit} (h : write bytes o = .ok u o') :
    o'.ports.log.toList.filter (·.isWrite) =
      o.ports.log.toList.filter (·.isWrite) ++
        (Delivery.event? ⟨o.active.outlet, bytes⟩).toList := by
  rw [write_eq] at h
  have hask : ∀ {p : Port}, o.active.outlet = .port p →
      onPorts (Ports.ask p (.write bytes)) o = .ok u o' →
      o'.ports.log.toList.filter (·.isWrite) = o.ports.log.toList.filter (·.isWrite)
        ++ (Delivery.event? ⟨o.active.outlet, bytes⟩).toList := by
    intro p hp h
    obtain ⟨ports, hask, rfl⟩ := onPorts_eq_ok h
    rw [Ports.log_of_ask_ok hask, List.filter_append]
    cases bytes <;>
      simp [Ports.carried, Request.isVoid, Ports.effect, Request.bytes, Delivery.event?, hp,
        Event.isWrite]
  cases ha : o.active with
  | stderr =>
    simp only [ha] at h
    exact ha ▸ hask (by rw [ha]; rfl) h
  | stdout =>
    simp only [ha] at h
    exact ha ▸ hask (by rw [ha]; rfl) h
  | file writer =>
    simp only [ha] at h
    rw [onFile_of_file ha] at h
    simp only at h
    split at h
    · cases h
      simp [Delivery.event?, Destination.outlet]
    · cases h
  | discard =>
    simp only [ha] at h
    cases h
    simp [Delivery.event?, Destination.outlet]

theorem writes_flushAll {o o' : Outputs} {u : Unit} (h : flushAll o = .ok u o') :
    o'.ports.log.toList.filter (·.isWrite) = o.ports.log.toList.filter (·.isWrite) := by
  obtain ⟨_, o₁, h₁, h⟩ := bind_eq_ok h
  obtain ⟨_, o₂, h₂, h⟩ := bind_eq_ok h
  obtain ⟨ports₁, hask₁, rfl⟩ := onPorts_eq_ok h₁
  obtain ⟨ports₂, hask₂, rfl⟩ := onPorts_eq_ok h₂
  have hports : o'.ports = ports₂ := by
    unfold onFile at h
    split at h
    · split at h
      · cases h
        rfl
      · cases h
    · cases h
      rfl
  rw [hports, Ports.log_of_ask_ok hask₂, Ports.log_of_ask_ok hask₁]
  simp [Ports.carried, Request.isVoid, Ports.effect, Event.isWrite]

end Outputs

namespace DebugAct

theorem reaching_delivery (o : Outputs) (outlet : Outlet) (bytes : Bytes) :
    Delivery.reaching outlet [⟨o.active.outlet, bytes⟩] =
      if o.active.outlet = outlet then bytes else [] := by
  by_cases h : o.active.outlet = outlet <;> simp [Delivery.reaching, h]

/-- Files only grow, whether or not something is refused. -/
theorem bytesAt_prefix_perform (o : Outputs) (act : DebugAct) (node : Nat) :
    o.store.bytesAt node <+: (act.perform o).store.bytesAt node := by
  cases act with
  | redirect selector =>
    simp only [perform]
    split
    · rename_i o' h
      exact Outputs.bytesAt_prefix_redirect h node
    · exact List.prefix_rfl
  | write bytes => exact (Outputs.write_stays bytes o).grows node
  | header program level location => exact (Outputs.write_stays _ o).grows node
  | flush => exact (Outputs.flushAll_stays o).grows node

/-- What is due to a file grows by the chunk that is delivered to it. -/
theorem due_perform {o : Outputs} {act : DebugAct} (h : act.isSmooth o) (node : Nat) :
    (act.perform o).due node = o.due node ++ Delivery.reaching (.file node) (act.delivery o) := by
  cases act with
  | redirect selector =>
    have hnone : Delivery.reaching (.file node) ((redirect selector).delivery o) = [] := rfl
    rw [hnone, List.append_nil]
    simp only [perform]
    cases hr : o.redirect (.ofSelector selector) with
    | error failure => rfl
    | ok o' =>
      simp only [isSmooth, hr] at h
      exact (Outputs.due_redirect hr h node).1
  | write bytes =>
    obtain ⟨_, o', hw⟩ := exists_ok_of_succeeds h
    rw [perform, stateAfter_of_ok hw, Outputs.due_write hw, ← reaching_delivery]
    rfl
  | header program level location =>
    obtain ⟨_, o', hw⟩ := exists_ok_of_succeeds h
    rw [perform, stateAfter_of_ok hw, Outputs.due_write hw, ← reaching_delivery]
    rfl
  | flush =>
    obtain ⟨_, o', hf⟩ := exists_ok_of_succeeds h
    rw [perform, stateAfter_of_ok hf, (Outputs.due_flushAll hf node).1]
    exact (List.append_nil _).symm

/-- What goes through the standard streams is the chunk that is delivered to one of them. -/
theorem writes_perform {o : Outputs} {act : DebugAct} (h : act.isSmooth o) :
    (act.perform o).ports.log.toList.filter (·.isWrite) =
      o.ports.log.toList.filter (·.isWrite) ++ (act.delivery o).filterMap (·.event?) := by
  have hone : ∀ d : Delivery, d.event?.toList = [d].filterMap (·.event?) := by
    intro d
    cases hd : d.event? <;> simp [hd]
  cases act with
  | redirect selector =>
    have hnone : ((redirect selector).delivery o).filterMap (·.event?) = [] := rfl
    rw [hnone, List.append_nil]
    simp only [perform]
    split
    · rename_i o' hr
      rw [Outputs.log_redirect hr]
    · rfl
  | write bytes =>
    obtain ⟨_, o', hw⟩ := exists_ok_of_succeeds h
    rw [perform, stateAfter_of_ok hw, Outputs.writes_write hw, hone]
    rfl
  | header program level location =>
    obtain ⟨_, o', hw⟩ := exists_ok_of_succeeds h
    rw [perform, stateAfter_of_ok hw, Outputs.writes_write hw, hone]
    rfl
  | flush =>
    obtain ⟨_, o', hf⟩ := exists_ok_of_succeeds h
    rw [perform, stateAfter_of_ok hf, Outputs.writes_flushAll hf]
    exact (List.append_nil _).symm

/-- After a flush or a change of destination nothing is held back from any file. -/
theorem heldFor_perform_of_settles {o : Outputs} {act : DebugAct} (h : act.isSmooth o)
    (hs : act.settles o) (node : Nat) : (act.perform o).active.heldFor node = [] := by
  cases act with
  | redirect selector =>
    simp only [perform]
    cases hr : o.redirect (.ofSelector selector) with
    | error failure => simp [settles, hr] at hs
    | ok o' =>
      simp only [isSmooth, hr] at h
      exact (Outputs.due_redirect hr h node).2
  | write bytes => cases hs
  | header program level location => cases hs
  | flush =>
    obtain ⟨_, o', hf⟩ := exists_ok_of_succeeds h
    rw [perform, stateAfter_of_ok hf]
    exact (Outputs.due_flushAll hf node).2

end DebugAct

namespace Outputs

/-! ### All acts -/

theorem bytesAt_prefix_performAll (o : Outputs) (acts : List DebugAct) (node : Nat) :
    o.store.bytesAt node <+: (o.performAll acts).store.bytesAt node := by
  induction acts generalizing o with
  | nil => exact List.prefix_rfl
  | cons act rest ih => exact (act.bytesAt_prefix_perform o node).trans (ih (act.perform o))

theorem due_performAll {o : Outputs} {acts : List DebugAct} (h : o.areSmooth acts) (node : Nat) :
    (o.performAll acts).due node =
      o.due node ++ Delivery.reaching (.file node) (o.deliveries acts) := by
  induction acts generalizing o with
  | nil => exact (List.append_nil _).symm
  | cons act rest ih =>
    obtain ⟨hact, hrest⟩ := Bool.and_eq_true_iff.mp h
    show ((act.perform o).performAll rest).due node = _
    rw [ih hrest, DebugAct.due_perform hact, deliveries, Delivery.reaching_append,
      List.append_assoc]

theorem writes_performAll {o : Outputs} {acts : List DebugAct} (h : o.areSmooth acts) :
    (o.performAll acts).ports.log.toList.filter (·.isWrite) =
      o.ports.log.toList.filter (·.isWrite) ++ (o.deliveries acts).filterMap (·.event?) := by
  induction acts generalizing o with
  | nil => exact (List.append_nil _).symm
  | cons act rest ih =>
    obtain ⟨hact, hrest⟩ := Bool.and_eq_true_iff.mp h
    show ((act.perform o).performAll rest).ports.log.toList.filter (·.isWrite) = _
    rw [ih hrest, DebugAct.writes_perform hact, deliveries, List.filterMap_append,
      List.append_assoc]

/-- Every chunk of debug output reaches the outlet that was in force when it was written, and that
one alone. What goes through the standard streams are exactly the chunks for them, each in one
piece. A file holds what it held at first, followed by the beginning of all that was delivered to it
(what was held back from it at first included); it holds all of it whenever it is not the
destination in force, after every flush and every change of destination, and once the outputs are
left for good. A file that cannot be opened makes no difference to any of this. -/
theorem chunks_reach_their_outlets (o : Outputs) (acts : List DebugAct) (h : o.areSmooth acts) :
    let o' := o.performAll acts
    let chunks := o.deliveries acts
    let owed := fun node => o.active.heldFor node ++ Delivery.reaching (.file node) chunks
    o'.ports.log.toList.filter (·.isWrite) =
        o.ports.log.toList.filter (·.isWrite) ++ chunks.filterMap (·.event?) ∧
      (∀ node, ∃ written, o'.store.bytesAt node = o.store.bytesAt node ++ written ∧
        written <+: owed node ∧
        (o'.active.outlet ≠ .file node → written = owed node) ∧
        (∀ earlier act, acts = earlier ++ [act] → act.settles (o.performAll earlier) →
          written = owed node)) ∧
      (o'.active.canClose o'.store → ∀ node,
        o'.closedStore.bytesAt node = o.store.bytesAt node ++ owed node) ∧
      (∀ selector failure, o'.redirect (.ofSelector selector) = .error failure →
        o.performAll (acts ++ [.redirect selector]) = o' ∧
          o.deliveries (acts ++ [.redirect selector]) = chunks) := by
  intro o' chunks owed
  have hdue : ∀ node, o'.store.bytesAt node ++ o'.active.heldFor node =
      o.store.bytesAt node ++ owed node := by
    intro node
    have hd := due_performAll h node
    unfold due at hd
    rw [hd, List.append_assoc]
  refine ⟨writes_performAll h, fun node => ?_, fun hclose node => ?_, fun selector failure hr => ?_⟩
  · obtain ⟨written, hw⟩ := bytesAt_prefix_performAll o acts node
    have howed : written ++ o'.active.heldFor node = owed node := by
      have hd := hdue node
      rw [← hw, List.append_assoc] at hd
      exact List.append_cancel_left hd
    have hall : o'.active.heldFor node = [] → written = owed node := by
      intro hnone
      rwa [hnone, List.append_nil] at howed
    refine ⟨written, hw.symm, ⟨_, howed⟩, fun hne => ?_, fun earlier act hacts hs => ?_⟩
    · exact hall (Destination.heldFor_of_outlet_ne hne)
    · have hsplit := h
      rw [hacts] at hsplit
      have hlast := (Bool.and_eq_true_iff.mp (areSmooth_append hsplit).2).1
      have ho' : o' = act.perform (o.performAll earlier) := by
        show o.performAll acts = _
        rw [hacts, performAll_append]
        rfl
      exact hall (by rw [ho']; exact DebugAct.heldFor_perform_of_settles hlast hs node)
  · show (o'.active.close o'.store).bytesAt node = _
    rw [Destination.bytesAt_close hclose, hdue]
  · have hstay : DebugAct.perform o' (.redirect selector) = o' := by simp [DebugAct.perform, hr]
    refine ⟨?_, ?_⟩
    · rw [performAll_append]
      exact hstay
    · rw [deliveries_append]
      exact List.append_nil _

/-- A file under two names, and standard error as the destination. -/
def twoNames : Outputs where
  store := ⟨#[.directory 0 [("a", 1), ("b", 1)], .regular [120]], 0, 0, 7, []⟩

/-- Opens a file, opens it again by its other name with bytes still held back, fails to open it as a
directory, and goes on writing. -/
def reopening : List DebugAct :=
  [.write [9], .redirect (some "a"), .write [1], .redirect (some "b"), .write [2, 3],
    .redirect (some "a/"), .flush, .write [4]]

theorem chunks_reach_their_outlets_reopening :
    twoNames.areSmooth reopening ∧
      (twoNames.performAll reopening).active.canClose (twoNames.performAll reopening).store ∧
      (twoNames.performAll reopening).ports.log.toList.filter (·.isWrite) = [.wrote .err [9]] ∧
      (twoNames.performAll reopening).closedStore.bytesAt 1 = [120, 1, 2, 3, 4] := by
  have hsmooth : twoNames.areSmooth reopening := by cbv
  have hclose : (twoNames.performAll reopening).active.canClose
      (twoNames.performAll reopening).store := by cbv
  obtain ⟨hlog, -, hdrop, -⟩ := chunks_reach_their_outlets twoNames reopening hsmooth
  refine ⟨hsmooth, hclose, ?_, ?_⟩
  · rw [hlog]
    cbv
  · rw [hdrop hclose 1]
    cbv

end Outputs

end MacroTrace
