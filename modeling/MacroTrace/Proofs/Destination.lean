import MacroTrace.Proofs.DebugOutput
/-!
# Where debug output can lead

However debug output is redirected from the start on, it never leads by a second way to where
standard output leads (`Outputs.one_way_to_stdout`). This holds although the destination is replaced
step by step: what comes out of a redirection depends on the target, the identities of the standard
streams and the files alone, and not on the destination before (`DebugTarget.destination`).
-/

namespace MacroTrace

/-- The destination that debug output gets when it is redirected to a target. Standard output takes
the place of what has the same identity, if both are known. -/
def DebugTarget.destination (outIdentity errIdentity : Option Identity) (store : FileStore) :
    DebugTarget → Except Failure Destination
  | stderr => .ok (if outIdentity.isSome ∧ outIdentity = errIdentity then .stdout else .stderr)
  | discard => .ok .discard
  | file path =>
    match store.openAppend path with
    | .ok (node, store) =>
      .ok (if outIdentity.isSome ∧ outIdentity = store.identity? node then .stdout
        else .file { path, node })
    | .error cause => .error (.debugFile path cause)

theorem DebugTarget.ofSelector_of_ne_empty {path : String} (h : path ≠ "") :
    ofSelector (some path) = file path := by
  have hpath : path.isEmpty = false := by simpa using h
  simp [ofSelector, hpath]

namespace Outputs

/-- The outputs once debug output has been redirected, if it can be. -/
def turn (o : Outputs) (target : DebugTarget) : Outputs :=
  match o.redirect target with
  | .ok o' => o'
  | .error _ => o

/-- What can come about from the start, if the standard streams have these identities, each of which
may be unknown. Debug output is redirected, whether or not that succeeds; it is written to and
flushed; and in between anything may happen to the files, so that a path may lead to another file
than before. Only what the system tells of the file that is open stays the same. -/
inductive Reachable (outIdentity errIdentity : Option Identity) : Outputs → Prop
  | start (ports : Ports) (store : FileStore) :
      Reachable outIdentity errIdentity (.start ports store outIdentity errIdentity)
  | turn {o : Outputs} (h : Reachable outIdentity errIdentity o) (target : DebugTarget) :
      Reachable outIdentity errIdentity (o.turn target)
  | perform {o : Outputs} (h : Reachable outIdentity errIdentity o) (act : DebugAct) :
      Reachable outIdentity errIdentity (act.perform o)
  | meanwhile {o : Outputs} (h : Reachable outIdentity errIdentity o) (store : FileStore)
      (hopen : ∀ writer, o.active = .file writer →
        store.identity? writer.node = o.store.identity? writer.node) :
      Reachable outIdentity errIdentity { o with store }

/-! ## One redirection -/

/-- Only what is known is compared. -/
theorem isShadowed_iff (o : Outputs) :
    o.isShadowed = true ↔ o.outIdentity.isSome ∧ o.outIdentity = o.activeIdentity := by
  unfold isShadowed
  cases o.outIdentity <;> cases o.activeIdentity <;> simp

theorem isShadowed_stderr {o : Outputs} (h : o.active = .stderr) :
    o.isShadowed = true ↔ o.outIdentity.isSome ∧ o.outIdentity = o.errIdentity := by
  rw [isShadowed_iff, activeIdentity, h]

theorem isShadowed_file {o : Outputs} {writer : FileWriter} (h : o.active = .file writer) :
    o.isShadowed = true ↔
      o.outIdentity.isSome ∧ o.outIdentity = o.store.identity? writer.node := by
  rw [isShadowed_iff, activeIdentity, h]

theorem isShadowed_of_no_identity {o : Outputs} (h : o.active = .stdout ∨ o.active = .discard) :
    o.isShadowed = false := by
  unfold isShadowed activeIdentity
  rcases h with h | h <;> rw [h] <;> cases o.outIdentity <;> rfl

/-- Where a redirection leads, and why it fails, has nothing to do with the destination before. -/
theorem redirect_destination (o : Outputs) (target : DebugTarget) :
    (o.redirect target).map (·.active) =
      target.destination o.outIdentity o.errIdentity o.store := by
  cases target with
  | stderr =>
    have hheld : ∀ w, Destination.stderr = .file w → w.held = [] := by simp
    have hshadowed := isShadowed_stderr
      (o := { o with active := .stderr, store := o.active.close o.store }) rfl
    simp only [redirect, DebugTarget.destination, Except.map, adopt_eq hheld]
    rw [if_congr hshadowed rfl rfl]
  | discard =>
    have hheld : ∀ w, Destination.discard = .file w → w.held = [] := by simp
    have hshadowed : isShadowed { o with active := .discard, store := o.active.close o.store } =
        false := isShadowed_of_no_identity (.inr rfl)
    simp only [redirect, DebugTarget.destination, Except.map, adopt_eq hheld]
    rw [hshadowed]
    rfl
  | file path =>
    simp only [redirect, DebugTarget.destination]
    cases hopen : o.store.openAppend path with
    | error cause => rfl
    | ok opened =>
      obtain ⟨node, store⟩ := opened
      have hheld : ∀ w, Destination.file { path, node } = .file w → w.held = [] := by simp
      have hshadowed := isShadowed_file
        (o := { o with active := .file { path, node }, store := o.active.close store }) rfl
      simp only [Except.map, adopt_eq hheld]
      rw [if_congr hshadowed rfl rfl, Destination.identity?_close]

/-! ## All redirections -/

/-- Debug output does not reach by another way what standard output reaches, and standard output
stands in for nothing while nobody knows what it reaches. -/
structure LeadsOneWay (outIdentity errIdentity : Option Identity) (o : Outputs) : Prop where
  out : o.outIdentity = outIdentity
  err : o.errIdentity = errIdentity
  unshadowed : o.isShadowed = false
  notStdout : outIdentity = none → o.active ≠ .stdout

section OneWay

variable {outIdentity errIdentity : Option Identity} {o : Outputs}

theorem adopt_leadsOneWay {next : Destination} (hheld : ∀ w, next = .file w → w.held = [])
    (hnext : next ≠ .stdout) (hout : o.outIdentity = outIdentity)
    (herr : o.errIdentity = errIdentity) :
    (o.adopt next).LeadsOneWay outIdentity errIdentity := by
  rw [adopt_eq hheld]
  by_cases hshadowed : isShadowed { o with active := next, store := o.active.close o.store }
  · simp only [hshadowed, if_true]
    refine ⟨hout, herr, isShadowed_of_no_identity (.inl rfl), fun hunknown => ?_⟩
    -- What reaches the same as standard output could only be told from a known identity.
    unfold isShadowed at hshadowed
    simp only [hout, hunknown, Bool.false_eq_true] at hshadowed
  · simp only [hshadowed, Bool.false_eq_true, if_false]
    have hunshadowed := Bool.not_eq_true _ ▸ hshadowed
    exact ⟨hout, herr, hunshadowed, fun _ => hnext⟩

theorem LeadsOneWay.turn (h : o.LeadsOneWay outIdentity errIdentity) (target : DebugTarget) :
    (o.turn target).LeadsOneWay outIdentity errIdentity := by
  unfold Outputs.turn
  cases hr : o.redirect target with
  | error failure => exact h
  | ok o' =>
    obtain ⟨next, hheld, hnext, rfl⟩ := redirect_eq_ok hr
    exact adopt_leadsOneWay hheld hnext h.out h.err

theorem activeIdentity_eq (o : Outputs) :
    o.activeIdentity = match o.active.outlet with
      | .port .err => o.errIdentity
      | .file node => o.store.identity? node
      | .port .out | .nowhere => none := by
  unfold activeIdentity
  cases o.active <;> rfl

/-- What is shadowed depends on the outlet and the identities. -/
theorem isShadowed_congr {o o' : Outputs} (houtlet : o'.active.outlet = o.active.outlet)
    (hout : o'.outIdentity = o.outIdentity) (herr : o'.errIdentity = o.errIdentity)
    (hfile : ∀ node, o.active.outlet = .file node →
      o'.store.identity? node = o.store.identity? node) : o'.isShadowed = o.isShadowed := by
  have hactive : o'.activeIdentity = o.activeIdentity := by
    rw [activeIdentity_eq, activeIdentity_eq, houtlet, herr]
    cases ho : o.active.outlet with
    | port p => cases p <;> rfl
    | file node => exact hfile node ho
    | nowhere => rfl
  unfold isShadowed
  rw [hout, hactive]

theorem LeadsOneWay.stays {o' : Outputs} (h : o.LeadsOneWay outIdentity errIdentity)
    (hstays : Stays o o') : o'.LeadsOneWay outIdentity errIdentity where
  out := hstays.outIdentity.trans h.out
  err := hstays.errIdentity.trans h.err
  unshadowed := by
    have hfile : ∀ node, o.active.outlet = .file node →
        o'.store.identity? node = o.store.identity? node := fun node _ => by rw [hstays.identity]
    rw [isShadowed_congr hstays.outlet hstays.outIdentity hstays.errIdentity hfile]
    exact h.unshadowed
  notStdout hunknown hstdout := by
    have houtlet := hstays.outlet
    rw [hstdout] at houtlet
    refine h.notStdout hunknown ?_
    cases ho : o.active with
    | stdout => rfl
    | _ =>
      rw [ho] at houtlet
      cases houtlet

theorem LeadsOneWay.perform (h : o.LeadsOneWay outIdentity errIdentity) (act : DebugAct) :
    (act.perform o).LeadsOneWay outIdentity errIdentity := by
  cases act with
  | redirect selector => exact h.turn (.ofSelector selector)
  | write bytes => exact h.stays (write_stays bytes o)
  | header program level location => exact h.stays (write_stays _ o)
  | flush => exact h.stays (flushAll_stays o)

theorem Reachable.leadsOneWay (h : o.Reachable outIdentity errIdentity) :
    o.LeadsOneWay outIdentity errIdentity := by
  induction h with
  | start ports store => exact adopt_leadsOneWay (by simp) (by simp) rfl rfl
  | turn _ target ih => exact ih.turn target
  | perform _ act ih => exact ih.perform act
  | @meanwhile o _ store hopen ih =>
    have hfile : ∀ node, o.active.outlet = .file node →
        store.identity? node = o.store.identity? node := by
      intro node houtlet
      obtain ⟨writer, hwriter, rfl⟩ := exists_writer houtlet
      exact hopen writer hwriter
    have hsame : isShadowed { o with store } = o.isShadowed := isShadowed_congr rfl rfl rfl hfile
    exact ⟨ih.out, ih.err, hsame.trans ih.unshadowed, ih.notStdout⟩

/-- Whatever has been done with debug output since the start, and whatever has become of the files:
if the identity of standard output is known, debug output goes neither to a standard error of the
same known identity nor to a file of the same known identity, by whichever path or link that file
was opened; if it is not known, debug output does not go to standard output. No selector is for
standard error, the empty one is for nothing, and any other is the path of a file. Where a
redirection leads depends on the target, the identities and the files, but not on the destination
before; one that fails leaves the outputs as they are. -/
theorem one_way_to_stdout (h : o.Reachable outIdentity errIdentity) :
    (∀ id, outIdentity = some id →
      (errIdentity = some id → o.active ≠ .stderr) ∧
      ∀ writer, o.active = .file writer → o.store.identity? writer.node ≠ some id) ∧
    (outIdentity = none → o.active ≠ .stdout) ∧
    (DebugTarget.ofSelector none = .stderr ∧ DebugTarget.ofSelector (some "") = .discard ∧
      ∀ path, path ≠ "" → DebugTarget.ofSelector (some path) = .file path) ∧
    ∀ target,
      (o.redirect target).map (·.active) =
        target.destination outIdentity errIdentity o.store ∧
      ∀ failure, target.destination outIdentity errIdentity o.store = .error failure →
        o.turn target = o := by
  have hway := h.leadsOneWay
  have hnever : ¬ o.isShadowed = true := by simp [hway.unshadowed]
  refine ⟨fun id hid => ⟨fun herr hstderr => ?_, fun writer hfile hsame => ?_⟩, hway.notStdout,
    ⟨rfl, rfl, fun path hpath => ?_⟩, fun target => ?_⟩
  · refine hnever ((isShadowed_stderr hstderr).mpr ?_)
    rw [hway.out, hway.err, hid, herr]
    exact ⟨rfl, rfl⟩
  · refine hnever ((isShadowed_file hfile).mpr ?_)
    rw [hway.out, hid, hsame]
    exact ⟨rfl, rfl⟩
  · exact DebugTarget.ofSelector_of_ne_empty hpath
  · have hdestination := o.redirect_destination target
    rw [hway.out, hway.err] at hdestination
    refine ⟨hdestination, fun failure hfails => ?_⟩
    rw [hfails] at hdestination
    unfold turn
    cases hr : o.redirect target with
    | error _ => rfl
    | ok o' =>
      rw [hr] at hdestination
      cases hdestination

end OneWay

/-- The file that both standard streams lead to, under two names and behind a link. -/
def linkedFile : FileStore :=
  ⟨#[.directory 0 [("out", 1), ("hard", 1), ("soft", 2)], .regular [], .link "out"], 0, 0, 7, []⟩

/-- The same files, once a link to the shared file has taken the place of another file. -/
def relinkedFile : FileStore :=
  ⟨#[.directory 0 [("out", 1), ("hard", 1), ("soft", 2), ("own", 2)], .regular [], .link "out",
    .regular []], 0, 0, 7, []⟩

/-- Debug output goes to a file of its own. -/
def ownOutputs : Outputs := (start {} linkedFile (some ⟨7, 1⟩) (some ⟨7, 1⟩)).turn (.file "own")

/-- Debug output is redirected to the same path, which is now a link, fails to go into a directory,
and goes to the shared file's second name. -/
def relinkedOutputs : Outputs :=
  (({ ownOutputs with store := relinkedFile }.turn (.file "own")).turn (.file "own/")).turn
    (.file "hard")

/-- The same outputs, at a time when the system tells nothing about the shared file. -/
def untoldOutputs : Outputs := { relinkedOutputs with store.unidentified := [1] }

theorem one_way_to_stdout_links :
    relinkedOutputs.Reachable (some ⟨7, 1⟩) (some ⟨7, 1⟩) ∧
      relinkedOutputs.active = .stdout ∧ relinkedOutputs.active ≠ .stderr ∧
      (relinkedOutputs.redirect (.file "soft")).map (·.active) = .ok .stdout ∧
      (relinkedOutputs.redirect (.file "new")).map (·.active) =
        .ok (.file { path := "new", node := 4 }) ∧
      relinkedOutputs.turn (.file "out/") = relinkedOutputs ∧
      (untoldOutputs.redirect (.file "hard")).map (·.active) =
        .ok (.file { path := "hard", node := 1 }) ∧
      (untoldOutputs.redirect .stderr).map (·.active) = .ok .stdout := by
  have hown : ownOutputs.Reachable (some ⟨7, 1⟩) (some ⟨7, 1⟩) :=
    (Reachable.start {} linkedFile).turn (.file "own")
  have hactive : ownOutputs.active = .file { path := "own", node := 3 } := by cbv
  have hopen : ∀ writer, ownOutputs.active = .file writer →
      relinkedFile.identity? writer.node = ownOutputs.store.identity? writer.node := by
    intro writer hwriter
    rw [hactive, Destination.file.injEq] at hwriter
    rw [← hwriter]
    cbv
  have hreach : relinkedOutputs.Reachable (some ⟨7, 1⟩) (some ⟨7, 1⟩) :=
    (((hown.meanwhile relinkedFile hopen).turn (.file "own")).turn (.file "own/")).turn
      (.file "hard")
  have hstdout : relinkedOutputs.active = .stdout := by cbv
  have huntold : untoldOutputs.Reachable (some ⟨7, 1⟩) (some ⟨7, 1⟩) := by
    refine hreach.meanwhile _ fun writer hwriter => ?_
    rw [hstdout] at hwriter
    cases hwriter
  obtain ⟨hknown, -, -, hturns⟩ := one_way_to_stdout hreach
  obtain ⟨-, -, -, hturns'⟩ := one_way_to_stdout huntold
  have hfails : DebugTarget.destination (some ⟨7, 1⟩) (some ⟨7, 1⟩) relinkedOutputs.store
      (.file "out/") = .error (.debugFile "out/" .isDirectory) := by cbv
  refine ⟨hreach, hstdout, (hknown _ rfl).1 rfl, ?_, ?_, (hturns (.file "out/")).2 _ hfails, ?_,
    (hturns' .stderr).1⟩
  · rw [(hturns (.file "soft")).1]
    cbv
  · rw [(hturns (.file "new")).1]
    cbv
  · rw [(hturns' (.file "hard")).1]
    cbv

end Outputs

end MacroTrace
