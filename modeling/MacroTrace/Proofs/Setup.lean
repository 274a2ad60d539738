import MacroTrace.Replay
import MacroTrace.Proofs.Operation
/-!
# What a failed setup leaves behind

Before the first step of a replay, the configuration and the script are read, the flags are decoded,
and the debug file is opened, in this order. Reading leaves no trace, and opening a file may create
it; so everything else that can go wrong must have been found by then. Each stage has its fault, if
there is one, and a setup fails by the first of them with nothing changed (`Outputs.FailsBy`).
-/

namespace MacroTrace

/-- Why a computation has no value, if it has none. -/
def fault? {ε α : Type} : Except ε α → Option ε
  | .ok _ => none
  | .error e => some e

/-! ## What can be wrong -/

namespace Config

/-- What is wrong with the flags of a configuration. -/
def flagsFault? (config : Config) : Option Failure :=
  config.debugFlags.bind fun flags => (fault? (Level.decode (some flags))).map .badFlag

/-- What is wrong with the debug file of a configuration. -/
def debugFileFault? (config : Config) (s : FileStore) : Option Failure :=
  config.debugFile.bind fun path =>
    if path.isEmpty then none else (fault? (s.openAppend path)).map (.debugFile path)

end Config

namespace CommandLine

/-- The configuration that a command line names. -/
def loadConfig (c : CommandLine) (s : FileStore) : Except Failure Config :=
  match c.config with
  | some path => Config.load s path
  | none => .ok {}

/-- The settings that a command line asks for, those of its configuration included as far as it can
be loaded. -/
def settings (c : CommandLine) (s : FileStore) : Config :=
  c.applyTo ((c.loadConfig s).toOption.getD {})

/-- What is wrong besides the debug file: the configuration has no known format, cannot be read or
does not fit, or else the script cannot be read or does not fit, or else the flags are bad. -/
def faultBeforeFile? (c : CommandLine) (s : FileStore) : Option Failure :=
  (fault? (c.loadConfig s)).or ((fault? (Script.load s c.script)).or (c.settings s).flagsFault?)

/-- The first thing that is wrong with what a command line asks for. -/
def firstFault? (c : CommandLine) (s : FileStore) : Option Failure :=
  (c.faultBeforeFile? s).or ((c.settings s).debugFileFault? s)

end CommandLine

/-! ## Failing without a trace -/

namespace Outputs

variable {α β : Type} {o : Outputs}

/-- An operation fails if and only if there is this fault, and then leaves everything as it was. -/
def FailsBy (action : EStateM Failure Outputs α) (o : Outputs) (fault : Option Failure) : Prop :=
  match action o with
  | .ok _ _ => fault = none
  | .error cause last => fault = some cause ∧ last = o

namespace FailsBy

theorem lead (target : DebugTarget) (o : Outputs) :
    FailsBy (Outputs.lead target) o (fault? (o.redirect target)) := by
  unfold FailsBy Outputs.lead
  cases o.redirect target with
  | ok last => rfl
  | error cause => exact ⟨rfl, rfl⟩

/-- An operation that starts with reading fails by what cannot be read, or else by the fault of what
follows. -/
theorem reading_bind {load : FileStore → Except Failure α} {next : α → EStateM Failure Outputs β}
    {fault : Option Failure} (h : ∀ a, load o.store = .ok a → FailsBy (next a) o fault) :
    FailsBy (reading load >>= next) o ((fault? (load o.store)).or fault) := by
  cases hload : load o.store with
  | ok a =>
    have hread : reading load o = .ok a o := by
      unfold reading
      rw [hload]
    unfold FailsBy
    rw [bind_of_ok hread]
    exact h a hload
  | error cause =>
    have hread : reading load o = .error cause o := by
      unfold reading
      rw [hload]
    unfold FailsBy
    rw [bind_of_error hread]
    exact ⟨rfl, rfl⟩

/-- What cannot fail may follow. -/
theorem bind_of_total {action : EStateM Failure Outputs α} {next : α → EStateM Failure Outputs β}
    {fault : Option Failure} (h : FailsBy action o fault)
    (hnext : ∀ a last, ∃ b last', next a last = .ok b last') :
    FailsBy (action >>= next) o fault := by
  unfold FailsBy at h ⊢
  cases ha : action o with
  | ok a last =>
    obtain ⟨b, last', hb⟩ := hnext a last
    rw [ha] at h
    rw [bind_of_ok ha, hb]
    exact h
  | error cause last =>
    rw [ha] at h
    rw [bind_of_error ha]
    exact h

end FailsBy

theorem fault?_redirect (o : Outputs) (path : String) :
    fault? (o.redirect (.ofSelector (some path))) =
      if path.isEmpty then none else (fault? (o.store.openAppend path)).map (.debugFile path) := by
  unfold DebugTarget.ofSelector
  simp only
  split
  · rfl
  · unfold redirect
    simp only
    cases o.store.openAppend path <;> rfl

end Outputs

open Outputs (FailsBy)

namespace Session

/-- A session cannot be set up if its flags are bad, or else if its debug file cannot be opened. -/
theorem configure_failsBy (config : Config) (o : Outputs) :
    FailsBy (configure config) o (config.flagsFault?.or (config.debugFileFault? o.store)) := by
  have hfile : ∀ level : Level, FailsBy (do
      match config.debugFile with
      | some path => Outputs.lead (.ofSelector (some path))
      | none => pure ()
      return withSettings config level (← get)) o (config.debugFileFault? o.store) := by
    intro level
    unfold Config.debugFileFault?
    cases config.debugFile with
    | none => rfl
    | some path =>
      rw [Option.bind_some, ← Outputs.fault?_redirect]
      exact (FailsBy.lead _ o).bind_of_total fun _ last => ⟨_, last, rfl⟩
  unfold configure Config.flagsFault?
  cases config.debugFlags with
  | none => exact hfile .none
  | some flags =>
    have hdecode : fault? ((Level.decode (some flags)).mapError Failure.badFlag) =
        (fault? (Level.decode (some flags))).map .badFlag := by
      cases Level.decode (some flags) <;> rfl
    rw [Option.bind_some, ← hdecode]
    exact .reading_bind fun level _ => hfile level

end Session

/-- A setup fails by the first thing that is wrong, with nothing changed. -/
theorem setUp_failsBy (c : CommandLine) (o : Outputs) :
    FailsBy (setUp c) o (c.firstFault? o.store) := by
  have hscript : ∀ config : Config, c.loadConfig o.store = .ok config → FailsBy (do
      let steps ← Outputs.reading (Script.load · c.script)
      return (← Session.configure (c.applyTo config), steps)) o
        ((fault? (Script.load o.store c.script)).or
          ((c.settings o.store).flagsFault?.or ((c.settings o.store).debugFileFault? o.store))) := by
    intro config hconfig
    have hsettings : c.settings o.store = c.applyTo config := by
      unfold CommandLine.settings
      rw [hconfig]
      rfl
    rw [hsettings]
    exact .reading_bind fun steps _ =>
      (Session.configure_failsBy _ o).bind_of_total fun _ last => ⟨_, last, rfl⟩
  unfold setUp CommandLine.firstFault? CommandLine.faultBeforeFile?
  rw [Option.or_assoc, Option.or_assoc]
  cases hchosen : c.config with
  | none =>
    have hdefault : c.loadConfig o.store = .ok {} := by
      unfold CommandLine.loadConfig
      rw [hchosen]
    rw [hdefault]
    exact hscript {} hdefault
  | some path =>
    have hload : c.loadConfig o.store = Config.load o.store path := by
      unfold CommandLine.loadConfig
      rw [hchosen]
    rw [hload]
    exact .reading_bind fun config hconfig => hscript config (hload.trans hconfig)

/-- **A setup that fails leaves no trace.** A setup fails if and only if something is wrong, and by
the first thing that is, in this order: the configuration, the script, the flags, the debug file. It
has then written to no stream and flushed none, no file has been created or changed, and the replay
is over without a step. If it is not the debug file that is to blame, then it makes no difference
which debug file the command line names. -/
theorem failed_setUp_leaves_no_trace (c : CommandLine) (outputs : Outputs) :
    (∀ cause, (∃ last, setUp c outputs = .error cause last) ↔
      c.firstFault? outputs.store = some cause) ∧
    (∀ cause last, setUp c outputs = .error cause last →
      last = outputs ∧ replay c outputs = (.failed cause, outputs)) ∧
    ∀ cause, c.faultBeforeFile? outputs.store = some cause → ∀ file,
      setUp { c with debugFile := file } outputs = .error cause outputs := by
  have hfails : ∀ (c : CommandLine) (cause : Failure), c.firstFault? outputs.store = some cause →
      setUp c outputs = .error cause outputs := by
    intro c cause hfault
    have h := setUp_failsBy c outputs
    unfold FailsBy at h
    split at h
    · rw [h] at hfault
      cases hfault
    · rename_i found last hset
      obtain ⟨hfound, rfl⟩ := h
      rw [hfault] at hfound
      cases hfound
      exact hset
  have hleaves : ∀ cause last, setUp c outputs = .error cause last →
      c.firstFault? outputs.store = some cause ∧ last = outputs := by
    intro cause last hset
    have h := setUp_failsBy c outputs
    unfold FailsBy at h
    rw [hset] at h
    exact h
  refine ⟨fun cause => ⟨?_, fun hfault => ⟨outputs, hfails c cause hfault⟩⟩,
    fun cause last hset => ?_, fun cause hfault file => hfails _ cause ?_⟩
  · rintro ⟨last, hset⟩
    exact (hleaves cause last hset).1
  · obtain ⟨-, rfl⟩ := hleaves cause last hset
    refine ⟨rfl, ?_⟩
    unfold replay
    rw [hset]
  · -- The other stages do not look at the debug file.
    have hsame : ({ c with debugFile := file } : CommandLine).faultBeforeFile? outputs.store =
        some cause := hfault
    unfold CommandLine.firstFault?
    rw [hsame, Option.some_or]

/-- Outputs with an empty script among the files, and nothing else. -/
def emptyScriptOutputs : Outputs :=
  .start {}
    { FileStore.initial 0 with
      nodes := #[.directory 0 [("dev", 1), ("tmp", 3)], .directory 0 [("full", 2)], .full,
        .directory 0 [("work", 4)], .directory 3 [("a", 5)], .regular []] }
    none none

/-- Bad flags, and a debug file that could be created. -/
def badFlagsLine : CommandLine := { script := "a", debug := some "aZ", debugFile := some "d" }

theorem failed_setUp_leaves_no_trace_badFlagsLine :
    badFlagsLine.firstFault? emptyScriptOutputs.store = some (.badFlag ⟨'Z', 1, "aZ"⟩) ∧
      setUp badFlagsLine emptyScriptOutputs =
        .error (.badFlag ⟨'Z', 1, "aZ"⟩) emptyScriptOutputs ∧
      (replay badFlagsLine emptyScriptOutputs).2.store.find "d" = .error .noEntry ∧
      setUp { badFlagsLine with debugFile := some "no/d" } emptyScriptOutputs =
        .error (.badFlag ⟨'Z', 1, "aZ"⟩) emptyScriptOutputs ∧
      ((stateAfter (setUp { badFlagsLine with debug := some "a" })
        emptyScriptOutputs).store.find "d").isOk := by
  have hfault : badFlagsLine.firstFault? emptyScriptOutputs.store =
      some (.badFlag ⟨'Z', 1, "aZ"⟩) := by cbv
  have hbefore : badFlagsLine.faultBeforeFile? emptyScriptOutputs.store =
      some (.badFlag ⟨'Z', 1, "aZ"⟩) := by cbv
  have hvacant : emptyScriptOutputs.store.find "d" = .error .noEntry := by cbv
  have hcreated : ((stateAfter (setUp { badFlagsLine with debug := some "a" })
      emptyScriptOutputs).store.find "d").isOk := by cbv
  obtain ⟨hfails, hleaves, hany⟩ := failed_setUp_leaves_no_trace badFlagsLine emptyScriptOutputs
  obtain ⟨last, hset⟩ := (hfails _).mpr hfault
  obtain ⟨hlast, hreplay⟩ := hleaves _ last hset
  subst hlast
  have hother := hany _ hbefore (some "no/d")
  refine ⟨hfault, hset, ?_, hother, hcreated⟩
  rw [hreplay]
  exact hvacant

end MacroTrace
