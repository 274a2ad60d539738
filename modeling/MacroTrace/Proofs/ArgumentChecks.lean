import MacroTrace.Proofs.Suppression
/-!
# Checks decide and nothing more

A check of arguments gives an answer, and warns if there is something to warn about. The answer is
settled by what is checked alone; the switches only settle what becomes of the warning. It may be
dropped, shown, or shown and then taken as the end of the run (`Session.checked`). Nothing else of
the session changes (`Session.checks_only_decide`).
-/

namespace MacroTrace

/-- An argument as a dump shows it; a builtin has no text. -/
def Argument.dumped (quotes : Quotes) (isQuoted : Bool) (arg : Argument) : String :=
  let value := match arg with
    | .text value => value
    | .builtin _ => ""
  if isQuoted then quotes.left ++ value ++ quotes.right else value

namespace Session

/-- The session once a warning has been shown and counted. -/
def warned (s : Session) (message : String) : Session :=
  { s.mapPorts (s.diagnostic (.warning message)).send with
    reporter.warnings := s.reporter.warnings + 1 }

/-- The session behind a warning, if there is one and warnings are not suppressed. -/
def warnedIf (s : Session) : Option String → Session
  | none => s
  | some message => if s.reporter.suppressWarnings then s else s.warned message

/-- A check that has this answer, and something to warn about or not. -/
def checked {α : Type} (warning? : Option String) (answer : α) : Act α := fun s =>
  match warning? with
  | none => .ok answer s
  | some message =>
    if s.reporter.suppressWarnings then .ok answer s
    else if s.reporter.fatalWarnings then .error (.exit .failure) (s.warned message)
    else .ok answer (s.warned message)

/-- An operation decides and does nothing more: it has an answer, and something to warn about or
not. -/
structure OnlyDecides {α : Type} (action : Act α) (s : Session) (warning? : Option String)
    (answer : α) : Prop where
  /-- At most the standard streams have taken in something, and a warning has been counted. -/
  frame : stateAfter action s =
    { s with
      tracer.outputs.ports := (stateAfter action s).outputs.ports
      reporter.warnings := (stateAfter action s).reporter.warnings }
  /-- There is one warning, shown and counted, if there is something to warn about and warnings are
  not suppressed; else there is none. -/
  warns : stateAfter action s = s.warnedIf warning?
  /-- The run is to end, and then as a failed one, if and only if there is a warning and warnings
  are fatal. -/
  exits : ∀ stop, stoppedBy action s = some stop ↔ stop = .exit .failure ∧
    warning?.isSome = true ∧ s.reporter.suppressWarnings = false ∧ s.reporter.fatalWarnings = true
  /-- Any value that comes out is the answer. -/
  answers : ∀ a s', action s = .ok a s' → a = answer

end Session

/-! ## Numbers of arguments -/

namespace CountCheck

variable {check : CountCheck}

theorem complaint?_of_few (h : check.supplied < check.least.toNat) :
    check.complaint? = some (.warning
      s!"{check.name}: too few arguments: {check.supplied} < {check.least.toNat}") :=
  if_pos h

theorem complaint?_of_many (hleast : check.least.toNat ≤ check.supplied) {most : UInt64}
    (hmost : check.most = some most) (h : most.toNat < check.supplied) :
    check.complaint? = some (.warning
      s!"{check.name}: extra arguments ignored: {check.supplied} > {most.toNat}") := by
  unfold complaint?
  rw [if_neg (Nat.not_lt.mpr hleast), hmost]
  exact if_pos h

theorem complaint?_of_right (hleast : check.least.toNat ≤ check.supplied)
    (h : ∀ most, check.most = some most → check.supplied ≤ most.toNat) :
    check.complaint? = none := by
  unfold complaint?
  rw [if_neg (Nat.not_lt.mpr hleast)]
  cases hmost : check.most with
  | none => rfl
  | some most => exact if_neg (Nat.not_lt.mpr (h most hmost))

theorem isEmpty_of_few (h : check.supplied < check.least.toNat) :
    check.isEmpty = !check.sideEffect := by
  simp [isEmpty, h]

theorem isEmpty_of_enough (h : check.least.toNat ≤ check.supplied) : check.isEmpty = false := by
  simp [isEmpty, h]

end CountCheck

namespace Session

/-! ## How checks end -/

section Checks

variable {α : Type} {s : Session}

theorem frame_warnedIf (s : Session) (warning? : Option String) :
    s.warnedIf warning? =
      { s with
        tracer.outputs.ports := (s.warnedIf warning?).outputs.ports
        reporter.warnings := (s.warnedIf warning?).reporter.warnings } := by
  cases warning? with
  | none => rfl
  | some message =>
    unfold warnedIf
    cases s.reporter.suppressWarnings <;> rfl

theorem stateAfter_checked (warning? : Option String) (answer : α) (s : Session) :
    stateAfter (checked warning? answer) s = s.warnedIf warning? := by
  cases warning? with
  | none => rfl
  | some message =>
    unfold stateAfter checked warnedIf
    cases s.reporter.suppressWarnings <;> cases s.reporter.fatalWarnings <;> rfl

theorem stoppedBy_checked (warning? : Option String) (answer : α) (s : Session) :
    stoppedBy (checked warning? answer) s =
      if warning?.isSome && !s.reporter.suppressWarnings && s.reporter.fatalWarnings then
        some (.exit .failure)
      else none := by
  cases warning? with
  | none => rfl
  | some message =>
    unfold stoppedBy checked
    cases s.reporter.suppressWarnings <;> cases s.reporter.fatalWarnings <;> rfl

theorem eq_of_checked_eq_ok {warning? : Option String} {answer a : α} {s' : Session}
    (h : checked warning? answer s = .ok a s') : a = answer := by
  unfold checked at h
  cases warning? with
  | none =>
    cases h
    rfl
  | some message =>
    cases hsuppress : s.reporter.suppressWarnings <;> cases hfatal : s.reporter.fatalWarnings <;>
      simp only [hsuppress, hfatal, Bool.false_eq_true, if_false, if_true] at h <;> cases h <;> rfl

theorem OnlyDecides.of_checked {action : Act α} {warning? : Option String} {answer : α}
    (h : action s = checked warning? answer s) : OnlyDecides action s warning? answer := by
  have hafter : stateAfter action s = s.warnedIf warning? :=
    (stateAfter_congr h).trans (stateAfter_checked warning? answer s)
  refine { frame := ?_, warns := hafter, exits := fun stop => ?_, answers := fun a s' ha => ?_ }
  · rw [hafter]
    exact frame_warnedIf s warning?
  · rw [stoppedBy_congr h, stoppedBy_checked]
    cases warning?.isSome <;> cases s.reporter.suppressWarnings <;>
      cases s.reporter.fatalWarnings <;> simp [eq_comm]
  · exact eq_of_checked_eq_ok (h.symm.trans ha)

/-- A warning that is shown is counted, if there is room. -/
theorem reported_warning (hroom : s.reporter.warnings.toNat + 1 < UInt64.size)
    (hshown : s.reporter.suppressWarnings = false) (message : String) :
    s.reporter.note (.warning message) =
        (Reporter.verdict s.reporter.warningStatus,
          { s.reporter with warnings := s.reporter.warnings + 1 }) ∧
      s.reported (.warning message) = s.warned message := by
  have hcount : countOne s.reporter.warnings = .ok (s.reporter.warnings + 1) := if_pos hroom
  have hnote : s.reporter.note (.warning message) =
      (Reporter.verdict s.reporter.warningStatus,
        { s.reporter with warnings := s.reporter.warnings + 1 }) := by
    simp [Reporter.note, Complaint.warning, hshown, Reporter.noteWarning, hcount]
  have hkept : ¬ s.drops (.warning message) := by simp [drops, hshown]
  refine ⟨hnote, ?_⟩
  rw [reported, if_neg hkept, hnote]
  rfl

/-- What comes of a warning depends on the switches. -/
theorem raise_warning (hplaced : s.location.isStray = false)
    (hroom : s.reporter.warnings.toNat + 1 < UInt64.size) (message : String) :
    raise (.warning message) s = checked (some message) () s := by
  have hraise := raise_eq hplaced (.warning message)
  unfold checked
  cases hsuppress : s.reporter.suppressWarnings with
  | true =>
    have hdrops : s.drops (.warning message) := by simp [drops, Complaint.warning, hsuppress]
    rw [hraise, note_of_drops hdrops, reported, if_pos hdrops]
    rfl
  | false =>
    obtain ⟨hnote, hreported⟩ := reported_warning hroom hsuppress message
    rw [hraise, hnote, hreported, Reporter.warningStatus]
    cases s.reporter.fatalWarnings <;> rfl

/-- Whether an answer is given behind a warning depends on the switches too; the answer does not. -/
theorem raiseAny_bind_pure (hplaced : s.location.isStray = false)
    (hroom : s.reporter.warnings.toNat + 1 < UInt64.size) (warning? : Option String) (answer : α) :
    (raiseAny (warning?.map .warning) >>= fun _ => pure answer) s = checked warning? answer s := by
  cases warning? with
  | none => rfl
  | some message =>
    refine (bind_congr_left (raise_warning hplaced hroom message) _).trans ?_
    simp only [bind, EStateM.bind, checked]
    cases s.reporter.suppressWarnings <;> cases s.reporter.fatalWarnings <;> rfl

theorem checkArgCount_checked (hplaced : s.location.isStray = false)
    (hroom : s.reporter.warnings.toNat + 1 < UInt64.size) {check : CountCheck}
    {warning? : Option String} (h : check.complaint? = warning?.map .warning) :
    checkArgCount check.name check.count check.least check.most check.sideEffect s =
      checked warning? check.isEmpty s := by
  rw [checkArgCount_eq, h]
  exact raiseAny_bind_pure hplaced hroom warning? check.isEmpty

theorem complaint?_eq_warning (check : NumberCheck) (blanks : Blanks) :
    check.complaint? blanks = ((check.complaint? blanks).map (·.message)).map .warning := by
  unfold NumberCheck.complaint?
  split
  · rfl
  · split <;> rfl

theorem numericArg_checked (hplaced : s.location.isStray = false)
    (hroom : s.reporter.warnings.toNat + 1 < UInt64.size) {check : NumberCheck}
    {warning? : Option String} (h : check.complaint? s.blanks = warning?.map .warning) :
    numericArg check.name check.text s = checked warning? (check.value? s.blanks) s := by
  rw [numericArg_eq, h]
  exact raiseAny_bind_pure hplaced hroom warning? (check.value? s.blanks)

end Checks

/-! ## Dumps -/

section Dumps

variable (s : Session) (separator : String) (isQuoted : Bool)

theorem dumped_eq (quotes : Quotes) (arg : Argument) :
    arg.dumped quotes isQuoted = quotes.wrapIf isQuoted arg.asText := by
  cases arg <;> rfl

/-- A separator stands before every argument but the first. -/
theorem dumpArgs_cons (first : Argument) (rest : List Argument) :
    s.dumpArgs (first :: rest) separator isQuoted =
      first.dumped s.quotes isQuoted ++
        String.join (rest.map fun arg => separator ++ arg.dumped s.quotes isQuoted) := by
  induction rest generalizing first with
  | nil => simp [dumpArgs, joinArguments, dumped_eq, String.join]
  | cons next rest ih =>
    have hsplit : s.dumpArgs (first :: next :: rest) separator isQuoted =
        first.dumped s.quotes isQuoted ++ separator ++
          s.dumpArgs (next :: rest) separator isQuoted := by
      simp only [dumpArgs, joinArguments, List.map_cons, String.intercalate_cons_cons, dumped_eq]
    rw [hsplit, ih next, List.map_cons, String.join_cons]
    simp only [String.append_assoc]

/-- Printing changes nothing but what standard output has taken in. -/
theorem stateAfter_print (text : String) :
    stateAfter (print text) s =
      { s with tracer.outputs.ports := (stateAfter (print text) s).outputs.ports } := by
  unfold print whileDoing writeOut onOutputs
  rw [stateAfter_mapError, stateAfter_onTracer]
  unfold stateAfter Tracer.onOutputs Outputs.onPorts outputs
  cases Ports.ask .out (.write (Utf8.encode text)) s.tracer.outputs.ports <;> rfl

theorem stateAfter_dump (builtins : Registry) (dump : ArgumentDump) :
    stateAfter (takeStep builtins (.dumpArgs dump)) s =
      { s with
        tracer.outputs.ports :=
          (stateAfter (takeStep builtins (.dumpArgs dump)) s).outputs.ports } := by
  have hprint : takeStep builtins (.dumpArgs dump) s =
      print (s.dumpArgs dump.args dump.separator dump.isQuoted ++ "\n") s := rfl
  rw [stateAfter_congr hprint]
  exact stateAfter_print s _

end Dumps

/-! ## What checks come to -/

/-- **Checks of arguments decide and nothing more.** Let the position make sense, and let there be
room in the count of warnings, which starts at zero. However the switches are set, a check of a
number of arguments warns of too few arguments or else of extra ones or not at all, and its answer
is that the call may be taken to expand to nothing just if there are too few and the builtin has no
side effect; the check of a numeric argument has a warning and an answer that do not depend on the
switches either. Besides that warning the session stays as it is: the level, the position, the
pending line, the destination, the quotes, the count of errors and the status with it. A dump of
arguments changes nothing but what standard output has taken in; it shows the arguments with the
separator between them, each in the quotes if that is asked for. -/
theorem checks_only_decide {s : Session} (hplaced : s.location.isStray = false)
    (hroom : s.reporter.warnings.toNat + 1 < UInt64.size) (suppress fatal : Bool) :
    let t := s.withSwitches suppress fatal
    (∀ check : CountCheck,
      let action := checkArgCount check.name check.count check.least check.most check.sideEffect
      let supplied := check.count.toNat - 1
      let least := check.least.toNat
      (supplied < least →
        OnlyDecides action t (some s!"{check.name}: too few arguments: {supplied} < {least}")
          (!check.sideEffect)) ∧
      (∀ most, least ≤ supplied → check.most = some most → most.toNat < supplied →
        OnlyDecides action t
          (some s!"{check.name}: extra arguments ignored: {supplied} > {most.toNat}") false) ∧
      (least ≤ supplied → (∀ most, check.most = some most → supplied ≤ most.toNat) →
        OnlyDecides action t none false)) ∧
    (∀ check : NumberCheck,
      OnlyDecides (numericArg check.name check.text) t
        ((check.complaint? s.blanks).map (·.message)) (check.value? s.blanks)) ∧
    ∀ (args : List Argument) (separator : String) (isQuoted : Bool) (builtins : Registry),
      let shown := Argument.dumped s.quotes isQuoted
      let printed := stateAfter (takeStep builtins (.dumpArgs ⟨args, separator, isQuoted⟩)) s
      printed = { s with tracer.outputs.ports := printed.outputs.ports } ∧
      s.dumpArgs args separator isQuoted = match args with
        | [] => ""
        | first :: rest =>
          shown first ++ String.join (rest.map fun arg => separator ++ shown arg) := by
  have hplaced' : (s.withSwitches suppress fatal).location.isStray = false := hplaced
  refine ⟨fun check => ⟨fun hfew => ?_, fun most hleast hmost hmany => ?_, fun hleast hmost => ?_⟩,
    fun check => ?_, fun args separator isQuoted builtins => ⟨?_, ?_⟩⟩
  · rw [← CountCheck.isEmpty_of_few hfew]
    exact .of_checked (checkArgCount_checked hplaced' hroom (CountCheck.complaint?_of_few hfew))
  · rw [← CountCheck.isEmpty_of_enough hleast]
    exact .of_checked
      (checkArgCount_checked hplaced' hroom (CountCheck.complaint?_of_many hleast hmost hmany))
  · rw [← CountCheck.isEmpty_of_enough hleast]
    exact .of_checked
      (checkArgCount_checked hplaced' hroom (CountCheck.complaint?_of_right hleast hmost))
  · exact .of_checked (numericArg_checked hplaced' hroom (complaint?_eq_warning check s.blanks))
  · exact stateAfter_dump s builtins _
  · cases args with
    | nil => rfl
    | cons first rest => exact dumpArgs_cons s separator isQuoted first rest

/-- A call with one argument too many. -/
def crowdedCheck : CountCheck := { name := "len", count := 3, least := 1, most := some 1 }

theorem checks_only_decide_crowdedCheck :
    plainSession.location.isStray = false ∧
      plainSession.reporter.warnings.toNat + 1 < UInt64.size ∧
      stateAfter (checkArgCount "len" 3 1 (some 1) false) (plainSession.withSwitches false true) =
        (plainSession.withSwitches false true).warned "len: extra arguments ignored: 2 > 1" ∧
      stoppedBy (checkArgCount "len" 3 1 (some 1) false) (plainSession.withSwitches false true) =
        some (.exit .failure) := by
  have hplaced : plainSession.location.isStray = false := rfl
  have hroom : plainSession.reporter.warnings.toNat + 1 < UInt64.size := by decide
  obtain ⟨hcount, -, -⟩ := checks_only_decide hplaced hroom false true
  have hcrowded := (hcount crowdedCheck).2.1 1 (by decide) rfl (by decide)
  exact ⟨hplaced, hroom, hcrowded.warns, (hcrowded.exits _).mpr ⟨rfl, rfl, rfl, rfl⟩⟩

end Session

end MacroTrace
