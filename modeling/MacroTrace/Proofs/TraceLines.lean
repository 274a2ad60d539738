import MacroTrace.Session
import MacroTrace.Proofs.DebugOutput
import MacroTrace.Proofs.TraceText
/-!
# Which lines a trace consists of

A caller traces calls, changes settings and redirects debug output in any order. For the trace this
comes to a list of marks (`TraceAct.marks`): fragments of text, ends of lines, lines thrown away,
and changes of the destination. The marks depend on the calls and on the settings in force at each
of them, and on nothing else; in particular not on whether anything can be written. They split into
stretches at the ends of lines (`TraceSplit`), and each stretch is one line, or nothing at all if it
was thrown away.
-/

namespace MacroTrace

/-- What a caller can do that has to do with trace lines: trace a call when it is met, when its
arguments are known and when its expansion is, change what the lines depend on, and redirect debug
output. -/
inductive TraceAct
  | prepre (call : Call)
  | pre (builtins : Registry) (call : Call)
  | post (call : Call) (expansion : Option String)
  | decodeLevel (flags : Option String)
  | setLevel (level : Level)
  | setQuotes (quotes : Quotes)
  | setLimit (limit : UInt64)
  | setLocation (location : Location)
  | setProgram (program : String)
  | redirect (selector : Option String)
deriving DecidableEq, Repr

/-- What an act means for the pending line and the destination: text is appended to the line, the
line is written, or thrown away, and debug output is redirected. -/
inductive TraceMark
  | fragment (bytes : Bytes)
  | finish
  | drop
  | redirect (selector : Option String)
deriving DecidableEq, Repr

namespace TraceMark

/-- Whether the pending line ends here, in one way or the other. -/
def isBreak : TraceMark → Bool
  | finish | drop => true
  | _ => false

def fragment? : TraceMark → Option Bytes
  | fragment bytes => some bytes
  | _ => none

def redirect? : TraceMark → Option DebugAct
  | redirect selector => some (.redirect selector)
  | _ => none

end TraceMark

namespace TraceAct

def action : TraceAct → Act Unit
  | prepre call => Session.tracePrepre call
  | pre builtins call => Session.tracePre builtins call
  | post call expansion => Session.tracePost call expansion
  | decodeLevel flags => do let _ ← Session.decodeLevel flags
  | setLevel level => Session.setLevel level
  | setQuotes quotes => modify fun s => { s with quotes }
  | setLimit limit => modify fun s => { s with limit }
  | setLocation location => modify fun s => { s with location }
  | setProgram program => modify fun s => { s with program }
  | redirect selector => Session.setDebugOutput selector

/-- What trace lines depend on after an act. -/
def settingsAfter (t : TraceSettings) : TraceAct → TraceSettings
  | decodeLevel flags =>
    match Level.decode flags with
    | .ok level => { t with level }
    | .error _ => t
  | setLevel level => { t with level }
  | setQuotes quotes => { t with quotes }
  | setLimit limit => { t with limit }
  | setLocation location => { t with location }
  | setProgram program => { t with program }
  | _ => t

/-- The marks of an act. There are none if it ends the program. -/
def marks? (t : TraceSettings) : TraceAct → Option (List TraceMark)
  | prepre call => some [.fragment (Utf8.encode (t.prepreText call)), .finish]
  | pre builtins call =>
    match t.unknownBuiltin? builtins call with
    | some _ => none
    | none =>
      some (.fragment (Utf8.encode (t.preText builtins call))
        :: if t.level.has .call then [.finish] else [])
  | post call expansion => some [.fragment (Utf8.encode (t.postText call expansion)), .finish]
  | decodeLevel flags =>
    match Level.decode flags with
    | .ok _ => some [.drop]
    | .error _ => some []
  | setLevel _ => some [.drop]
  | redirect selector => some [.redirect selector]
  | _ => some []

/-- The marks of all acts, as long as none of them ends the program. -/
def allMarks? (t : TraceSettings) : List TraceAct → Option (List TraceMark)
  | [] => some []
  | act :: rest => do return (← act.marks? t) ++ (← allMarks? (act.settingsAfter t) rest)

end TraceAct

/-- Does everything that is asked for, one after the other. A caller goes on after a failure; there
is no going on once the program has ended. -/
def Session.traceAll (s : Session) : List TraceAct → Option Session
  | [] => some s
  | act :: rest =>
    match act.action s with
    | .error .abort _ => none
    | .ok _ s | .error _ s => s.traceAll rest

/-! ## Stretches -/

def fragmentsOf (marks : List TraceMark) : List Bytes := marks.filterMap (·.fragment?)

def redirectsOf (marks : List TraceMark) : List DebugAct := marks.filterMap (·.redirect?)

/-- Marks up to the end of a line. -/
structure Stretch where
  body : List TraceMark
  unbroken : ∀ mark ∈ body, mark.isBreak = false
  /-- Whether the line is written and not thrown away. -/
  isWritten : Bool

namespace Stretch

def marks (st : Stretch) : List TraceMark := st.body ++ [if st.isWritten then .finish else .drop]

/-- The line: all fragments, and a newline. -/
def line (st : Stretch) : Bytes := (fragmentsOf st.body).flatten ++ Utf8.encode "\n"

/-- What a stretch means for debug output: redirections, and in the end one write if the line is
written. -/
def debugActs (st : Stretch) : List DebugAct :=
  redirectsOf st.body ++ if st.isWritten then [.write st.line] else []

end Stretch

/-- Marks split into stretches, and those behind the last end of a line; no mark is left out. -/
structure TraceSplit (marks : List TraceMark) where
  stretches : List Stretch
  rest : List TraceMark
  unbroken : ∀ mark ∈ rest, mark.isBreak = false
  whole : stretches.flatMap Stretch.marks ++ rest = marks

namespace TraceSplit

variable {marks : List TraceMark}

/-- What the marks mean for debug output. -/
def debugActs (split : TraceSplit marks) : List DebugAct :=
  split.stretches.flatMap Stretch.debugActs ++ redirectsOf split.rest

def pending (split : TraceSplit marks) : Bytes := (fragmentsOf split.rest).flatten

/-- Behind the end of a line nothing is pending. -/
theorem rest_of_break (split : TraceSplit marks) {mark : TraceMark}
    (hlast : marks.getLast? = some mark) (hbreak : mark.isBreak) : split.rest = [] := by
  cases hrest : split.rest.getLast? with
  | none => exact List.getLast?_eq_none_iff.mp hrest
  | some last =>
    have hmem := List.mem_of_getLast? hrest
    have hsame : last = mark := by
      have hw := split.whole
      rw [← hw, List.getLast?_append, hrest] at hlast
      exact Option.some.inj hlast
    rw [hsame] at hmem
    have hno := split.unbroken mark hmem
    rw [hbreak] at hno
    cases hno

end TraceSplit

/-! ## What marks do to a tracer -/

/-- Does to a tracer what a mark says. A line is pending no longer once it is to be written, even if
the write fails. -/
def Tracer.take (t : Tracer) : TraceMark → Tracer
  | .fragment bytes => { t with pending := t.pending.pushBytes bytes }
  | .finish =>
    { pending := .empty
      outputs := stateAfter (Outputs.write (t.pending.bytes ++ Utf8.encode "\n")) t.outputs }
  | .drop => { t with pending := .empty }
  | .redirect selector => { t with outputs := (DebugAct.redirect selector).perform t.outputs }

/-- An operation comes to its end, or fails in the middle so that a caller can go on, and leaves the
same state behind in either case. -/
inductive EndsIn {σ : Type} (action : EStateM Stop σ Unit) (s s' : σ) : Prop
  | ended (h : action s = .ok () s')
  | failed (cause : Failure) (h : action s = .error (.failure cause) s')
      (known : ∀ id, cause ≠ .unknownBuiltin id)

theorem EndsIn.after {σ : Type} {first second : EStateM Stop σ Unit} {s s' s'' : σ}
    (hfirst : first s = .ok () s') (hsecond : EndsIn second s' s'') :
    EndsIn (first >>= fun _ => second) s s'' := by
  cases hsecond with
  | ended h => exact .ended (by rw [bind_of_ok hfirst, h])
  | failed cause h known => exact .failed cause (by rw [bind_of_ok hfirst, h]) known

theorem EndsIn.stateAfter {σ : Type} {action : EStateM Stop σ Unit} {s s' : σ}
    (h : EndsIn action s s') : stateAfter action s = s' := by
  cases h with
  | ended h => exact stateAfter_of_ok h
  | failed cause h _ => exact stateAfter_of_error h

theorem EndsIn.ne_abort {σ : Type} {action : EStateM Stop σ Unit} {s s' s'' : σ}
    (h : EndsIn action s s') : action s ≠ .error .abort s'' := by
  intro habort
  cases h with
  | ended h =>
    rw [h] at habort
    cases habort
  | failed cause h _ =>
    rw [h] at habort
    cases habort

theorem EndsIn.of_eq {σ : Type} {action other : EStateM Stop σ Unit} {s s' s'' : σ}
    (he : action s = other s') (h : EndsIn other s' s'') : EndsIn action s s'' := by
  cases h with
  | ended h => exact .ended (he.trans h)
  | failed cause h known => exact .failed cause (he.trans h) known

namespace Tracer

/-- A tracer has taken marks: it has written each line of theirs, and the last one is pending. -/
def Took (o : Outputs) (marks : List TraceMark) (t : Tracer) : Prop :=
  ∃ split : TraceSplit marks, t.outputs = o.performAll split.debugActs ∧
    t.pending.bytes = split.pending

theorem fragmentsOf_append (a b : List TraceMark) :
    fragmentsOf (a ++ b) = fragmentsOf a ++ fragmentsOf b := by
  simp [fragmentsOf]

theorem redirectsOf_append (a b : List TraceMark) :
    redirectsOf (a ++ b) = redirectsOf a ++ redirectsOf b := by
  simp [redirectsOf]

/-- What is pending at first counts as a fragment. -/
theorem took_pending (t : Tracer) : Took t.outputs [.fragment t.pending.bytes] t := by
  refine ⟨⟨[], [.fragment t.pending.bytes], ?_, rfl⟩, rfl, ?_⟩
  · intro mark hmark
    rw [List.mem_singleton.mp hmark]
    rfl
  · simp [TraceSplit.pending, fragmentsOf, TraceMark.fragment?]

/-- A mark that ends no line belongs to what is behind the last end of a line. -/
theorem Took.extend {o : Outputs} {marks : List TraceMark} {t : Tracer} (h : Took o marks t)
    {mark : TraceMark} (hmark : mark.isBreak = false) : Took o (marks ++ [mark]) (t.take mark) := by
  obtain ⟨split, houtputs, hpending⟩ := h
  have hunbroken : ∀ m ∈ split.rest ++ [mark], m.isBreak = false := by
    intro m hm
    rcases List.mem_append.mp hm with hm | hm
    · exact split.unbroken m hm
    · rw [List.mem_singleton.mp hm]
      exact hmark
  have hwhole :
      split.stretches.flatMap Stretch.marks ++ (split.rest ++ [mark]) = marks ++ [mark] := by
    rw [← List.append_assoc, split.whole]
  refine ⟨⟨split.stretches, split.rest ++ [mark], hunbroken, hwhole⟩, ?_, ?_⟩
  · simp only [TraceSplit.debugActs, redirectsOf_append]
    rw [← List.append_assoc, Outputs.performAll_append]
    cases mark with
    | fragment bytes => exact houtputs
    | redirect selector =>
      show DebugAct.perform t.outputs (.redirect selector) = _
      rw [houtputs]
      rfl
    | _ => cases hmark
  · simp only [TraceSplit.pending, fragmentsOf_append, List.flatten_append]
    cases mark with
    | fragment bytes =>
      show t.pending.bytes ++ bytes = _
      rw [hpending]
      simp [TraceSplit.pending, fragmentsOf, TraceMark.fragment?]
    | redirect selector =>
      show t.pending.bytes = _
      rw [hpending]
      simp [TraceSplit.pending, fragmentsOf, TraceMark.fragment?]
    | _ => cases hmark

theorem Took.complete {o : Outputs} {marks : List TraceMark} {t : Tracer} (h : Took o marks t)
    (isWritten : Bool) :
    Took o (marks ++ [if isWritten then .finish else .drop])
      (t.take (if isWritten then .finish else .drop)) := by
  obtain ⟨split, houtputs, hpending⟩ := h
  let last : Stretch := ⟨split.rest, split.unbroken, isWritten⟩
  have hlast : [last].flatMap Stretch.marks =
      split.rest ++ [if isWritten then .finish else .drop] := by
    simp [last, Stretch.marks]
  have hwhole : (split.stretches ++ [last]).flatMap Stretch.marks ++ [] =
      marks ++ [if isWritten then .finish else .drop] := by
    rw [List.append_nil, List.flatMap_append, hlast, ← List.append_assoc, split.whole]
  refine ⟨⟨split.stretches ++ [last], [], by simp, hwhole⟩, ?_, ?_⟩
  · have hacts : (split.stretches ++ [last]).flatMap Stretch.debugActs ++ redirectsOf [] =
        split.debugActs ++ if isWritten then [.write last.line] else [] := by
      simp [TraceSplit.debugActs, Stretch.debugActs, last, redirectsOf]
    show _ = o.performAll _
    rw [TraceSplit.debugActs, hacts, Outputs.performAll_append, ← houtputs]
    cases isWritten with
    | false => rfl
    | true =>
      show stateAfter (Outputs.write (t.pending.bytes ++ Utf8.encode "\n")) t.outputs = _
      rw [hpending]
      rfl
  · cases isWritten <;> rfl

theorem Took.take {o : Outputs} {marks : List TraceMark} {t : Tracer} (h : Took o marks t)
    (mark : TraceMark) : Took o (marks ++ [mark]) (t.take mark) := by
  cases mark with
  | fragment bytes => exact h.extend rfl
  | redirect selector => exact h.extend rfl
  | finish => exact h.complete true
  | drop => exact h.complete false

theorem Took.takeAll {o : Outputs} {marks : List TraceMark} {t : Tracer} (h : Took o marks t)
    (more : List TraceMark) : Took o (marks ++ more) (more.foldl Tracer.take t) := by
  induction more generalizing marks t with
  | nil => simpa using h
  | cons mark rest ih =>
    have hrest := ih (h.take mark)
    rwa [List.append_assoc] at hrest

/-! ## What acts do to a tracer -/

theorem finishLine_endsIn (t : Tracer) : EndsIn finishLine t (t.take .finish) := by
  unfold take stateAfter
  cases h : Outputs.write (t.pending.bytes ++ Utf8.encode "\n") t.outputs with
  | ok _ outputs => exact .ended (by simp [finishLine, LineBuffer.take, h])
  | error cause outputs =>
    refine .failed (.system "writing trace output" cause) ?_ (by simp)
    simp [finishLine, LineBuffer.take, h]

/-- A line that is said and then written. -/
theorem line_endsIn {o : TemplateOptions} {phrases : List Phrase} {text : String}
    (h : Says o phrases text) (t : Tracer) :
    EndsIn (sayAll o phrases >>= fun _ => finishLine) t
      ([TraceMark.fragment (Utf8.encode text), .finish].foldl take t) :=
  .after (h t) (finishLine_endsIn _)

theorem pre_endsIn {t : TraceSettings} {builtins : Registry} {call : Call} {marks : List TraceMark}
    (h : (TraceAct.pre builtins call).marks? t = some marks) (tracer : Tracer) :
    EndsIn (pre t builtins call) tracer (marks.foldl take tracer) := by
  simp only [TraceAct.marks?] at h
  cases hu : t.unknownBuiltin? builtins call with
  | some id => simp [hu] at h
  | none =>
    simp only [hu, Option.some.injEq] at h
    subst h
    have hknown := t.pre_of_known builtins call hu tracer
    by_cases hcall : t.level.has .call
    · rw [if_pos hcall] at hknown ⊢
      exact .of_eq hknown (finishLine_endsIn _)
    · rw [if_neg hcall] at hknown ⊢
      exact .ended hknown

end Tracer

/-! ## What acts do to a session -/

theorem EndsIn.onTracer {action : EStateM Stop Tracer Unit} {s : Session} {t : Tracer}
    (h : EndsIn action s.tracer t) : EndsIn (Session.onTracer action) s { s with tracer := t } := by
  cases h with
  | ended h => exact .ended (by simp [Session.onTracer, h])
  | failed cause h known => exact .failed cause (by simp [Session.onTracer, h]) known

namespace Session

theorem stateAfter_mapError {ε δ σ α : Type} (f : ε → δ) (action : EStateM ε σ α) (s : σ) :
    stateAfter (mapError f action) s = stateAfter action s := by
  unfold stateAfter mapError
  cases action s <;> rfl

theorem tracePrepre_endsIn (call : Call) (s : Session) :
    EndsIn (tracePrepre call) s
      { s with
        tracer :=
          [TraceMark.fragment (Utf8.encode (s.traceSettings.prepreText call)),
            TraceMark.finish].foldl Tracer.take s.tracer } := by
  have hline := Tracer.line_endsIn (s.traceSettings.says_prepre call) s.tracer
  exact .of_eq (get_bind _ s) hline.onTracer

theorem tracePost_endsIn (call : Call) (expansion : Option String) (s : Session) :
    EndsIn (tracePost call expansion) s
      { s with
        tracer :=
          [TraceMark.fragment (Utf8.encode (s.traceSettings.postText call expansion)),
            TraceMark.finish].foldl Tracer.take s.tracer } := by
  have hline := Tracer.line_endsIn (s.traceSettings.says_post call expansion) s.tracer
  exact .of_eq (get_bind _ s) hline.onTracer

theorem tracePre_endsIn {builtins : Registry} {call : Call} {s : Session} {marks : List TraceMark}
    (h : (TraceAct.pre builtins call).marks? s.traceSettings = some marks) :
    EndsIn (tracePre builtins call) s { s with tracer := marks.foldl Tracer.take s.tracer } := by
  unfold tracePre
  refine .of_eq (get_bind _ s) ?_
  cases (Tracer.pre_endsIn h s.tracer).onTracer with
  | ended h => exact .ended (tryCatch_of_ok h)
  | failed cause h known =>
    refine .failed cause ((tryCatch_of_error h).trans ?_) known
    cases cause with
    | unknownBuiltin id => exact absurd rfl (known id)
    | _ => rfl

/-- How the program words that it ends itself over a builtin. -/
def unknownBuiltinAlarm (id : BuiltinId) (call : Call) : String :=
  s!"{(Failure.unknownBuiltin id).message} (trace_pre, macro `{call.name}')"

/-- A call with a builtin that the table does not know ends the program, once everything has been
flushed that can be. -/
theorem tracePre_of_unknown {builtins : Registry} {call : Call} {id : BuiltinId} {s : Session}
    (h : s.traceSettings.unknownBuiltin? builtins call = some id) :
    tracePre builtins call s = .error .abort
      ((stateAfter flushAll { s with tracer := s.tracer.take .drop }).mapPorts
        (sendAlarm
          (stateAfter flushAll { s with tracer := s.tracer.take .drop }).program
          (unknownBuiltinAlarm id call))) := by
  have hpre : onTracer (Tracer.pre s.traceSettings builtins call) s =
      .error (.failure (.unknownBuiltin id)) { s with tracer := s.tracer.take .drop } := by
    simp only [onTracer, s.traceSettings.pre_of_unknown builtins call h]
    rfl
  unfold tracePre
  rw [get_bind, tryCatch_of_error hpre]
  simp only
  rw [attempt_bind, stateAfter_mapError]
  rfl

end Session

namespace TraceAct

/-- A call that cannot be shown with its arguments ends the program. -/
theorem action_of_no_marks {act : TraceAct} {s : Session} (h : act.marks? s.traceSettings = none) :
    ∃ s', act.action s = .error .abort s' := by
  cases act with
  | pre builtins call =>
    simp only [marks?] at h
    cases hu : s.traceSettings.unknownBuiltin? builtins call with
    | none => simp [hu] at h
    | some id => exact ⟨_, Session.tracePre_of_unknown hu⟩
  | decodeLevel flags =>
    simp only [marks?] at h
    split at h <;> cases h
  | _ => cases h

/-- What an act does is what its marks say, whether or not anything can be written. -/
theorem action_endsIn {act : TraceAct} {s : Session} {marks : List TraceMark}
    (h : act.marks? s.traceSettings = some marks) :
    ∃ s', EndsIn act.action s s' ∧ s'.tracer = marks.foldl Tracer.take s.tracer ∧
      s'.traceSettings = act.settingsAfter s.traceSettings := by
  cases act with
  | prepre call =>
    cases h
    exact ⟨_, Session.tracePrepre_endsIn call s, rfl, rfl⟩
  | pre builtins call => exact ⟨_, Session.tracePre_endsIn h, rfl, rfl⟩
  | post call expansion =>
    cases h
    exact ⟨_, Session.tracePost_endsIn call expansion s, rfl, rfl⟩
  | decodeLevel flags =>
    simp only [marks?] at h
    simp only [action, Session.decodeLevel, settingsAfter]
    cases hd : Level.decode flags with
    | ok level =>
      simp only [hd, Option.some.injEq] at h
      subst h
      exact ⟨_, .ended rfl, rfl, rfl⟩
    | error cause =>
      simp only [hd, Option.some.injEq] at h
      subst h
      exact ⟨s, .failed (.badFlag cause) rfl (by simp), rfl, rfl⟩
  | redirect selector =>
    cases h
    show ∃ s', EndsIn (Session.setDebugOutput selector) s s' ∧
      s'.tracer = { s.tracer with outputs := (DebugAct.redirect selector).perform s.outputs } ∧ _
    cases hr : s.outputs.redirect (.ofSelector selector) with
    | ok outputs =>
      refine ⟨{ s with tracer.outputs := outputs }, .ended ?_, ?_, rfl⟩
      · simp only [Session.setDebugOutput, hr]
      · simp only [DebugAct.perform, hr]
    | error failure =>
      obtain ⟨path, cause, hfailure⟩ := Outputs.redirect_eq_error hr
      refine ⟨s, .failed failure ?_ (by simp [hfailure]), ?_, rfl⟩
      · simp only [Session.setDebugOutput, hr]
      · simp only [DebugAct.perform, hr]
        rfl
  | _ =>
    cases h
    exact ⟨_, .ended rfl, rfl, rfl⟩

end TraceAct

namespace Session

theorem traceAll_of_endsIn {act : TraceAct} {s s' : Session} (h : EndsIn act.action s s')
    (rest : List TraceAct) : s.traceAll (act :: rest) = s'.traceAll rest := by
  cases h with
  | ended h => simp only [traceAll, h]
  | failed cause h _ => simp only [traceAll, h]

/-- The program ends itself at the first act without marks. -/
theorem traceAll_of_no_marks {s : Session} {acts : List TraceAct}
    (h : TraceAct.allMarks? s.traceSettings acts = none) : s.traceAll acts = none := by
  induction acts generalizing s with
  | nil => cases h
  | cons act rest ih =>
    cases hm : act.marks? s.traceSettings with
    | none =>
      obtain ⟨s', habort⟩ := TraceAct.action_of_no_marks hm
      simp only [traceAll, habort]
    | some marks =>
      obtain ⟨s', hends, -, hsettings⟩ := TraceAct.action_endsIn hm
      rw [traceAll_of_endsIn hends]
      refine ih ?_
      rw [hsettings]
      cases hrest : TraceAct.allMarks? (act.settingsAfter s.traceSettings) rest with
      | none => rfl
      | some later => simp [TraceAct.allMarks?, hm, hrest] at h

/-- A run does to the tracer what the marks of its acts say, one after the other. -/
theorem traceAll_of_marks {s : Session} {acts : List TraceAct} {marks : List TraceMark}
    (h : TraceAct.allMarks? s.traceSettings acts = some marks) :
    ∃ s', s.traceAll acts = some s' ∧ s'.tracer = marks.foldl Tracer.take s.tracer := by
  induction acts generalizing s marks with
  | nil =>
    cases h
    exact ⟨s, rfl, rfl⟩
  | cons act rest ih =>
    simp only [TraceAct.allMarks?, Option.bind_eq_bind, Option.bind_eq_some_iff,
      Option.pure_def, Option.some.injEq] at h
    obtain ⟨first, hfirst, later, hlater, hmarks⟩ := h
    obtain ⟨s₁, hends, htracer, hsettings⟩ := TraceAct.action_endsIn hfirst
    rw [← hsettings] at hlater
    obtain ⟨s', hrun, htracer'⟩ := ih hlater
    refine ⟨s', by rw [traceAll_of_endsIn hends, hrun], ?_⟩
    rw [htracer', htracer, ← hmarks, List.foldl_append]

/-- Whatever a caller does, and whatever of it can be written, the debug output of a trace is this:
the fragments of text, each with the settings in force at its own call, split into stretches at the
ends of lines. A stretch whose end is the end of a call comes to one write, to the destination in
force at that moment, of its fragments in order and a newline. A stretch that ends with a change of
the level comes to nothing. The fragments behind the last stretch are what is pending, so after the
end of a line nothing is. What is pending at first counts as a fragment. If a call cannot be shown
with its arguments, the program ends there. -/
theorem trace_in_lines (s : Session) (acts : List TraceAct) :
    match TraceAct.allMarks? s.traceSettings acts with
    | none => s.traceAll acts = none
    | some marks =>
      ∃ (s' : Session) (split : TraceSplit (.fragment s.tracer.pending.bytes :: marks)),
        s.traceAll acts = some s' ∧
        s'.outputs = s.outputs.performAll split.debugActs ∧
        s'.tracer.pending.bytes = (fragmentsOf split.rest).flatten ∧
        s'.tracer.pending.length = ((fragmentsOf split.rest).map List.length).sum ∧
        (marks.getLast? = some .finish → s'.tracer.pending.length = 0) := by
  split
  · rename_i h
    exact traceAll_of_no_marks h
  · rename_i marks h
    obtain ⟨s', hrun, htracer⟩ := traceAll_of_marks h
    obtain ⟨split, houtputs, hpending⟩ := (Tracer.took_pending s.tracer).takeAll marks
    rw [← htracer] at houtputs hpending
    have hlength : s'.tracer.pending.length = ((fragmentsOf split.rest).map List.length).sum := by
      unfold LineBuffer.length
      rw [hpending, TraceSplit.pending, List.length_flatten]
    refine ⟨s', split, hrun, houtputs, hpending, hlength, fun hlast => ?_⟩
    have hrest : split.rest = [] := by
      have hend : (.fragment s.tracer.pending.bytes :: marks).getLast? = some .finish := by
        rw [List.getLast?_cons, hlast]
        rfl
      exact split.rest_of_break hend rfl
    rw [hlength, hrest]
    rfl

end Session

end MacroTrace
