import MacroTrace.Proofs.Interjection
/-!
# Calls inside calls

When calls are not traced on lines of their own, the text of a call whose arguments are known stays
pending until the call ends. There is one pending line for all open calls, and nothing in it marks
where the text of a call begins. So the line that is written at the end of a call shows every call
that was met since the last line was written, and then the expansion of the one that ends
(`Closing.line`). No text is lost, but a line is that of its own call only if no other call comes in
between (`Session.nested_calls_share_lines`).
-/

namespace MacroTrace

/-- Whether a call ends with the act. -/
def TraceAct.isPost : TraceAct → Bool
  | .post .. => true
  | _ => false

/-- A call that is met with its arguments, and the table in which its builtins are looked up. -/
structure Opening where
  builtins : Registry
  call : Call
deriving DecidableEq, Repr

/-- Properly nested calls: none at all, or a first call, with the calls made before it ends and
those made later. -/
inductive Nest
  | none
  | call (opening : Opening) (expansion : Option String) (inner later : Nest)
deriving DecidableEq, Repr

/-- The end of a call. -/
structure Closing where
  opening : Opening
  expansion : Option String
  /-- The calls that were met since the last line was written. -/
  shown : List Opening
deriving DecidableEq, Repr

namespace Opening

/-- Whether the call can be shown with its arguments. -/
def isKnown (t : TraceSettings) (o : Opening) : Bool :=
  (t.unknownBuiltin? o.builtins o.call).isNone

def act (o : Opening) : TraceAct := .pre o.builtins o.call

/-- The text of the call. -/
def bytes (t : TraceSettings) (o : Opening) : Bytes := Utf8.encode (t.preText o.builtins o.call)

/-- Every call is shown with some text. -/
theorem bytes_ne_nil (t : TraceSettings) (o : Opening) : o.bytes t ≠ [] := by
  have hmark : Utf8.encode "trace:" ≠ [] := by decide
  unfold bytes TraceSettings.preText TraceSettings.headerText
  simp [hmark]

end Opening

namespace Closing

def act (c : Closing) : TraceAct := .post c.opening.call c.expansion

/-- The text of the expansion, and the end of the line. -/
def ending (t : TraceSettings) (c : Closing) : Bytes :=
  Utf8.encode (t.postText c.opening.call c.expansion) ++ Utf8.encode "\n"

/-- The line that is written when the call ends. -/
def line (t : TraceSettings) (c : Closing) : Bytes := c.shown.flatMap (·.bytes t) ++ c.ending t

/-- The line of the call alone. -/
def ownLine (t : TraceSettings) (c : Closing) : Bytes := c.opening.bytes t ++ c.ending t

/-- A line is that of its call alone if and only if this is the only call that it shows. -/
theorem line_eq_ownLine_iff {c : Closing}
    (h : c.shown = [] ∨ ∃ before, c.shown = before ++ [c.opening]) (t : TraceSettings) :
    c.line t = c.ownLine t ↔ c.shown = [c.opening] := by
  have hshown : c.line t = c.ownLine t ↔ c.shown.flatMap (·.bytes t) = c.opening.bytes t :=
    List.append_left_inj _
  rw [hshown]
  rcases h with h | ⟨before, h⟩
  · rw [h]
    simp [(c.opening.bytes_ne_nil t).symm]
  · rw [h]
    constructor
    · intro hsame
      rw [List.flatMap_append, List.flatMap_singleton, List.append_left_eq_self,
        List.flatMap_eq_nil_iff] at hsame
      have hbefore : before = [] :=
        List.eq_nil_iff_forall_not_mem.mpr fun o ho => o.bytes_ne_nil t (hsame o ho)
      rw [hbefore, List.nil_append]
    · intro hone
      rw [hone, List.flatMap_singleton]

end Closing

namespace Nest

/-- What is traced: each call when it is met and when it ends. -/
def acts : Nest → List TraceAct
  | none => []
  | call o expansion inner later =>
    o.act :: (inner.acts ++ .post o.call expansion :: later.acts)

/-- The calls, in the order in which they are met. -/
def openings : Nest → List Opening
  | none => []
  | call o _ inner later => o :: (inner.openings ++ later.openings)

/-- The calls whose text is pending afterwards, if that of `waiting` is at first. -/
def left (waiting : List Opening) : Nest → List Opening
  | none => waiting
  | call .. => []

@[simp] theorem left_none (waiting : List Opening) : none.left waiting = waiting := rfl

@[simp] theorem left_call (waiting : List Opening) (o : Opening) (expansion : Option String)
    (inner later : Nest) : (call o expansion inner later).left waiting = [] := rfl

@[simp] theorem left_nil (n : Nest) : n.left [] = [] := by cases n <;> rfl

/-- The ends of the calls, in the order in which they come about, if the text of the calls `waiting`
is pending at first. -/
def closings (waiting : List Opening) : Nest → List Closing
  | none => []
  | call o expansion inner later =>
    inner.closings (waiting ++ [o])
      ++ ⟨o, expansion, inner.left (waiting ++ [o])⟩ :: later.closings []

/-- Whether no call is made before another one has ended. -/
def isFlat : Nest → Bool
  | none => true
  | call _ _ none later => later.isFlat
  | call _ _ (call ..) _ => false

section Lemmas

variable (waiting : List Opening)

/-- A line shows the call that ends and those met just before it, or no call at all. -/
theorem shown_cases (n : Nest) {c : Closing} (h : c ∈ n.closings waiting) :
    c.shown = [] ∨ ∃ before, c.shown = before ++ [c.opening] := by
  induction n generalizing waiting with
  | none => cases h
  | call o expansion inner later ihInner ihLater =>
    rcases List.mem_append.mp h with h | h
    · exact ihInner _ h
    · rcases List.mem_cons.mp h with rfl | h
      · cases inner with
        | none => exact .inr ⟨waiting, rfl⟩
        | call => exact .inl rfl
      · exact ihLater _ h

/-- No call is lost, and none is shown twice. -/
theorem flatMap_shown (n : Nest) :
    (n.closings waiting).flatMap (·.shown) ++ n.left waiting = waiting ++ n.openings := by
  induction n generalizing waiting with
  | none => simp [closings, openings]
  | call o expansion inner later ihInner ihLater =>
    have hinner := ihInner (waiting ++ [o])
    have hlater := ihLater []
    rw [left_nil, List.append_nil, List.nil_append] at hlater
    rw [closings, left_call, List.append_nil, List.flatMap_append, List.flatMap_cons, hlater,
      ← List.append_assoc, hinner, openings]
    simp

/-- Each end of a call has its line. -/
theorem map_act_closings (n : Nest) :
    (n.closings waiting).map (·.act) = n.acts.filter (·.isPost) := by
  induction n generalizing waiting with
  | none => rfl
  | call o expansion inner later ihInner ihLater =>
    have hopens : o.act.isPost = false := rfl
    have hcloses : (TraceAct.post o.call expansion).isPost = true := rfl
    rw [closings, acts, List.filter_cons_of_neg (by rw [hopens]; exact Bool.false_ne_true),
      List.filter_append, List.filter_cons_of_pos hcloses, List.map_append, List.map_cons, ihInner,
      ihLater]
    rfl

/-- Calls are shown one on each line just if none of them is made inside another. -/
theorem shown_alone_iff (n : Nest) :
    (∀ c ∈ n.closings [], c.shown = [c.opening]) ↔ n.isFlat = true := by
  induction n with
  | none => simp [closings, isFlat]
  | call o expansion inner later _ ihLater =>
    cases inner with
    | none => simpa [closings, isFlat] using ihLater
    | call first outcome deeper next =>
      -- The line of the outer call shows nothing but its expansion.
      refine ⟨fun h => ?_, fun h => nomatch h⟩
      have hempty := h ⟨o, expansion, []⟩ (List.mem_append_right _ List.mem_cons_self)
      cases hempty

end Lemmas

end Nest

/-! ## What is pending -/

namespace Session

/-- The texts of the calls `waiting` are pending, and nothing else is. -/
structure Waits (t : TraceSettings) (waiting : List Opening) (s : Session) : Prop where
  settings : s.traceSettings = t
  pending : s.tracer.pending.bytes = waiting.flatMap (·.bytes t)

section Runs

variable {t : TraceSettings} {waiting : List Opening} {s : Session}

/-- A call that is met joins those whose text is pending. -/
theorem Waits.opened (h : s.Waits t waiting) (hcall : t.level.has .call = false) {o : Opening}
    (hknown : o.isKnown t = true) (rest : List TraceAct) :
    ∃ s' : Session, s.traceAll (o.act :: rest) = s'.traceAll rest ∧ s'.Waits t (waiting ++ [o]) ∧
      s'.outputs = s.outputs := by
  have hmarks : o.act.marks? s.traceSettings = some [.fragment (o.bytes t)] := by
    rw [h.settings]
    simp [Opening.act, TraceAct.marks?, Option.isNone_iff_eq_none.mp hknown, hcall, Opening.bytes]
  obtain ⟨s', hends, htracer, hsettings⟩ := TraceAct.action_endsIn hmarks
  refine ⟨s', traceAll_of_endsIn hends rest, ⟨hsettings.trans h.settings, ?_⟩, ?_⟩
  · rw [htracer]
    show s.tracer.pending.bytes ++ o.bytes t = _
    rw [h.pending, List.flatMap_append, List.flatMap_singleton]
  · unfold outputs
    rw [htracer]
    rfl

/-- When a call ends, its line is written, and nothing is pending any more. -/
theorem Waits.closed {c : Closing} (h : s.Waits t c.shown) (rest : List TraceAct) :
    ∃ s' : Session, s.traceAll (c.act :: rest) = s'.traceAll rest ∧ s'.Waits t [] ∧
      s'.outputs = s.outputs.performAll [.write (c.line t)] := by
  have hmarks : c.act.marks? s.traceSettings =
      some [.fragment (Utf8.encode (t.postText c.opening.call c.expansion)), .finish] := by
    rw [h.settings]
    rfl
  obtain ⟨s', hends, htracer, hsettings⟩ := TraceAct.action_endsIn hmarks
  refine ⟨s', traceAll_of_endsIn hends rest, ⟨hsettings.trans h.settings, ?_⟩, ?_⟩
  · rw [htracer]
    rfl
  · unfold outputs
    rw [htracer]
    show stateAfter (Outputs.write (s.tracer.pending.bytes ++ _ ++ _)) s.tracer.outputs = _
    rw [h.pending, List.append_assoc]
    rfl

/-- A run of calls that can all be shown writes the lines of their ends. -/
theorem Waits.run (hcall : t.level.has .call = false) {n : Nest} (h : s.Waits t waiting)
    (hknown : ∀ o ∈ n.openings, o.isKnown t = true) (rest : List TraceAct) :
    ∃ s' : Session, s.traceAll (n.acts ++ rest) = s'.traceAll rest ∧ s'.Waits t (n.left waiting) ∧
      s'.outputs = s.outputs.performAll ((n.closings waiting).map fun c => .write (c.line t)) := by
  induction n generalizing s waiting rest with
  | none => exact ⟨s, rfl, h, rfl⟩
  | call o expansion inner later ihInner ihLater =>
    obtain ⟨hfirst, hothers⟩ := List.forall_mem_cons.mp hknown
    obtain ⟨hinner, hlater⟩ := List.forall_mem_append.mp hothers
    let c : Closing := ⟨o, expansion, inner.left (waiting ++ [o])⟩
    obtain ⟨s₁, hrun₁, hwaits₁, hout₁⟩ :=
      h.opened hcall hfirst (inner.acts ++ c.act :: (later.acts ++ rest))
    obtain ⟨s₂, hrun₂, hwaits₂, hout₂⟩ := ihInner hwaits₁ hinner (c.act :: (later.acts ++ rest))
    obtain ⟨s₃, hrun₃, hwaits₃, hout₃⟩ := hwaits₂.closed (c := c) (later.acts ++ rest)
    obtain ⟨s₄, hrun₄, hwaits₄, hout₄⟩ := ihLater hwaits₃ hlater rest
    have hacts : (Nest.call o expansion inner later).acts ++ rest =
        o.act :: (inner.acts ++ c.act :: (later.acts ++ rest)) := by
      simp [Nest.acts, c, Closing.act]
    refine ⟨s₄, ?_, ?_, ?_⟩
    · rw [hacts, hrun₁, hrun₂, hrun₃, hrun₄]
    · rwa [Nest.left_nil] at hwaits₄
    · rw [hout₄, hout₃, hout₂, hout₁, ← Outputs.performAll_append, ← Outputs.performAll_append]
      simp [Nest.closings, c]

/-- The program ends itself at the first call that cannot be shown. -/
theorem Waits.run_of_unknown (hcall : t.level.has .call = false) {n : Nest}
    (h : s.Waits t waiting) (hunknown : ∃ o ∈ n.openings, o.isKnown t = false)
    (rest : List TraceAct) : s.traceAll (n.acts ++ rest) = none := by
  induction n generalizing s waiting rest with
  | none =>
    obtain ⟨o, ho, -⟩ := hunknown
    cases ho
  | call o expansion inner later ihInner ihLater =>
    rw [Nest.acts, List.cons_append, List.append_assoc, List.cons_append]
    cases ho : o.isKnown t with
    | false =>
      have hmarks : o.act.marks? s.traceSettings = none := by
        obtain ⟨id, hid⟩ := Option.isSome_iff_exists.mp (Option.isNone_eq_false_iff.mp ho)
        rw [h.settings]
        simp [Opening.act, TraceAct.marks?, hid]
      obtain ⟨s', habort⟩ := TraceAct.action_of_no_marks hmarks
      simp only [traceAll, habort]
    | true =>
      obtain ⟨s₁, hrun₁, hwaits₁, -⟩ :=
        h.opened hcall ho (inner.acts ++ .post o.call expansion :: (later.acts ++ rest))
      rw [hrun₁]
      by_cases hinner : ∃ i ∈ inner.openings, i.isKnown t = false
      · exact ihInner hwaits₁ hinner _
      · have hknown : ∀ i ∈ inner.openings, i.isKnown t = true :=
          fun i hi => Bool.of_not_eq_false fun hno => hinner ⟨i, hi, hno⟩
        have hlater : ∃ i ∈ later.openings, i.isKnown t = false := by
          obtain ⟨i, hi, hno⟩ := hunknown
          rcases List.mem_cons.mp hi with rfl | hi
          · rw [ho] at hno
            cases hno
          · rcases List.mem_append.mp hi with hi | hi
            · exact absurd ⟨i, hi, hno⟩ hinner
            · exact ⟨i, hi, hno⟩
        let c : Closing := ⟨o, expansion, inner.left (waiting ++ [o])⟩
        obtain ⟨s₂, hrun₂, hwaits₂, -⟩ :=
          hwaits₁.run hcall hknown (.post o.call expansion :: (later.acts ++ rest))
        obtain ⟨s₃, hrun₃, hwaits₃, -⟩ := hwaits₂.closed (c := c) (later.acts ++ rest)
        rw [hrun₂]
        exact hrun₃.trans (ihLater hwaits₃ hlater rest)

end Runs

/-- Properly nested calls, at a level that does not trace them on lines of their own. If the table
does not know a builtin that is to be shown, the program ends there. Otherwise one line is written
at the end of each call, and then nothing is pending. A line shows the calls that were met since the
last line was written, with their arguments, and then the expansion of the call that ends. So every
call is shown, in the order in which they are met. But a line is that of its own call if and only if
it shows this call and no other, and all lines are so if and only if no call is made inside
another. -/
theorem nested_calls_share_lines (s : Session) (n : Nest) (hcall : s.level.has .call = false)
    (hnone : s.tracer.pending.bytes = []) :
    let t := s.traceSettings
    let closings := n.closings []
    ((∃ o ∈ n.openings, o.isKnown t = false) → s.traceAll n.acts = none) ∧
    ((∀ o ∈ n.openings, o.isKnown t = true) →
      ∃ s' : Session, s.traceAll n.acts = some s' ∧ s'.tracer.pending.bytes = [] ∧
        s'.outputs = s.outputs.performAll (closings.map fun c => .write (c.line t))) ∧
    closings.map (·.act) = n.acts.filter (·.isPost) ∧
    closings.flatMap (·.shown) = n.openings ∧
    (∀ c ∈ closings, c.line t = c.ownLine t ↔ c.shown = [c.opening]) ∧
    ((∀ c ∈ closings, c.line t = c.ownLine t) ↔ n.isFlat = true) := by
  intro t closings
  have hwaits : s.Waits t [] := ⟨rfl, hnone⟩
  have hown : ∀ c ∈ closings, c.line t = c.ownLine t ↔ c.shown = [c.opening] :=
    fun c hc => Closing.line_eq_ownLine_iff (n.shown_cases [] hc) t
  refine ⟨fun hunknown => ?_, fun hknown => ?_, n.map_act_closings [], ?_, hown, ?_⟩
  · have hrun := hwaits.run_of_unknown hcall hunknown []
    rwa [List.append_nil] at hrun
  · obtain ⟨s', hrun, hwaits', houtputs⟩ := hwaits.run hcall hknown []
    have hpending := hwaits'.pending
    rw [List.append_nil] at hrun
    rw [Nest.left_nil] at hpending
    exact ⟨s', hrun, hpending, houtputs⟩
  · have hshown := n.flatMap_shown []
    rwa [Nest.left_nil, List.append_nil, List.nil_append] at hshown
  · rw [← n.shown_alone_iff]
    exact forall₂_congr hown

/-- A session that traces arguments and expansions, in quotes. -/
def quotingSession : Session := { plainSession with level := .standard }

/-- A call made while another one is open. -/
def nestedCall : Nest :=
  .call ⟨.empty, { name := "outer", args := [.text "x"] }⟩ (some "1")
    (.call ⟨.empty, { name := "inner", depth := 2, args := [.text "y"] }⟩ (some "2") .none .none)
    .none

theorem nested_calls_share_lines_nestedCall :
    quotingSession.level.has .call = false ∧ quotingSession.tracer.pending.bytes = [] ∧
      (∀ o ∈ nestedCall.openings, o.isKnown quotingSession.traceSettings = true) ∧
      ∃ s' : Session, quotingSession.traceAll nestedCall.acts = some s' ∧
        s'.outputs = quotingSession.outputs.performAll
          [.write (Utf8.encode "m4trace: -1- outer(`x')m4trace: -2- inner(`y') -> `2'\n"),
            .write (Utf8.encode " -> `1'\n")] := by
  have hcall : quotingSession.level.has .call = false := by cbv
  have hnone : quotingSession.tracer.pending.bytes = [] := rfl
  have hknown : ∀ o ∈ nestedCall.openings, o.isKnown quotingSession.traceSettings = true :=
    List.all_eq_true.mp (by cbv)
  have hlines : ((nestedCall.closings []).map fun c =>
        DebugAct.write (c.line quotingSession.traceSettings)) =
      [.write (Utf8.encode "m4trace: -1- outer(`x')m4trace: -2- inner(`y') -> `2'\n"),
        .write (Utf8.encode " -> `1'\n")] := by cbv
  obtain ⟨-, hrun, -⟩ := nested_calls_share_lines quotingSession nestedCall hcall hnone
  obtain ⟨s', hrun, -, houtputs⟩ := hrun hknown
  rw [hlines] at houtputs
  exact ⟨hcall, hnone, hknown, s', hrun, houtputs⟩

/-- The two calls do not get a line each. -/
theorem lines_run_together_nestedCall :
    ¬ ∃ s' : Session, quotingSession.traceAll nestedCall.acts = some s' ∧
      s'.outputs = quotingSession.outputs.performAll
        ((nestedCall.closings []).map fun c =>
          .write (c.ownLine quotingSession.traceSettings)) := by
  rintro ⟨s', hrun, houtputs⟩
  have hlog : (quotingSession.traceAll nestedCall.acts).map (·.outputs.ports.log.toList) =
      some [.wrote .err (Utf8.encode "m4trace: -1- outer(`x')m4trace: -2- inner(`y') -> `2'\n"),
        .wrote .err (Utf8.encode " -> `1'\n")] := by cbv
  have hown : (quotingSession.outputs.performAll
      ((nestedCall.closings []).map fun c =>
        .write (c.ownLine quotingSession.traceSettings))).ports.log.toList =
      [.wrote .err (Utf8.encode "m4trace: -2- inner(`y') -> `2'\n"),
        .wrote .err (Utf8.encode "m4trace: -1- outer(`x') -> `1'\n")] := by cbv
  rw [hrun, Option.map_some, houtputs, hown] at hlog
  revert hlog
  decide

end Session

end MacroTrace
