import MacroTrace.Proofs.TraceLines
/-!
# Builtins that the table does not know

To show a call with its arguments, the tracer looks up the builtins among them. The first one that
the table does not know makes this fail, in the middle of a line. What has been put together of the
line is then thrown away together with what was pending before, so that no later line shows anything
of it (`Tracer.unknown_builtin_stops_pre`). No other phase looks anything up.
-/

namespace MacroTrace

namespace Registry

/-- The entries of a table, as far as it has names for the numbers. -/
def entriesOf (table : BuiltinId → Option String) (ids : List BuiltinId) :
    List (BuiltinId × String) :=
  ids.filterMap fun id => (table id).map (id, ·)

theorem mem_entriesOf {table : BuiltinId → Option String} {ids : List BuiltinId}
    {entry : BuiltinId × String} :
    entry ∈ entriesOf table ids ↔ entry.1 ∈ ids ∧ table entry.1 = some entry.2 := by
  unfold entriesOf
  rw [List.mem_filterMap]
  constructor
  · rintro ⟨id, hid, hentry⟩
    obtain ⟨name, hname, rfl⟩ := Option.map_eq_some_iff.mp hentry
    exact ⟨hid, hname⟩
  · rintro ⟨hid, hname⟩
    exact ⟨entry.1, hid, by rw [hname]; rfl⟩

theorem name?_entriesOf {table : BuiltinId → Option String} {ids : List BuiltinId}
    {id : BuiltinId} (h : id ∈ ids) : name? { entries := entriesOf table ids } id = table id := by
  unfold name?
  cases hfind : (entriesOf table ids).find? (·.1 == id) with
  | some entry =>
    obtain ⟨-, hname⟩ := mem_entriesOf.mp (List.mem_of_find?_eq_some hfind)
    have hfound := List.find?_some hfind
    have hid : entry.1 = id := eq_of_beq hfound
    rw [hid] at hname
    exact hname.symm
  | none =>
    cases hname : table id with
    | none => rfl
    | some name =>
      have hmem : (id, name) ∈ entriesOf table ids := mem_entriesOf.mpr ⟨h, hname⟩
      have hother := List.find?_eq_none.mp hfind _ hmem
      exact absurd (beq_self_eq_true id) hother

/-- Every number of a builtin. -/
def allIds : List BuiltinId := (List.range UInt32.size).map fun n => ⟨UInt32.ofNat n⟩

theorem mem_allIds (id : BuiltinId) : id ∈ allIds := by
  refine List.mem_map.mpr ⟨id.number.toNat, List.mem_range.mpr id.number.toNat_lt, ?_⟩
  rw [UInt32.ofNat_toNat]

/-- Whatever names there are for numbers, there is a registry with exactly these names. -/
theorem exists_name?_eq (table : BuiltinId → Option String) :
    ∃ builtins : Registry, builtins.name? = table :=
  ⟨{ entries := entriesOf table allIds }, funext fun id => name?_entriesOf (mem_allIds id)⟩

end Registry

namespace TraceSettings

/-- A builtin is the first among the arguments that the table does not know: it knows every builtin
that comes before. -/
def IsFirstUnknown (builtins : Registry) (args : List Argument) (id : BuiltinId) : Prop :=
  ∃ earlier later, args = earlier ++ .builtin id :: later ∧ builtins.name? id = none ∧
    ∀ known, .builtin known ∈ earlier → (builtins.name? known).isSome = true

theorem unknown?_eq_none {builtins : Registry} {arg : Argument} :
    unknown? builtins arg = none ↔
      ∀ id, arg = .builtin id → (builtins.name? id).isSome = true := by
  cases arg with
  | text value => simp [unknown?]
  | builtin id => simp [unknown?, Option.isSome_iff_ne_none]

theorem firstUnknown?_eq_some {builtins : Registry} {args : List Argument} {id : BuiltinId} :
    firstUnknown? builtins args = some id ↔ IsFirstUnknown builtins args id := by
  unfold firstUnknown? IsFirstUnknown
  rw [List.findSome?_eq_some_iff]
  constructor
  · rintro ⟨earlier, arg, later, rfl, harg, hearlier⟩
    obtain ⟨rfl, hname⟩ := unknown?_eq_some.mp harg
    exact ⟨earlier, later, rfl, hname,
      fun known hknown => unknown?_eq_none.mp (hearlier _ hknown) known rfl⟩
  · rintro ⟨earlier, later, rfl, hname, hearlier⟩
    refine ⟨earlier, .builtin id, later, rfl, unknown?_eq_some.mpr ⟨rfl, hname⟩, fun arg harg => ?_⟩
    refine unknown?_eq_none.mpr ?_
    rintro known rfl
    exact hearlier known harg

theorem firstUnknown?_isSome {builtins : Registry} {args : List Argument} :
    (firstUnknown? builtins args).isSome = true ↔
      ∃ id, Argument.builtin id ∈ args ∧ builtins.name? id = none := by
  unfold firstUnknown?
  rw [List.findSome?_isSome_iff]
  constructor
  · rintro ⟨arg, harg, hunknown⟩
    obtain ⟨id, hid⟩ := Option.isSome_iff_exists.mp hunknown
    obtain ⟨rfl, hname⟩ := unknown?_eq_some.mp hid
    exact ⟨id, harg, hname⟩
  · rintro ⟨id, hid, hname⟩
    exact ⟨_, hid, Option.isSome_iff_exists.mpr ⟨id, unknown?_eq_some.mpr ⟨rfl, hname⟩⟩⟩

theorem unknownBuiltin?_isSome {t : TraceSettings} {builtins : Registry} {call : Call} :
    (t.unknownBuiltin? builtins call).isSome = true ↔
      t.level.has .args = true ∧ ∃ id, .builtin id ∈ call.args ∧ builtins.name? id = none := by
  unfold unknownBuiltin?
  rw [← firstUnknown?_isSome]
  by_cases hargs : t.level.has .args = true <;> simp [hargs]

theorem isFirstUnknown_of_unknownBuiltin? {t : TraceSettings} {builtins : Registry} {call : Call}
    {id : BuiltinId} (h : t.unknownBuiltin? builtins call = some id) :
    IsFirstUnknown builtins call.args id := by
  unfold unknownBuiltin? at h
  split at h
  · exact firstUnknown?_eq_some.mp h
  · cases h

theorem argument_congr {builtins other : Registry} {arg : Argument}
    (h : ∀ id, arg = .builtin id → other.name? id = builtins.name? id) :
    argument other arg = argument builtins arg := by
  cases arg with
  | text value => rfl
  | builtin id => simp only [argument, h id rfl]

end TraceSettings

/-! ## Phases one after the other -/

/-- A phase of a call, with the settings in force. -/
inductive TracerAct
  | prepre (settings : TraceSettings) (call : Call)
  | pre (settings : TraceSettings) (builtins : Registry) (call : Call)
  | post (settings : TraceSettings) (call : Call) (expansion : Option String)

namespace TracerAct

def action : TracerAct → EStateM Stop Tracer Unit
  | prepre settings call => Tracer.prepre settings call
  | pre settings builtins call => Tracer.pre settings builtins call
  | post settings call expansion => Tracer.post settings call expansion

/-- The marks of a phase; a call that cannot be shown with its arguments has its line thrown
away. -/
def marks : TracerAct → List TraceMark
  | prepre settings call => [.fragment (Utf8.encode (settings.prepreText call)), .finish]
  | pre settings builtins call =>
    match settings.unknownBuiltin? builtins call with
    | some _ => [.drop]
    | none =>
      .fragment (Utf8.encode (settings.preText builtins call))
        :: if settings.level.has .call then [.finish] else []
  | post settings call expansion =>
    [.fragment (Utf8.encode (settings.postText call expansion)), .finish]

end TracerAct

namespace Tracer

open TraceSettings

/-- A tracer after phases of calls, whether or not each of them succeeds. -/
def afterAll (tracer : Tracer) (acts : List TracerAct) : Tracer :=
  acts.foldl (fun tracer act => stateAfter act.action tracer) tracer

theorem stateAfter_action (act : TracerAct) (tracer : Tracer) :
    stateAfter act.action tracer = act.marks.foldl take tracer := by
  cases act with
  | prepre settings call => exact (line_endsIn (settings.says_prepre call) tracer).stateAfter
  | post settings call expansion =>
    exact (line_endsIn (settings.says_post call expansion) tracer).stateAfter
  | pre settings builtins call =>
    cases hunknown : settings.unknownBuiltin? builtins call with
    | some id =>
      simp only [TracerAct.marks, hunknown]
      exact stateAfter_of_error (settings.pre_of_unknown builtins call hunknown tracer)
    | none =>
      simp only [TracerAct.marks, hunknown]
      refine (pre_endsIn ?_ tracer).stateAfter
      simp only [TraceAct.marks?, hunknown]

/-- What phases do to a tracer is what their marks say, one after the other. -/
theorem afterAll_eq (tracer : Tracer) (acts : List TracerAct) :
    tracer.afterAll acts = (acts.flatMap TracerAct.marks).foldl take tracer := by
  induction acts generalizing tracer with
  | nil => rfl
  | cons act rest ih =>
    rw [List.flatMap_cons, List.foldl_append, ← stateAfter_action]
    exact ih _

/-- Nothing but the phases shows in what a tracer writes that has nothing pending at first. -/
theorem took_afterAll {tracer : Tracer} (hempty : tracer.pending = .empty)
    (acts : List TracerAct) :
    Took tracer.outputs (acts.flatMap TracerAct.marks) (tracer.afterAll acts) := by
  rw [afterAll_eq]
  have hnothing : Took tracer.outputs [] tracer :=
    ⟨⟨[], [], by simp, rfl⟩, rfl, by rw [hempty]; rfl⟩
  exact hnothing.takeAll _

/-! ## The phase that looks builtins up -/

theorem sayArguments_congr {o : TemplateOptions} {builtins other : Registry} {args : List Argument}
    (h : ∀ id, .builtin id ∈ args → other.name? id = builtins.name? id) (isFirst : Bool) :
    sayArguments o other args isFirst = sayArguments o builtins args isFirst := by
  induction args generalizing isFirst with
  | nil => rfl
  | cons arg rest ih =>
    have hfirst : argument other arg = argument builtins arg := by
      refine argument_congr ?_
      rintro id rfl
      exact h id List.mem_cons_self
    have hrest := ih fun id hid => h id (List.mem_cons_of_mem _ hid)
    rw [sayArguments, sayArguments, sayArgument, sayArgument, hfirst, hrest]

/-- The table matters for the names of the builtins among the arguments that are shown, and for
nothing else. -/
theorem pre_congr {t : TraceSettings} {builtins other : Registry} {call : Call}
    (h : t.level.has .args = true →
      ∀ id, .builtin id ∈ call.args → other.name? id = builtins.name? id) :
    pre t other call = pre t builtins call := by
  have hbrackets : sayBrackets t other call = sayBrackets t builtins call := by
    unfold sayBrackets
    by_cases hargs : (!call.args.isEmpty && t.level.has .args) = true
    · rw [sayArguments_congr (h (Bool.and_eq_true_iff.mp hargs).2)]
    · rw [if_neg hargs, if_neg hargs]
  unfold pre
  rw [hbrackets]

theorem finishLine_eq_error {tracer tracer' : Tracer} {stop : Stop}
    (h : finishLine tracer = .error stop tracer') :
    ∃ cause, Outputs.write (tracer.pending.bytes ++ Utf8.encode "\n") tracer.outputs =
        .error cause tracer'.outputs ∧
      stop = .failure (.system "writing trace output" cause) := by
  unfold finishLine at h
  simp only [LineBuffer.take] at h
  split at h
  · cases h
  · rename_i cause outputs hwrite
    cases h
    exact ⟨cause, hwrite, rfl⟩

theorem pre_fails_at_unknown {t : TraceSettings} {builtins : Registry} {call : Call}
    {tracer tracer' : Tracer} {id : BuiltinId}
    (h : pre t builtins call tracer = .error (.failure (.unknownBuiltin id)) tracer') :
    t.unknownBuiltin? builtins call = some id ∧ tracer' = { tracer with pending := .empty } := by
  cases hunknown : t.unknownBuiltin? builtins call with
  | some first =>
    rw [t.pre_of_unknown builtins call hunknown] at h
    cases h
    exact ⟨rfl, rfl⟩
  | none =>
    rw [t.pre_of_known builtins call hunknown] at h
    split at h
    · obtain ⟨cause, -, hstop⟩ := finishLine_eq_error h
      cases hstop
    · cases h

/-- Neither of the other phases fails over a builtin. -/
theorem not_unknown_of_line {o : TemplateOptions} {phrases : List Phrase} {text : String}
    (hsaid : Says o phrases text) (tracer tracer' : Tracer) (id : BuiltinId) :
    (sayAll o phrases >>= fun _ => finishLine) tracer ≠
      .error (.failure (.unknownBuiltin id)) tracer' := by
  intro h
  rw [bind_of_ok (hsaid tracer)] at h
  obtain ⟨cause, -, hstop⟩ := finishLine_eq_error h
  cases hstop

/-- Whatever names a table has, and whatever is pending, the second phase of a call fails over a
builtin exactly if arguments are shown and the table does not know all builtins among them; it names
the first one. Then nothing has been written anywhere, nothing is pending, and whatever phases come
later, with these or other settings, what the tracer writes consists of what they say. Otherwise
the phase fails only if its line is to be written and cannot be. All that it takes from the table
are the names of the builtins that are shown. The other phases never fail over a builtin. -/
theorem unknown_builtin_stops_pre (t : TraceSettings) (call : Call) (tracer : Tracer) :
    (∀ table : BuiltinId → Option String, ∃ builtins : Registry, builtins.name? = table) ∧
    (∀ builtins : Registry,
      ((∃ id tracer', pre t builtins call tracer =
            .error (.failure (.unknownBuiltin id)) tracer') ↔
          t.level.has .args = true ∧
            ∃ id, .builtin id ∈ call.args ∧ builtins.name? id = none) ∧
      (∀ id tracer', pre t builtins call tracer =
            .error (.failure (.unknownBuiltin id)) tracer' →
          IsFirstUnknown builtins call.args id ∧
          tracer' = { tracer with pending := .empty } ∧
          ∀ later : List TracerAct, Took tracer.outputs (later.flatMap TracerAct.marks)
            (tracer'.afterAll later)) ∧
      (∀ stop tracer', pre t builtins call tracer = .error stop tracer' →
          (∀ id, stop ≠ .failure (.unknownBuiltin id)) →
          ∃ cause, t.level.has .call = true ∧
            Outputs.write (tracer.pending.bytes ++ Utf8.encode (t.preText builtins call)
              ++ Utf8.encode "\n") tracer.outputs = .error cause tracer'.outputs ∧
            stop = .failure (.system "writing trace output" cause)) ∧
      (∀ other : Registry,
          (t.level.has .args = true →
            ∀ id, .builtin id ∈ call.args → other.name? id = builtins.name? id) →
          pre t other call tracer = pre t builtins call tracer)) ∧
    (∀ expansion id tracer',
      prepre t call tracer ≠ .error (.failure (.unknownBuiltin id)) tracer' ∧
      post t call expansion tracer ≠ .error (.failure (.unknownBuiltin id)) tracer') := by
  refine ⟨Registry.exists_name?_eq, fun builtins => ⟨?_, ?_, ?_, ?_⟩,
    fun expansion id tracer' => ⟨?_, ?_⟩⟩
  · rw [← unknownBuiltin?_isSome, Option.isSome_iff_exists]
    constructor
    · rintro ⟨id, tracer', h⟩
      exact ⟨id, (pre_fails_at_unknown h).1⟩
    · rintro ⟨id, hunknown⟩
      exact ⟨id, _, t.pre_of_unknown builtins call hunknown tracer⟩
  · intro id tracer' h
    obtain ⟨hunknown, rfl⟩ := pre_fails_at_unknown h
    exact ⟨isFirstUnknown_of_unknownBuiltin? hunknown, rfl, fun later => took_afterAll rfl later⟩
  · intro stop tracer' h hother
    cases hunknown : t.unknownBuiltin? builtins call with
    | some id =>
      rw [t.pre_of_unknown builtins call hunknown] at h
      cases h
      exact absurd rfl (hother id)
    | none =>
      rw [t.pre_of_known builtins call hunknown] at h
      split at h
      · rename_i hcall
        obtain ⟨cause, hwrite, hstop⟩ := finishLine_eq_error h
        exact ⟨cause, hcall, hwrite, hstop⟩
      · cases h
  · intro other hnames
    rw [pre_congr hnames]
  · exact not_unknown_of_line (t.says_prepre call) tracer tracer' id
  · exact not_unknown_of_line (t.says_post call expansion) tracer tracer' id

/-- A call with two builtins that the table does not know, behind a text and a known one. -/
def strangeCall : Call where
  id := 3
  name := "foo"
  args := [.text "x", .builtin ⟨1⟩, .builtin ⟨9⟩, .text "y", .builtin ⟨8⟩]

/-- A tracer in the middle of a line. -/
def halfwayTracer : Tracer := { hostileTracer with pending := LineBuffer.empty.pushText "half" }

theorem unknown_builtin_stops_pre_strangeCall :
    pre hostileSettings hostileBuiltins strangeCall halfwayTracer =
      .error (.failure (.unknownBuiltin ⟨9⟩)) hostileTracer := by
  obtain ⟨hiff, hfirst, -⟩ :=
    (unknown_builtin_stops_pre hostileSettings strangeCall halfwayTracer).2.1 hostileBuiltins
  obtain ⟨id, tracer', h⟩ := hiff.mpr ⟨by decide, ⟨9⟩, by decide, by decide⟩
  obtain ⟨hid, htracer, -⟩ := hfirst id tracer' h
  have hnine : firstUnknown? hostileBuiltins strangeCall.args = some ⟨9⟩ := by decide
  rw [← firstUnknown?_eq_some, hnine] at hid
  cases hid
  rw [h, htracer]
  rfl

end Tracer

end MacroTrace
