import MacroTrace.Trace.Tracer
import MacroTrace.Proofs.Operation
/-!
# The text of trace fragments

What each phase of a call appends to the pending line, as plain text. The tracer builds it from
templates, whose arguments always fit (`Tracer.Says`), so appending never fails. The text depends on
the call and the settings alone; only in the second phase can an argument be unknown to the table of
builtins, and then there is no text (`TraceSettings.unknownBuiltin?`).
-/

namespace MacroTrace

namespace TraceSettings

def leftQuote (t : TraceSettings) : String := t.options.leftQuote

def rightQuote (t : TraceSettings) : String := t.options.rightQuote

/-- A text cut to the limit, between the quotes. -/
def quotedText (t : TraceSettings) (text : String) : String :=
  t.leftQuote ++ cut t.limit text ++ t.rightQuote

def headerText (t : TraceSettings) (call : Call) : String :=
  t.program ++ "trace:"
    ++ (if t.level.has .file then t.location.file.getD "" ++ ":" else "")
    ++ (if t.level.has .line then toString t.location.line.toNat ++ ":" else "")
    ++ (" -" ++ toString (min call.depth.toNat 0x7FFFFFFFFFFFFFFF) ++ "- ")
    ++ (if t.level.has .callId then "id " ++ toString call.id.toNat ++ ": " else "")

def prepreText (t : TraceSettings) (call : Call) : String :=
  t.headerText call ++ (call.name ++ " ...")

/-- An argument of a call; a builtin goes by its name. -/
def argumentText (t : TraceSettings) (builtins : Registry) : Argument → String
  | .text value => t.quotedText value
  | .builtin id => "<" ++ (builtins.name? id).getD "" ++ ">"

def preText (t : TraceSettings) (builtins : Registry) (call : Call) : String :=
  t.headerText call ++ call.name
    ++ (if !call.args.isEmpty && t.level.has .args then
          "(" ++ ", ".intercalate (call.args.map (t.argumentText builtins)) ++ ")"
        else "")
    ++ (if t.level.has .call then " -> ???" else "")

def postText (t : TraceSettings) (call : Call) (expansion : Option String) : String :=
  (if t.level.has .call then
      t.headerText call ++ (call.name ++ (if call.args.isEmpty then "" else "(...)"))
    else "")
    ++ match expansion with
      | some text => if t.level.has .expansion then " -> " ++ t.quotedText text else ""
      | none => ""

/-- The builtin that an argument stands for, if the table does not know it. -/
def unknown? (builtins : Registry) : Argument → Option BuiltinId
  | .text _ => none
  | .builtin id => if (builtins.name? id).isSome then none else some id

/-- The first builtin among the arguments that the table does not know. -/
def firstUnknown? (builtins : Registry) (args : List Argument) : Option BuiltinId :=
  args.findSome? (unknown? builtins)

/-- The builtin that keeps a call with its arguments from being shown, if there is one: the first
unknown one, if arguments are to be shown. -/
def unknownBuiltin? (t : TraceSettings) (builtins : Registry) (call : Call) : Option BuiltinId :=
  if t.level.has .args then firstUnknown? builtins call.args else none

end TraceSettings

/-! ## Directives -/

namespace Template

section Directives

variable (o : TemplateOptions) (rest : List Char) (args : List TemplateArg)

@[simp] theorem expandChars_nil : expandChars o [] args = .ok [] := by
  simp [expandChars]

@[simp] theorem expandChars_cut (value : String) :
    expandChars o ('%' :: 'S' :: rest) (.text value :: args) =
      (expandChars o rest args).map ((cut o.limit value).toList ++ ·) := by
  rw [expandChars]
  cases expandChars o rest args <;> rfl

@[simp] theorem expandChars_text (value : String) :
    expandChars o ('%' :: 's' :: rest) (.text value :: args) =
      (expandChars o rest args).map (value.toList ++ ·) := by
  rw [expandChars]
  cases expandChars o rest args <;> rfl

@[simp] theorem expandChars_int (value : Int64) :
    expandChars o ('%' :: 'd' :: rest) (.int value :: args) =
      (expandChars o rest args).map ((toString value.toInt).toList ++ ·) := by
  rw [expandChars]
  cases expandChars o rest args <;> rfl

@[simp] theorem expandChars_leftQuote :
    expandChars o ('%' :: 'l' :: rest) args =
      (expandChars o rest args).map (o.leftQuote.toList ++ ·) := by
  rw [expandChars]
  cases expandChars o rest args <;> rfl

@[simp] theorem expandChars_rightQuote :
    expandChars o ('%' :: 'r' :: rest) args =
      (expandChars o rest args).map (o.rightQuote.toList ++ ·) := by
  rw [expandChars]
  cases expandChars o rest args <;> rfl

/-- What is no directive stands for itself. -/
@[simp] theorem expandChars_plain {c : Char} (h : c ≠ '%') :
    expandChars o (c :: rest) args = (expandChars o rest args).map (c :: ·) := by
  rw [expandChars]
  · cases expandChars o rest args <;> rfl
  all_goals simp [h]

end Directives

end Template

namespace Tracer

/-- An operation never fails, and appends a text to the pending line. -/
def Appends (action : EStateM Stop Tracer Unit) (text : String) : Prop :=
  ∀ t : Tracer, action t = .ok () { t with pending := t.pending.pushText text }

/-- Appending the phrases to the pending line never fails, and appends the text. -/
def Says (o : TemplateOptions) (phrases : List Phrase) (text : String) : Prop :=
  Appends (sayAll o phrases) text

theorem Appends.nothing : Appends (pure ()) "" := fun t => by
  simp [LineBuffer.pushText, LineBuffer.pushBytes, pure, EStateM.pure]

theorem Appends.bind {action : EStateM Stop Tracer Unit} {next : EStateM Stop Tracer Unit}
    {s u : String} (h : Appends action s) (hnext : Appends next u) :
    Appends (action >>= fun _ => next) (s ++ u) := by
  intro t
  rw [bind_of_ok (h t), hnext, LineBuffer.pushText_append]

/-- A phrase appends what its template expands to. -/
theorem Appends.say {o : TemplateOptions} {template : String} {args : List TemplateArg}
    {text : String} (h : Template.expandChars o template.toList args = .ok text.toList) :
    Appends (say o ⟨template, args⟩) text := by
  intro t
  have hformat : t.pending.format o template args = .ok (t.pending.pushText text) := by
    simp [LineBuffer.format, Template.expand, h, Except.map]
  simp [Tracer.say, hformat]

theorem sayAll_append {o : TemplateOptions} {a b : List Phrase} {t t' : Tracer} {u : Unit}
    (h : sayAll o a t = .ok u t') : sayAll o (a ++ b) t = sayAll o b t' := by
  induction a generalizing t with
  | nil =>
    cases h
    rfl
  | cons phrase rest ih =>
    obtain ⟨_, t₁, hsay, hrest⟩ := bind_eq_ok h
    show (say o phrase >>= fun _ => sayAll o (rest ++ b)) t = _
    rw [bind_of_ok hsay]
    exact ih hrest

namespace Says

variable {o : TemplateOptions}

theorem nil : Says o [] "" := Appends.nothing

theorem append {a b : List Phrase} {s u : String} (ha : Says o a s) (hb : Says o b u) :
    Says o (a ++ b) (s ++ u) := by
  intro t
  rw [sayAll_append (ha t), hb, LineBuffer.pushText_append]

/-- A phrase says what its template expands to. -/
theorem phrase {template : String} {args : List TemplateArg} {text : String}
    (h : Template.expandChars o template.toList args = .ok text.toList) :
    Says o [⟨template, args⟩] text :=
  fun t => bind_of_ok (Appends.say h t)

theorem ite {a : List Phrase} {s : String} (c : Bool) (ha : Says o a s) :
    Says o (if c then a else []) (if c then s else "") := by
  cases c with
  | false => exact nil
  | true => exact ha

end Says

end Tracer

namespace TemplateArg

theorem toString_ofNat {n : Nat} (h : n < 0x8000000000000000) :
    toString (Int64.ofNat n).toInt = toString n := by
  rw [Int64.toInt_ofNat_of_lt h]
  rfl

/-- A count is shown as itself, or as the largest integer. -/
theorem ofCount_eq (n : UInt64) :
    ∃ i, ofCount n = .int i ∧ toString i.toInt = toString (min n.toNat 0x7FFFFFFFFFFFFFFF) :=
  ⟨_, rfl, toString_ofNat (Nat.lt_of_le_of_lt (Nat.min_le_right _ _) (by decide))⟩

/-- A number of a call or of a line is shown as itself. -/
theorem ofNumber_eq (n : UInt32) :
    ∃ i, ofNumber n = .int i ∧ toString i.toInt = toString n.toNat := by
  have hn := n.toNat_lt
  exact ⟨_, rfl, toString_ofNat (by omega)⟩

end TemplateArg

/-! ## Phases -/

namespace TraceSettings

open Tracer

variable (t : TraceSettings) (builtins : Registry) (call : Call)

theorem says_header : Says t.options (t.header call) (t.headerText call) := by
  obtain ⟨line, hline, hshownLine⟩ := TemplateArg.ofNumber_eq t.location.line
  obtain ⟨depth, hdepth, hshownDepth⟩ := TemplateArg.ofCount_eq call.depth
  obtain ⟨id, hid, hshownId⟩ := TemplateArg.ofNumber_eq call.id
  unfold header headerText
  rw [hline, hdepth, hid, ← hshownLine, ← hshownDepth, ← hshownId]
  refine .append (.append (.append (.append (.phrase ?_) (.ite _ (.phrase ?_)))
    (.ite _ (.phrase ?_))) (.phrase ?_)) (.ite _ (.phrase ?_))
  all_goals simp [Except.map]

theorem says_prepre : Says t.options (t.prepre call) (t.prepreText call) :=
  .append (t.says_header call) (.phrase (by simp [Except.map]))

theorem says_post (expansion : Option String) :
    Says t.options (t.post call expansion) (t.postText call expansion) := by
  unfold post postText
  refine .append (.ite _ (.append (t.says_header call) (.phrase ?_))) ?_
  · simp [Except.map]
  · cases expansion with
    | none => exact .nil
    | some text =>
      exact .ite _ (.phrase (by simp [Except.map, quotedText, leftQuote, rightQuote, options]))

/-! ### Arguments -/

/-- An argument of a call, if the table knows it. -/
def argumentPhrase : Argument → Phrase
  | .text value => ⟨"%l%S%r", [.text value]⟩
  | .builtin id => ⟨"<%s>", [.text ((builtins.name? id).getD "")]⟩

theorem argument_eq (arg : Argument) :
    argument builtins arg = match unknown? builtins arg with
      | some id => .error id
      | none => .ok (argumentPhrase builtins arg) := by
  cases arg with
  | text value => rfl
  | builtin id => cases h : builtins.name? id <;> simp [argument, unknown?, argumentPhrase, h]

theorem appends_argumentPhrase (arg : Argument) :
    Appends (say t.options (argumentPhrase builtins arg)) (t.argumentText builtins arg) := by
  cases arg with
  | text value =>
    exact .say (by simp [Except.map, argumentText, quotedText, leftQuote, rightQuote, options])
  | builtin id => exact .say (by simp [Except.map, argumentText])

theorem appends_argument {arg : Argument} (h : unknown? builtins arg = none) :
    Appends (sayArgument t.options builtins arg) (t.argumentText builtins arg) := by
  unfold sayArgument
  rw [argument_eq, h]
  exact t.appends_argumentPhrase builtins arg

/-- A builtin that the table does not know throws the line away that has been begun. -/
theorem sayArgument_of_unknown {o : TemplateOptions} {arg : Argument} {id : BuiltinId}
    (h : unknown? builtins arg = some id) (tracer : Tracer) :
    sayArgument o builtins arg tracer =
      .error (.failure (.unknownBuiltin id)) { tracer with pending := .empty } := by
  unfold sayArgument
  rw [argument_eq, h]
  rfl

theorem says_comma (isFirst : Bool) :
    Says t.options (if isFirst then [] else [⟨", ", []⟩]) (if isFirst then "" else ", ") := by
  cases isFirst with
  | true => exact .nil
  | false => exact .phrase (by simp [Except.map])

/-- The texts of arguments, with a comma in front of each but the first of all. -/
def argumentsText (builtins : Registry) : List Argument → (isFirst : Bool) → String
  | [], _ => ""
  | arg :: rest, isFirst =>
    (if isFirst then "" else ", ") ++
      (t.argumentText builtins arg ++ argumentsText builtins rest false)

theorem argumentsText_true (args : List Argument) :
    t.argumentsText builtins args true = ", ".intercalate (args.map (t.argumentText builtins)) := by
  cases args with
  | nil => rfl
  | cons arg rest =>
    induction rest generalizing arg with
    | nil => simp [argumentsText]
    | cons next rest ih =>
      rw [List.map_cons, List.map_cons, String.intercalate_cons_cons, ← List.map_cons, ← ih next]
      simp [argumentsText, String.append_assoc]

theorem appends_arguments {args : List Argument} (h : firstUnknown? builtins args = none)
    (isFirst : Bool) :
    Appends (sayArguments t.options builtins args isFirst)
      (t.argumentsText builtins args isFirst) := by
  induction args generalizing isFirst with
  | nil => exact .nothing
  | cons arg rest ih =>
    rw [firstUnknown?, List.findSome?_eq_none_iff] at h
    have hrest := ih (List.findSome?_eq_none_iff.mpr (List.forall_mem_cons.mp h).2) false
    have harg := t.appends_argument builtins (h arg List.mem_cons_self)
    exact .bind (t.says_comma isFirst) (.bind harg hrest)

/-- At the first builtin that the table does not know, nothing is pending any more. -/
theorem sayArguments_of_unknown {args : List Argument} {id : BuiltinId}
    (h : firstUnknown? builtins args = some id) (isFirst : Bool) (tracer : Tracer) :
    sayArguments t.options builtins args isFirst tracer =
      .error (.failure (.unknownBuiltin id)) { tracer with pending := .empty } := by
  induction args generalizing isFirst tracer with
  | nil => cases h
  | cons arg rest ih =>
    rw [sayArguments, bind_of_ok (t.says_comma isFirst tracer)]
    rw [firstUnknown?, List.findSome?_cons] at h
    cases hunknown : unknown? builtins arg with
    | some first =>
      rw [hunknown] at h
      cases h
      exact bind_of_error (sayArgument_of_unknown builtins hunknown _)
    | none =>
      rw [hunknown] at h
      rw [bind_of_ok (t.appends_argument builtins hunknown _)]
      exact ih h false _

/-! ### The phase that looks builtins up -/

theorem appends_name : Appends (say t.options ⟨"%s", [.text call.name]⟩) call.name :=
  .say (by simp [Except.map])

/-- If the table knows all that it is asked for, the text is appended, and the line is written if
calls are traced on lines of their own. -/
theorem pre_of_known (h : t.unknownBuiltin? builtins call = none) (tracer : Tracer) :
    pre t builtins call tracer =
      (if t.level.has .call then finishLine else pure ())
        { tracer with pending := tracer.pending.pushText (t.preText builtins call) } := by
  have hbrackets : Appends (sayBrackets t builtins call)
      (if !call.args.isEmpty && t.level.has .args then
        "(" ++ (", ".intercalate (call.args.map (t.argumentText builtins)) ++ ")") else "") := by
    unfold sayBrackets
    by_cases hargs : !call.args.isEmpty && t.level.has .args
    · have hknown : firstUnknown? builtins call.args = none := by
        rwa [unknownBuiltin?, if_pos (Bool.and_eq_true_iff.mp hargs).2] at h
      have hbody := t.appends_arguments builtins hknown true
      rw [argumentsText_true] at hbody
      rw [if_pos hargs, if_pos hargs]
      exact .bind (.say (by simp [Except.map])) (.bind hbody (.say (by simp [Except.map])))
    · rw [if_neg hargs, if_neg hargs]
      exact .nothing
  unfold pre
  rw [bind_of_ok (t.says_header call tracer), bind_of_ok (t.appends_name call _),
    bind_of_ok (hbrackets _)]
  unfold preText
  by_cases hcall : t.level.has .call
  · have hend : Appends (say t.options ⟨" -> ???", []⟩) " -> ???" := .say (by simp [Except.map])
    rw [if_pos hcall, if_pos hcall, if_pos hcall, bind_of_ok (hend _)]
    simp only [LineBuffer.pushText_append, String.append_assoc]
  · rw [if_neg hcall, if_neg hcall, if_neg hcall]
    simp only [LineBuffer.pushText_append, String.append_assoc, String.append_empty]

/-- If the table does not know a builtin that is to be shown, the phase fails with the first one, and
the line that has been begun is gone. -/
theorem pre_of_unknown {id : BuiltinId} (h : t.unknownBuiltin? builtins call = some id)
    (tracer : Tracer) :
    pre t builtins call tracer =
      .error (.failure (.unknownBuiltin id)) { tracer with pending := .empty } := by
  unfold unknownBuiltin? at h
  split at h
  · rename_i hargs
    have hshown : (!call.args.isEmpty && t.level.has .args) = true := by
      cases hc : call.args with
      | nil => simp [hc, firstUnknown?] at h
      | cons _ _ => simpa using hargs
    have hopen : Appends (say t.options ⟨"(", []⟩) "(" := .say (by simp [Except.map])
    unfold pre sayBrackets
    rw [bind_of_ok (t.says_header call tracer), bind_of_ok (t.appends_name call _), if_pos hshown]
    refine bind_of_error ?_
    rw [bind_of_ok (hopen _)]
    exact bind_of_error (t.sayArguments_of_unknown builtins h true _)
  · cases h

/-! ### Unknown builtins -/

theorem unknown?_eq_some {builtins : Registry} {arg : Argument} {id : BuiltinId} :
    unknown? builtins arg = some id ↔ arg = .builtin id ∧ builtins.name? id = none := by
  cases arg with
  | text value => simp [unknown?]
  | builtin other =>
    rw [unknown?, Argument.builtin.injEq]
    cases hname : builtins.name? other with
    | none =>
      refine ⟨?_, fun h => congrArg some h.1⟩
      rintro ⟨⟩
      exact ⟨rfl, hname⟩
    | some name =>
      refine ⟨nofun, ?_⟩
      rintro ⟨rfl, hnone⟩
      rw [hnone] at hname
      cases hname

theorem of_unknownBuiltin? {t : TraceSettings} {builtins : Registry} {call : Call} {id : BuiltinId}
    (h : t.unknownBuiltin? builtins call = some id) :
    t.level.has .args = true ∧ Argument.builtin id ∈ call.args ∧ builtins.name? id = none := by
  unfold unknownBuiltin? at h
  split at h
  · rename_i hargs
    obtain ⟨arg, hmem, harg⟩ := List.exists_of_findSome?_eq_some h
    obtain ⟨rfl, hname⟩ := unknown?_eq_some.mp harg
    exact ⟨hargs, hmem, hname⟩
  · cases h

end TraceSettings

/-! ### What is appended -/

/-- A text is cut only if it has more characters than a limit that is set; as many as the limit are
then kept, and the mark follows them. -/
theorem cut_cases (limit : UInt64) (text : String) :
    (limit = 0 ∨ text.length ≤ limit.toNat → cut limit text = text) ∧
      (limit ≠ 0 → limit.toNat < text.length → ∃ kept dropped, text = kept ++ dropped ∧
        kept.length = limit.toNat ∧ cut limit text = kept ++ "...") := by
  refine ⟨fun h => ?_, fun hlimit hlength => ?_⟩
  · exact if_pos (by simpa using h)
  · refine ⟨String.ofList (text.toList.take limit.toNat),
      String.ofList (text.toList.drop limit.toNat), ?_, ?_, ?_⟩
    · rw [← String.ofList_append, List.take_append_drop, String.ofList_toList]
    · rw [String.length_ofList, List.length_take, String.length_toList]
      exact Nat.min_eq_left (Nat.le_of_lt hlength)
    · exact if_neg (by simp [hlimit, hlength])

namespace Tracer

open TraceSettings

/-- What each phase of a call appends to the pending line is its text, whatever the texts of the
call and of its environment hold; the line is then written, after the second phase only if calls are
traced on lines of their own. The second phase fails, with nothing left pending, exactly if it is to
show a builtin that the table does not know. -/
theorem phases_append (t : TraceSettings) (builtins : Registry) (call : Call)
    (expansion : Option String) (tracer : Tracer) :
    prepre t call tracer =
        finishLine { tracer with pending := tracer.pending.pushText (t.prepreText call) } ∧
      ((t.level.has .args = true →
          ∀ id, Argument.builtin id ∈ call.args → (builtins.name? id).isSome = true) →
        pre t builtins call tracer =
          (if t.level.has .call then finishLine else pure ())
            { tracer with pending := tracer.pending.pushText (t.preText builtins call) }) ∧
      (∀ id, t.level.has .args = true → Argument.builtin id ∈ call.args →
        builtins.name? id = none → ∃ first, Argument.builtin first ∈ call.args ∧
          builtins.name? first = none ∧ pre t builtins call tracer =
            .error (.failure (.unknownBuiltin first)) { tracer with pending := .empty }) ∧
      post t call expansion tracer =
        finishLine { tracer with pending := tracer.pending.pushText (t.postText call expansion) } ∧
      ∀ text, (t.limit = 0 ∨ text.length ≤ t.limit.toNat → cut t.limit text = text) ∧
        (t.limit ≠ 0 → t.limit.toNat < text.length → ∃ kept dropped, text = kept ++ dropped ∧
          kept.length = t.limit.toNat ∧ cut t.limit text = kept ++ "...") := by
  refine ⟨bind_of_ok (t.says_prepre call tracer), ?_, ?_,
    bind_of_ok (t.says_post call expansion tracer), cut_cases t.limit⟩
  · intro hknown
    cases hunknown : t.unknownBuiltin? builtins call with
    | some id =>
      obtain ⟨hargs, hmem, hnone⟩ := of_unknownBuiltin? hunknown
      have hname := hknown hargs id hmem
      rw [hnone] at hname
      cases hname
    | none =>
      exact t.pre_of_known builtins call hunknown tracer
  · intro id hargs hmem hnone
    cases hunknown : t.unknownBuiltin? builtins call with
    | some first =>
      obtain ⟨-, hfirst, hnameless⟩ := of_unknownBuiltin? hunknown
      exact ⟨first, hfirst, hnameless, t.pre_of_unknown builtins call hunknown tracer⟩
    | none =>
      rw [unknownBuiltin?, if_pos hargs, firstUnknown?, List.findSome?_eq_none_iff] at hunknown
      have hbuiltin := hunknown _ hmem
      rw [unknown?_eq_some.mpr ⟨rfl, hnone⟩] at hbuiltin
      cases hbuiltin

/-- Settings and a call whose texts hold directives, line breaks and characters of several bytes. -/
def hostileSettings : TraceSettings where
  program := "%d%"
  level := .standard ∪ .single .file ∪ .single .line ∪ .single .callId
  limit := 3
  quotes := ⟨"%l", "é%r"⟩
  location := { file := some "a\n%S", line := 7 }

def hostileCall : Call where
  id := 2
  name := "%s\n"
  depth := 0xFFFFFFFFFFFFFFFF
  args := [.text "é%Sx", .text "%%", .builtin ⟨1⟩]

def hostileBuiltins : Registry := Registry.empty.insert ⟨1⟩ "%q"

def hostileTracer : Tracer where
  outputs := .start {} (.initial 0) none none

theorem phases_append_hostile :
    (hostileSettings.level.has .args = true → ∀ id, Argument.builtin id ∈ hostileCall.args →
      (hostileBuiltins.name? id).isSome = true) ∧
    pre hostileSettings hostileBuiltins hostileCall hostileTracer =
      .ok () { hostileTracer with
        pending := LineBuffer.empty.pushText ("%d%trace:a\n%S:7: -9223372036854775807- id 2: "
          ++ "%s\n(%lé%S...é%r, %l%%é%r, <%q>)") } := by
  have hknown : hostileSettings.level.has .args = true → ∀ id,
      Argument.builtin id ∈ hostileCall.args → (hostileBuiltins.name? id).isSome = true := by
    intro _ id hid
    simp only [hostileCall, List.mem_cons, reduceCtorEq, Argument.builtin.injEq, List.not_mem_nil,
      or_false, false_or] at hid
    subst hid
    decide
  have htext : hostileSettings.preText hostileBuiltins hostileCall =
      "%d%trace:a\n%S:7: -9223372036854775807- id 2: " ++ "%s\n(%lé%S...é%r, %l%%é%r, <%q>)" := by
    decide
  refine ⟨hknown, ?_⟩
  rw [(phases_append hostileSettings hostileBuiltins hostileCall none
    hostileTracer).2.1 hknown, htext]
  rfl

end Tracer

end MacroTrace
