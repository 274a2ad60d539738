import MacroTrace.Proofs.TraceText
/-!
# The kinds of arguments that templates take

A directive takes a text, an integer or nothing, and so a template takes arguments of certain kinds
in a certain order (`Template.wanted`). Its expansion is a breach if and only if it is not given
these, whatever the options are. All that the tracer ever says is given exactly these
(`Phrase.Fits`), so none of its three phases breaks an agreement.
-/

namespace MacroTrace

/-- The kind of an argument of a template. -/
inductive ArgKind
  | text
  | int
deriving DecidableEq, Repr

namespace TemplateArg

def kind : TemplateArg → ArgKind
  | .text _ => .text
  | .int _ => .int

@[simp] theorem kind_text (value : String) : (text value).kind = .text := rfl

@[simp] theorem kind_int (value : Int64) : (int value).kind = .int := rfl

@[simp] theorem kind_ofNumber (n : UInt32) : (ofNumber n).kind = .int := rfl

@[simp] theorem kind_ofCount (n : UInt64) : (ofCount n).kind = .int := rfl

end TemplateArg

namespace Template

/-- The kind of argument that a directive takes, if it takes one. -/
@[simp] def takes? (directive : Char) : Option ArgKind :=
  if directive = 'd' then some .int
  else if directive = 's' || directive = 'S' then some .text
  else none

/-- The kinds of the arguments that a template takes, in the order of its directives. -/
@[simp] def wanted : List Char → List ArgKind
  | [] => []
  | ['%'] => []
  | '%' :: directive :: rest => (takes? directive).toList ++ wanted rest
  | _ :: rest => wanted rest

theorem isOk_then {ε α β : Type} (x : Except ε α) (f : α → β) :
    (do return f (← x)).isOk = x.isOk := by
  cases x <;> rfl

theorem wanted_plain {c : Char} (h : c ≠ '%') (rest : List Char) :
    wanted (c :: rest) = wanted rest := by
  rw [wanted]
  · intro hc
    exact absurd hc h
  · intro directive more hc
    exact absurd hc h

/-- A template can be expanded if and only if its first arguments are of the kinds that it takes. -/
theorem isOk_expandChars (o : TemplateOptions) (template : List Char) (args : List TemplateArg) :
    (expandChars o template args).isOk = (wanted template).isPrefixOf (args.map (·.kind)) := by
  fun_induction expandChars o template args with
  | case1 args => rfl
  | case2 args => rfl
  | case3 rest value args ih => exact (isOk_then _ _).trans ih
  | case4 rest value args ih => exact (isOk_then _ _).trans ih
  | case5 rest value args ih => exact (isOk_then _ _).trans ih
  | case6 rest args ih => exact (isOk_then _ _).trans ih
  | case7 rest args ih => exact (isOk_then _ _).trans ih
  | case8 rest args _ _ hint _ _ =>
    -- An integer is due, and there is none.
    rcases args with _ | ⟨value | value, args⟩
    · rfl
    · rfl
    · exact (hint value args rfl rfl).elim
  | case9 directive rest args hcut htext _ _ _ hd hs =>
    -- A text is due, and there is none.
    have htakes : takes? directive = some .text := by
      rw [takes?, if_neg hd, if_pos hs]
    rw [wanted, htakes]
    rcases args with _ | ⟨value | value, args⟩
    · rfl
    · rcases Bool.or_eq_true_iff.mp hs with h | h
      · exact (htext value args rfl (of_decide_eq_true h)).elim
      · exact (hcut value args rfl (of_decide_eq_true h)).elim
    · rfl
  | case10 directive rest args _ _ _ _ _ hd hs ih =>
    have htakes : takes? directive = none := by
      rw [takes?, if_neg hd, if_neg hs]
    rw [wanted, htakes]
    exact ih
  | case11 c rest args hlast _ _ _ _ _ hdirective ih =>
    have hc : c ≠ '%' := by
      rintro rfl
      cases rest with
      | nil => exact hlast rfl rfl
      | cons directive rest => exact hdirective directive rest rfl rfl
    rw [wanted_plain hc]
    exact (isOk_then _ _).trans ih

end Template

/-- A phrase has the arguments that its template takes, and no others. -/
def Phrase.Fits (phrase : Phrase) : Prop :=
  phrase.args.map (·.kind) = Template.wanted phrase.template.toList

/-- Every phrase has the arguments that its template takes. -/
def AllFit (phrases : List Phrase) : Prop := ∀ phrase ∈ phrases, phrase.Fits

namespace AllFit

variable {a b : List Phrase}

theorem nil : AllFit [] := fun _ h => nomatch h

theorem one {template : String} {args : List TemplateArg}
    (h : args.map (·.kind) = Template.wanted template.toList) : AllFit [⟨template, args⟩] :=
  List.forall_mem_singleton.mpr h

theorem append (ha : AllFit a) (hb : AllFit b) : AllFit (a ++ b) :=
  List.forall_mem_append.mpr ⟨ha, hb⟩

theorem ite (c : Bool) (h : AllFit a) : AllFit (if c then a else []) := by
  cases c with
  | false => exact nil
  | true => exact h

end AllFit

/-! ## Saying what fits -/

namespace Tracer

/-- A phrase that fits is said without a breach, under all options. -/
theorem say_of_fits {phrase : Phrase} (h : phrase.Fits) (o : TemplateOptions) (t : Tracer) :
    ∃ t', say o phrase t = .ok () t' := by
  have hexpand : (Template.expandChars o phrase.template.toList phrase.args).isOk = true := by
    rw [Template.isOk_expandChars, h]
    exact List.isPrefixOf_iff_prefix.mpr List.prefix_rfl
  unfold say LineBuffer.format Template.expand
  cases hchars : Template.expandChars o phrase.template.toList phrase.args with
  | ok chars => exact ⟨_, rfl⟩
  | error breach =>
    rw [hchars] at hexpand
    cases hexpand

theorem sayAll_of_fits {phrases : List Phrase} (h : AllFit phrases)
    (o : TemplateOptions) (t : Tracer) : ∃ t', sayAll o phrases t = .ok () t' := by
  induction phrases generalizing t with
  | nil => exact ⟨t, rfl⟩
  | cons phrase rest ih =>
    obtain ⟨hphrase, hlater⟩ := List.forall_mem_cons.mp h
    obtain ⟨t₁, hsay⟩ := say_of_fits hphrase o t
    obtain ⟨t₂, hrest⟩ := ih hlater t₁
    exact ⟨t₂, (bind_of_ok hsay).trans hrest⟩

end Tracer

/-! ## What the tracer says -/

namespace TraceSettings

variable (t : TraceSettings) (builtins : Registry) (call : Call)

theorem fits_header : AllFit (t.header call) :=
  .append (.append (.append (.append (.one (by simp)) (.ite _ (.one (by simp))))
    (.ite _ (.one (by simp)))) (.one (by simp))) (.ite _ (.one (by simp)))

theorem fits_prepre : AllFit (t.prepre call) :=
  .append (t.fits_header call) (.one (by simp))

theorem fits_post (expansion : Option String) : AllFit (t.post call expansion) := by
  refine .append (.ite _ (.append (t.fits_header call) (.one (by simp)))) ?_
  cases expansion with
  | none => exact .nil
  | some text => exact .ite _ (.one (by simp))

theorem fits_argument {arg : Argument} {phrase : Phrase} (h : argument builtins arg = .ok phrase) :
    phrase.Fits := by
  cases arg with
  | text value =>
    cases h
    simp [Phrase.Fits]
  | builtin id =>
    cases hname : builtins.name? id with
    | none => simp [argument, hname] at h
    | some name =>
      simp only [argument, hname, Except.ok.injEq] at h
      subst h
      simp [Phrase.Fits]

/-- The phrases that show arguments of a call, with a comma in front of each but the first of all;
fails with the first builtin that the table does not know. -/
def arguments : List Argument → (isFirst : Bool) → Except BuiltinId (List Phrase)
  | [], _ => .ok []
  | arg :: rest, isFirst => do
    let phrase ← argument builtins arg
    let later ← arguments rest false
    return (if isFirst then [] else [⟨", ", []⟩]) ++ phrase :: later

/-- The phrases that show the arguments of a call in brackets, if there are any and they are to be
shown. -/
def brackets : Except BuiltinId (List Phrase) :=
  if !call.args.isEmpty && t.level.has .args then do
    let shown ← arguments builtins call.args true
    return [⟨"(", []⟩] ++ shown ++ [⟨")", []⟩]
  else .ok []

/-- The phrases that show a call whose arguments are known; fails with the first builtin that the
table does not know, if it is to be shown. -/
def pre : Except BuiltinId (List Phrase) := do
  let shown ← t.brackets builtins call
  return t.header call ++ [⟨"%s", [.text call.name]⟩] ++ shown
    ++ (if t.level.has .call then [⟨" -> ???", []⟩] else [])

theorem fits_arguments {args : List Argument} {isFirst : Bool} {phrases : List Phrase}
    (h : arguments builtins args isFirst = .ok phrases) : AllFit phrases := by
  induction args generalizing isFirst phrases with
  | nil =>
    cases h
    exact .nil
  | cons arg rest ih =>
    obtain ⟨phrase, hphrase, h⟩ := except_bind_eq_ok h
    obtain ⟨later, hlater, h⟩ := except_bind_eq_ok h
    cases h
    refine .append ?_ (List.forall_mem_cons.mpr ⟨fits_argument builtins hphrase, ih hlater⟩)
    cases isFirst with
    | true => exact .nil
    | false => exact .one (by simp)

theorem fits_brackets {phrases : List Phrase} (h : t.brackets builtins call = .ok phrases) :
    AllFit phrases := by
  unfold brackets at h
  split at h
  · obtain ⟨shown, hshown, h⟩ := except_bind_eq_ok h
    cases h
    have hopen : AllFit [⟨"(", []⟩] := .one (by simp)
    have hclose : AllFit [⟨")", []⟩] := .one (by simp)
    exact .append (.append hopen (fits_arguments builtins hshown)) hclose
  · cases h
    exact .nil

theorem fits_pre {phrases : List Phrase} (h : t.pre builtins call = .ok phrases) :
    AllFit phrases := by
  obtain ⟨shown, hshown, h⟩ := except_bind_eq_ok h
  cases h
  have hname : AllFit (t.header call ++ [⟨"%s", [.text call.name]⟩]) :=
    .append (t.fits_header call) (.one (by simp))
  have hend : AllFit (if t.level.has .call then [⟨" -> ???", []⟩] else []) :=
    .ite _ (.one (by simp))
  exact .append (.append hname (t.fits_brackets builtins call hshown)) hend

end TraceSettings

namespace Tracer

variable (o : TemplateOptions) (t : TraceSettings) (builtins : Registry) (call : Call)

theorem sayAll_append_bind (a b : List Phrase) :
    sayAll o (a ++ b) = sayAll o a >>= fun _ => sayAll o b := by
  induction a with
  | nil => rfl
  | cons phrase rest ih =>
    show (say o phrase >>= fun _ => sayAll o (rest ++ b)) = _
    rw [ih]
    exact (bind_assoc _ _ _).symm

theorem sayAll_one (phrase : Phrase) : sayAll o [phrase] = say o phrase := bind_pure _

/-- Arguments that the table knows are said as these phrases. -/
theorem sayArguments_eq {args : List Argument} {isFirst : Bool} {phrases : List Phrase}
    (h : TraceSettings.arguments builtins args isFirst = .ok phrases) :
    sayArguments o builtins args isFirst = sayAll o phrases := by
  induction args generalizing isFirst phrases with
  | nil =>
    cases h
    rfl
  | cons arg rest ih =>
    obtain ⟨phrase, hphrase, h⟩ := except_bind_eq_ok h
    obtain ⟨later, hlater, h⟩ := except_bind_eq_ok h
    cases h
    rw [sayArguments, sayArgument, hphrase, ih hlater, sayAll_append_bind]
    rfl

theorem sayBrackets_eq {phrases : List Phrase} (h : t.brackets builtins call = .ok phrases) :
    sayBrackets t builtins call = sayAll t.options phrases := by
  unfold TraceSettings.brackets at h
  unfold sayBrackets
  by_cases hargs : !call.args.isEmpty && t.level.has .args
  · rw [if_pos hargs] at h ⊢
    obtain ⟨shown, hshown, h⟩ := except_bind_eq_ok h
    cases h
    rw [sayArguments_eq t.options builtins hshown]
    simp only [sayAll_append_bind, sayAll_one, bind_assoc]
  · rw [if_neg hargs] at h ⊢
    cases h
    rfl

/-- If the table knows all that it is asked for, the second phase says its phrases, and the line is
written if calls are traced on lines of their own. -/
theorem pre_eq {phrases : List Phrase} (h : t.pre builtins call = .ok phrases) :
    pre t builtins call = sayAll t.options phrases >>= fun _ =>
      if t.level.has .call then finishLine else Pure.pure () := by
  obtain ⟨shown, hshown, h⟩ := except_bind_eq_ok h
  cases h
  have hbrackets := sayBrackets_eq t builtins call hshown
  unfold pre
  rw [hbrackets]
  simp only [sayAll_append_bind, sayAll_one, bind_assoc]
  by_cases hcall : t.level.has .call
  · rw [if_pos hcall, if_pos hcall, if_pos hcall, sayAll_one]
  · rw [if_neg hcall, if_neg hcall, if_neg hcall]
    rfl

end Tracer

/-! ## The phases -/

/-- An operation breaks no agreement, whatever state it starts from. -/
def NoBreach {σ α : Type} (action : EStateM Stop σ α) : Prop :=
  ∀ s breach s', action s ≠ .error (.panic breach) s'

namespace Tracer

theorem noBreach_finishLine : NoBreach finishLine := by
  intro t breach t' h
  unfold finishLine at h
  simp only at h
  split at h <;> cases h

theorem noBreach_sayAll_bind {phrases : List Phrase} (h : AllFit phrases) (o : TemplateOptions)
    {next : EStateM Stop Tracer Unit} (hnext : NoBreach next) :
    NoBreach (sayAll o phrases >>= fun _ => next) := by
  intro t
  obtain ⟨t₁, hsaid⟩ := sayAll_of_fits h o t
  rw [bind_of_ok hsaid]
  exact hnext t₁

variable (t : TraceSettings) (builtins : Registry) (call : Call)

theorem noBreach_prepre : NoBreach (prepre t call) :=
  noBreach_sayAll_bind (t.fits_prepre call) _ noBreach_finishLine

theorem noBreach_pre : NoBreach (pre t builtins call) := by
  intro tracer
  cases hunknown : t.unknownBuiltin? builtins call with
  | some id =>
    rw [t.pre_of_unknown builtins call hunknown]
    exact nofun
  | none =>
    rw [t.pre_of_known builtins call hunknown]
    split
    · exact noBreach_finishLine _
    · exact nofun

theorem noBreach_post (expansion : Option String) : NoBreach (post t call expansion) :=
  noBreach_sayAll_bind (t.fits_post call expansion) _ noBreach_finishLine

end Tracer

end MacroTrace
