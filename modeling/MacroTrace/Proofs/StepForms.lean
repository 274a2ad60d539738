import Mathlib
import MacroTrace.Script
import MacroTrace.Proofs.FieldValues
import MacroTrace.Proofs.RecordFields
/-!
# Forms of steps

The documented form of every kind of step (`stepForms`): its fields, their values, and the defaults
for which they may be left out. A document that tells of a step (`Step.Told`) is read as that step;
one with a fault among its keys (`Step.FaultyDocument`) is not read at all.
-/

namespace MacroTrace

open Document Record

/-! ## Arguments of calls -/

/-- An argument of a call. -/
def argumentValue : Argument → Document
  | .text s => .object [("text", .text s)]
  | .builtin id => .object [("builtin", numberValue id.number)]

/-- Arguments of a call. -/
def argumentsValue (args : List Argument) : Document := .list (args.map argumentValue)

/-- The values of a list are read one by one. -/
theorem mapM_eq_ok_iff {σ ε α : Type} {read : σ → Except ε α} {values : List σ} {as : List α} :
    values.mapM read = .ok as ↔ List.Forall₂ (fun value a => read value = .ok a) values as := by
  induction values generalizing as with
  | nil => simp [pure, Except.pure, eq_comm]
  | cons head rest ih =>
    rw [List.mapM_cons, List.forall₂_cons_left_iff]
    cases hhead : read head with
    | error cause => simp [bind, Except.bind]
    | ok a =>
      cases hrest : rest.mapM read with
      | error cause => simp [bind, Except.bind, ← ih, hrest]
      | ok more => simp [bind, Except.bind, pure, Except.pure, ← ih, hrest, eq_comm]

theorem argument_argumentValue (a : Argument) : Step.argument (argumentValue a) = .ok a := by
  cases a with
  | text s => rfl
  | builtin id =>
    show (do return Argument.builtin ⟨← asNumber (numberValue id.number)⟩) = _
    rw [asNumber_numberValue]
    rfl

@[simp] theorem asList_argumentsValue (args : List Argument) :
    asList Step.argument (argumentsValue args) = .ok args := by
  refine mapM_eq_ok_iff.mpr (List.forall₂_map_left_iff.mpr ?_)
  exact List.forall₂_same.mpr fun a _ => argument_argumentValue a

@[simp] theorem argumentsValue_inj {as bs : List Argument} :
    argumentsValue as = argumentsValue bs ↔ as = bs :=
  eq_iff_of_read asList_argumentsValue

/-! ## Forms of fields -/

/-- The fields of a location. -/
def locationForms : List (FieldForm Location) :=
  [⟨"file", fun l => optionValue .text l.file, some .null⟩,
   ⟨"line", fun l => numberValue l.line, some (.int 0)⟩]

/-- The field of a record that is one text which may be missing. -/
def optionForms (name : String) : List (FieldForm (Option String)) :=
  [⟨name, optionValue .text, some .null⟩]

/-- The field of a record that is one text. -/
def textForms : List (FieldForm String) :=
  [⟨"text", .text, none⟩]

/-- The fields of a traced call. -/
def callForms : List (FieldForm TracedCall) :=
  [⟨"id", fun t => numberValue t.call.id, none⟩,
   ⟨"name", fun t => .text t.call.name, none⟩,
   ⟨"depth", fun t => countValue t.call.depth, some (.int 1)⟩,
   ⟨"args", fun t => argumentsValue t.call.args, some (.list [])⟩,
   ⟨"result", fun t => optionValue .text t.result, some .null⟩]

/-- The fields of an error. -/
def errorForms : List (FieldForm ErrorReport) :=
  [⟨"status", fun e => signedValue e.status, some (.int 0)⟩,
   ⟨"errnum", fun e => signedValue e.errnum, some (.int 0)⟩,
   ⟨"text", fun e => .text e.text, none⟩]

/-- The fields of a warning. -/
def warningForms : List (FieldForm WarningReport) :=
  [⟨"errnum", fun w => signedValue w.errnum, some (.int 0)⟩,
   ⟨"text", fun w => .text w.text, none⟩]

/-- The fields of a check of a number of arguments. -/
def countForms : List (FieldForm CountCheck) :=
  [⟨"name", fun c => .text c.name, none⟩,
   ⟨"argc", fun c => countValue c.count, none⟩,
   ⟨"min", fun c => countValue c.least, none⟩,
   ⟨"max", fun c => optionValue countValue c.most, some .null⟩,
   ⟨"side_effect", fun c => .bool c.sideEffect, some (.bool false)⟩]

/-- The fields of a check of a numeric argument. -/
def numberForms : List (FieldForm NumberCheck) :=
  [⟨"name", fun c => .text c.name, none⟩,
   ⟨"text", fun c => .text c.text, none⟩]

/-- The fields of arguments to print. -/
def dumpForms : List (FieldForm ArgumentDump) :=
  [⟨"args", fun d => argumentsValue d.args, some (.list [])⟩,
   ⟨"separator", fun d => .text d.separator, some (.text ",")⟩,
   ⟨"quoted", fun d => .bool d.isQuoted, some (.bool false)⟩]

/-! ## Reading the fields of each kind -/

theorem locationFields_carryOut : CarriesOut Step.locationFields {} locationForms where
  fields := by
    have hfile : FieldCarriesOut locationForms Step.locationFields[0] locationForms[0] := by
      refine .of_read rfl rfl (fun l => asOption_text l.file) (fun _ _ => rfl) ?_
      simp [locationForms]
    have hline : FieldCarriesOut locationForms Step.locationFields[1] locationForms[1] := by
      refine .of_read rfl rfl (fun l => asNumber_numberValue l.line) (fun _ _ => rfl) ?_
      simp [locationForms]
    exact .cons hfile (.cons hline .nil)
  distinct := by decide
  start := by simp [locationForms, optionValue, numberValue]
  ext := by
    rintro ⟨file, line⟩ ⟨file', line'⟩ h
    simpa [locationForms] using h

theorem optionField_carriesOut (name : String) :
    CarriesOut (Step.optionField name) none (optionForms name) where
  fields := by
    refine .cons ⟨rfl, rfl, fun s _ => ⟨s, asOption_text s, rfl, ?_⟩⟩ .nil
    simp [optionForms]
  distinct := List.nodup_singleton name
  start := by simp [optionForms, optionValue]
  ext := by simp [optionForms]

theorem textField_carriesOut : CarriesOut Step.textField "" textForms where
  fields := by
    refine .cons ⟨rfl, rfl, fun s _ => ⟨s, asText_text s, rfl, ?_⟩⟩ .nil
    simp [textForms]
  distinct := by decide
  start := by simp [textForms]
  ext := by simp [textForms]

theorem callFields_carryOut :
    CarriesOut Step.callFields { call := { name := "" } } callForms where
  fields := by
    have hid : FieldCarriesOut callForms Step.callFields[0] callForms[0] := by
      refine .of_read rfl rfl (fun t => asNumber_numberValue t.call.id) (fun _ _ => rfl) ?_
      simp [callForms]
    have hname : FieldCarriesOut callForms Step.callFields[1] callForms[1] := by
      refine .of_read rfl rfl (fun t => asText_text t.call.name) (fun _ _ => rfl) ?_
      simp [callForms]
    have hdepth : FieldCarriesOut callForms Step.callFields[2] callForms[2] := by
      refine .of_read rfl rfl (fun t => asCount_countValue t.call.depth) (fun _ _ => rfl) ?_
      simp [callForms]
    have hargs : FieldCarriesOut callForms Step.callFields[3] callForms[3] := by
      refine .of_read rfl rfl (fun t => asList_argumentsValue t.call.args) (fun _ _ => rfl) ?_
      simp [callForms]
    have hresult : FieldCarriesOut callForms Step.callFields[4] callForms[4] := by
      refine .of_read rfl rfl (fun t => asOption_text t.result) (fun _ _ => rfl) ?_
      simp [callForms]
    exact .cons hid (.cons hname (.cons hdepth (.cons hargs (.cons hresult .nil))))
  distinct := by decide
  start := by simp [callForms, optionValue, countValue, argumentsValue]
  ext := by
    rintro ⟨⟨id, name, depth, args⟩, result⟩ ⟨⟨id', name', depth', args'⟩, result'⟩ h
    simpa [callForms, and_assoc] using h

theorem errorFields_carryOut : CarriesOut Step.errorFields { text := "" } errorForms where
  fields := by
    have hstatus : FieldCarriesOut errorForms Step.errorFields[0] errorForms[0] := by
      refine .of_read rfl rfl (fun e => asSigned_signedValue e.status) (fun _ _ => rfl) ?_
      simp [errorForms]
    have herrnum : FieldCarriesOut errorForms Step.errorFields[1] errorForms[1] := by
      refine .of_read rfl rfl (fun e => asSigned_signedValue e.errnum) (fun _ _ => rfl) ?_
      simp [errorForms]
    have htext : FieldCarriesOut errorForms Step.errorFields[2] errorForms[2] := by
      refine .of_read rfl rfl (fun e => asText_text e.text) (fun _ _ => rfl) ?_
      simp [errorForms]
    exact .cons hstatus (.cons herrnum (.cons htext .nil))
  distinct := by decide
  start := by simp [errorForms, signedValue, ExitStatus.success]
  ext := by
    rintro ⟨status, errnum, text⟩ ⟨status', errnum', text'⟩ h
    simpa [errorForms] using h

theorem warningFields_carryOut : CarriesOut Step.warningFields { text := "" } warningForms where
  fields := by
    have herrnum : FieldCarriesOut warningForms Step.warningFields[0] warningForms[0] := by
      refine .of_read rfl rfl (fun w => asSigned_signedValue w.errnum) (fun _ _ => rfl) ?_
      simp [warningForms]
    have htext : FieldCarriesOut warningForms Step.warningFields[1] warningForms[1] := by
      refine .of_read rfl rfl (fun w => asText_text w.text) (fun _ _ => rfl) ?_
      simp [warningForms]
    exact .cons herrnum (.cons htext .nil)
  distinct := by decide
  start := by simp [warningForms, signedValue]
  ext := by
    rintro ⟨errnum, text⟩ ⟨errnum', text'⟩ h
    simpa [warningForms] using h

theorem countFields_carryOut :
    CarriesOut Step.countFields { name := "", count := 0, least := 0 } countForms where
  fields := by
    have hname : FieldCarriesOut countForms Step.countFields[0] countForms[0] := by
      refine .of_read rfl rfl (fun c => asText_text c.name) (fun _ _ => rfl) ?_
      simp [countForms]
    have hargc : FieldCarriesOut countForms Step.countFields[1] countForms[1] := by
      refine .of_read rfl rfl (fun c => asCount_countValue c.count) (fun _ _ => rfl) ?_
      simp [countForms]
    have hmin : FieldCarriesOut countForms Step.countFields[2] countForms[2] := by
      refine .of_read rfl rfl (fun c => asCount_countValue c.least) (fun _ _ => rfl) ?_
      simp [countForms]
    have hmax : FieldCarriesOut countForms Step.countFields[3] countForms[3] := by
      refine .of_read rfl rfl (fun c => asOption_count c.most) (fun _ _ => rfl) ?_
      simp [countForms]
    have heffect : FieldCarriesOut countForms Step.countFields[4] countForms[4] := by
      refine .of_read rfl rfl (fun c => asBool_bool c.sideEffect) (fun _ _ => rfl) ?_
      simp [countForms]
    exact .cons hname (.cons hargc (.cons hmin (.cons hmax (.cons heffect .nil))))
  distinct := by decide
  start := by simp [countForms, optionValue]
  ext := by
    rintro ⟨name, count, least, most, sideEffect⟩ ⟨name', count', least', most', sideEffect'⟩ h
    simpa [countForms] using h

theorem numberFields_carryOut :
    CarriesOut Step.numberFields { name := "", text := "" } numberForms where
  fields := by
    have hname : FieldCarriesOut numberForms Step.numberFields[0] numberForms[0] := by
      refine .of_read rfl rfl (fun c => asText_text c.name) (fun _ _ => rfl) ?_
      simp [numberForms]
    have htext : FieldCarriesOut numberForms Step.numberFields[1] numberForms[1] := by
      refine .of_read rfl rfl (fun c => asText_text c.text) (fun _ _ => rfl) ?_
      simp [numberForms]
    exact .cons hname (.cons htext .nil)
  distinct := by decide
  start := by simp [numberForms]
  ext := by
    rintro ⟨name, text⟩ ⟨name', text'⟩ h
    simpa [numberForms] using h

theorem dumpFields_carryOut : CarriesOut Step.dumpFields {} dumpForms where
  fields := by
    have hargs : FieldCarriesOut dumpForms Step.dumpFields[0] dumpForms[0] := by
      refine .of_read rfl rfl (fun d => asList_argumentsValue d.args) (fun _ _ => rfl) ?_
      simp [dumpForms]
    have hseparator : FieldCarriesOut dumpForms Step.dumpFields[1] dumpForms[1] := by
      refine .of_read rfl rfl (fun d => asText_text d.separator) (fun _ _ => rfl) ?_
      simp [dumpForms]
    have hquoted : FieldCarriesOut dumpForms Step.dumpFields[2] dumpForms[2] := by
      refine .of_read rfl rfl (fun d => asBool_bool d.isQuoted) (fun _ _ => rfl) ?_
      simp [dumpForms]
    exact .cons hargs (.cons hseparator (.cons hquoted .nil))
  distinct := by decide
  start := by simp [dumpForms, argumentsValue]
  ext := by
    rintro ⟨args, separator, isQuoted⟩ ⟨args', separator', isQuoted'⟩ h
    simpa [dumpForms] using h

/-! ## Forms of steps -/

/-- The documented form of a kind of step. -/
structure StepForm where
  /-- The name of the kind. -/
  name : String
  /-- What the fields make up. -/
  Content : Type
  /-- The fields. -/
  fields : List (FieldForm Content)
  /-- The step that they tell of. -/
  step : Content → Step

/-- Every kind of step. -/
def stepForms : List StepForm :=
  [⟨"location", Location, locationForms, .location⟩,
   ⟨"debugmode", Option String, optionForms "flags", .debugMode⟩,
   ⟨"debugfile", Option String, optionForms "path", .debugFile⟩,
   ⟨"prepre", TracedCall, callForms, .trace .prepre⟩,
   ⟨"pre", TracedCall, callForms, .trace .pre⟩,
   ⟨"post", TracedCall, callForms, .trace .post⟩,
   ⟨"message", String, textForms, .message⟩,
   ⟨"output", String, textForms, .output⟩,
   ⟨"error", ErrorReport, errorForms, .error⟩,
   ⟨"warn", WarningReport, warningForms, .warn⟩,
   ⟨"argc", CountCheck, countForms, .argc⟩,
   ⟨"numeric", NumberCheck, numberForms, .numeric⟩,
   ⟨"dumpargs", ArgumentDump, dumpForms, .dumpArgs⟩,
   ⟨"flush", Unit, [], fun _ => .flush⟩]

/-- The fields of a step, the one that tells its kind among them. -/
def StepForm.allFields (form : StepForm) : List (FieldForm form.Content) :=
  ⟨"op", fun _ => .text form.name, none⟩ :: form.fields

/-- The documents that tell of a step: tables of its kind and its fields, in any order, from which
fields that have their default may be left out. -/
inductive Step.Told : Step → Document → Prop
  | object {form : StepForm} (hform : form ∈ stepForms) (content : form.Content)
    {entries : List (String × Document)} (h : Record.Tells form.allFields content entries) :
    Step.Told (form.step content) (.object entries)

/-- The tables with a kind, other than that without fields, and with a fault among their keys. -/
inductive Step.FaultyDocument : Document → Prop
  | object {form : StepForm} (hform : form ∈ stepForms) (hflush : form.name ≠ "flush")
    {entries : List (String × Document)} (hkind : ("op", .text form.name) ∈ entries)
    (h : Record.Faulty form.allFields (keys entries)) : Step.FaultyDocument (.object entries)

/-- A kind of step that carries out its form. -/
structure KindCarriesOut (kind : Step.Kind) (form : StepForm) : Prop where
  name : kind.name = form.name
  read : ∀ content entries, Record.Tells form.fields content entries →
    kind.read (.object entries) = .ok (form.step content)
  not_faulty : form.name ≠ "flush" → ∀ entries step, kind.read (.object entries) = .ok step →
    ¬ Record.Faulty form.fields (keys entries)

theorem KindCarriesOut.of_fields {α : Type} (name : String) {kind : Step.Kind}
    {fields : List (Field Document α)} {start : α} {forms : List (FieldForm α)} {step : α → Step}
    (h : CarriesOut fields start forms) (hname : kind.name = name)
    (hread : ∀ entries, kind.read (.object entries) =
      (ofEntries fields (asField fields) (Document.keyed entries) start).map step) :
    KindCarriesOut kind ⟨name, α, forms, step⟩ where
  name := hname
  read record entries htells := by
    rw [hread, h.ofEntries_of_tells htells]
    rfl
  not_faulty _ entries result hresult := by
    rw [hread] at hresult
    cases hrecord : ofEntries fields (asField fields) (Document.keyed entries) start with
    | error cause =>
      rw [hrecord] at hresult
      cases hresult
    | ok record => exact h.not_faulty hrecord

theorem ofFields_carriesOut {α : Type} {fields : List (Field Document α)} {start : α}
    {forms : List (FieldForm α)} (h : CarriesOut fields start forms) (name variant : String)
    (step : α → Step) :
    KindCarriesOut (.ofFields name variant fields start step) ⟨name, α, forms, step⟩ := by
  refine .of_fields name h rfl fun entries => ?_
  show (do return step (← ofEntries fields (asField fields) (Document.keyed entries) start)) = _
  cases ofEntries fields (asField fields) (Document.keyed entries) start <;> rfl

theorem ofPhase_carriesOut (name : String) (phase : Phase) :
    KindCarriesOut (.ofPhase name phase) ⟨name, TracedCall, callForms, .trace phase⟩ := by
  refine .of_fields name callFields_carryOut rfl fun entries => ?_
  show (do return Step.trace phase (← ofEntries Step.callFields (asField Step.callFields)
    (Document.keyed entries) _)) = _
  cases ofEntries Step.callFields (asField Step.callFields) (Document.keyed entries) _ <;> rfl

theorem kinds_carryOut : List.Forall₂ KindCarriesOut Step.kinds stepForms := by
  have hflush : KindCarriesOut (.bare "flush" .flush) ⟨"flush", Unit, [], fun _ => .flush⟩ :=
    ⟨rfl, fun _ _ _ => rfl, fun hflush => absurd rfl hflush⟩
  refine .cons (ofFields_carriesOut locationFields_carryOut ..) ?_
  refine .cons (ofFields_carriesOut (optionField_carriesOut "flags") ..) ?_
  refine .cons (ofFields_carriesOut (optionField_carriesOut "path") ..) ?_
  refine .cons (ofPhase_carriesOut "prepre" .prepre) ?_
  refine .cons (ofPhase_carriesOut "pre" .pre) ?_
  refine .cons (ofPhase_carriesOut "post" .post) ?_
  refine .cons (ofFields_carriesOut textField_carriesOut "message" ..) ?_
  refine .cons (ofFields_carriesOut textField_carriesOut "output" ..) ?_
  refine .cons (ofFields_carriesOut errorFields_carryOut ..) ?_
  refine .cons (ofFields_carriesOut warningFields_carryOut ..) ?_
  refine .cons (ofFields_carriesOut countFields_carryOut ..) ?_
  refine .cons (ofFields_carriesOut numberFields_carryOut ..) ?_
  refine .cons (ofFields_carriesOut dumpFields_carryOut ..) ?_
  exact .cons hflush .nil

theorem exists_kind {form : StepForm} (hform : form ∈ stepForms) :
    ∃ kind, Step.kindOf (.text form.name) = .ok kind ∧ KindCarriesOut kind form := by
  obtain ⟨kind, -, hfound, hcarries⟩ := exists_find?_of_forall₂ (·.name) (·.name)
    kinds_carryOut (fun _ _ h => h.name) (by decide) hform
  exact ⟨kind, by rw [Step.kindOf, Step.kindNamed, hfound], hcarries⟩

/-! ## The kind among the entries -/

namespace Step

/-- The entries of a table that do not tell its kind. -/
def others (entries : List (String × Document)) : List (String × Document) :=
  entries.filter fun entry => entry.1 != kindKey

theorem keys_others (entries : List (String × Document)) :
    keys (others entries) = (keys entries).filter (· != kindKey) := by
  unfold keys others
  rw [List.filter_map]
  rfl

theorem others_eq_self {entries : List (String × Document)} (h : kindKey ∉ keys entries) :
    others entries = entries := by
  refine List.filter_eq_self.mpr fun entry hentry => ?_
  rw [bne_iff_ne]
  rintro hkey
  exact h (hkey ▸ List.mem_map_of_mem hentry)

theorem isKindKey_text (key : String) : isKindKey (.text key) = (key == kindKey) := rfl

theorem keyed_cons (key : String) (value : Document) (rest : List (String × Document)) :
    Document.keyed ((key, value) :: rest) = (.text key, value) :: Document.keyed rest := rfl

theorem splitKind_kind (value : Document) (rest : List (String × Document)) (found : Option Kind) :
    splitKind isKindKey kindOf (Document.keyed ((kindKey, value) :: rest)) found =
      if found.isSome then .error (.duplicateField kindKey)
      else kindOf value >>= fun kind =>
        splitKind isKindKey kindOf (Document.keyed rest) (some kind) := by
  rw [keyed_cons, splitKind, isKindKey_text, if_pos (beq_self_eq_true _)]
  cases found with
  | none => rfl
  | some kind => rfl

theorem splitKind_other {key : String} (hkey : key ≠ kindKey) (value : Document)
    (rest : List (String × Document)) (found : Option Kind) :
    splitKind isKindKey kindOf (Document.keyed ((key, value) :: rest)) found =
      (splitKind isKindKey kindOf (Document.keyed rest) found).map fun split =>
        (split.1, (.text key, value) :: split.2) := by
  rw [keyed_cons, splitKind, isKindKey_text, if_neg (by simpa using hkey)]
  cases splitKind isKindKey kindOf (Document.keyed rest) found <;> rfl

theorem splitKind_of_notMem {entries : List (String × Document)} (h : kindKey ∉ keys entries)
    (found : Option Kind) :
    splitKind isKindKey kindOf (Document.keyed entries) found =
      .ok (found, Document.keyed entries) := by
  induction entries with
  | nil => rfl
  | cons entry rest ih =>
    obtain ⟨key, value⟩ := entry
    rw [keys_cons, List.mem_cons, not_or] at h
    rw [splitKind_other (Ne.symm h.1), ih h.2]
    rfl

theorem others_kind {value : Document} {rest : List (String × Document)}
    (h : kindKey ∉ keys rest) : others ((kindKey, value) :: rest) = rest :=
  (List.filter_cons_of_neg (by simp)).trans (others_eq_self h)

theorem others_other {key : String} (hkey : key ≠ kindKey) (value : Document)
    (rest : List (String × Document)) :
    others ((key, value) :: rest) = (key, value) :: others rest :=
  List.filter_cons_of_pos (by simpa using hkey)

theorem mem_keys_others {key : String} {entries : List (String × Document)} :
    key ∈ keys (others entries) ↔ key ∈ keys entries ∧ key ≠ kindKey := by
  rw [keys_others, List.mem_filter, bne_iff_ne]

/-- Wherever the kind stands, it is found, and all else is kept. -/
theorem splitKind_of_mem {entries : List (String × Document)} (hdistinct : (keys entries).Nodup)
    {value : Document} {kind : Kind} (hkind : kindOf value = .ok kind)
    (hmem : (kindKey, value) ∈ entries) :
    splitKind isKindKey kindOf (Document.keyed entries) none =
      .ok (some kind, Document.keyed (others entries)) := by
  induction entries with
  | nil => cases hmem
  | cons entry rest ih =>
    obtain ⟨key, value'⟩ := entry
    rw [keys_cons, List.nodup_cons] at hdistinct
    rcases List.mem_cons.mp hmem with heq | hrest
    · obtain ⟨rfl, rfl⟩ := Prod.mk.inj heq
      rw [splitKind_kind, hkind, others_kind hdistinct.1]
      exact splitKind_of_notMem hdistinct.1 (some kind)
    · have hkey : key ≠ kindKey := by
        rintro rfl
        exact hdistinct.1 (List.mem_map_of_mem hrest)
      rw [splitKind_other hkey, ih hdistinct.2 hrest, others_other hkey]
      rfl

/-- Where a kind is found, it is the only one, and all else is kept. -/
theorem splitKind_eq_ok {entries : List (String × Document)} {found kind : Option Kind}
    {fields : List (Document × Document)}
    (h : splitKind isKindKey kindOf (Document.keyed entries) found = .ok (kind, fields)) :
    fields = Document.keyed (others entries) ∧ (found.isSome → kindKey ∉ keys entries) ∧
      ((keys (others entries)).Nodup → (keys entries).Nodup) ∧
      ∀ value, (kindKey, value) ∈ entries → ∃ k, kindOf value = .ok k ∧ kind = some k := by
  induction entries generalizing found kind fields with
  | nil =>
    cases h
    exact ⟨rfl, fun _ => List.not_mem_nil, id, fun value hvalue => nomatch hvalue⟩
  | cons entry rest ih =>
    obtain ⟨key, value⟩ := entry
    by_cases hkey : key = kindKey
    -- The kind has been found before, or no later entry can tell it again.
    · subst hkey
      rw [splitKind_kind] at h
      cases found with
      | some found => cases h
      | none =>
        cases hvalue : kindOf value with
        | error cause =>
          rw [hvalue] at h
          cases h
        | ok k =>
          replace h : splitKind isKindKey kindOf (Document.keyed rest) (some k) =
            .ok (kind, fields) := by rwa [hvalue] at h
          obtain ⟨-, honce, hdistinct, -⟩ := ih h
          have hnew : kindKey ∉ keys rest := honce rfl
          rw [splitKind_of_notMem hnew] at h
          cases h
          rw [others_kind hnew]
          refine ⟨rfl, fun hfound => (Bool.false_ne_true hfound).elim,
            fun hrest => List.nodup_cons.mpr ⟨hnew, hrest⟩, fun value' hvalue' => ?_⟩
          rcases List.mem_cons.mp hvalue' with heq | hmem
          · cases heq
            exact ⟨k, hvalue, rfl⟩
          · exact absurd (List.mem_map_of_mem hmem) hnew
    · rw [splitKind_other hkey] at h
      cases hrest : splitKind isKindKey kindOf (Document.keyed rest) found with
      | error cause =>
        rw [hrest] at h
        cases h
      | ok split =>
        rw [hrest] at h
        cases h
        obtain ⟨hfields, honce, hdistinct, hkind⟩ := ih hrest
        rw [others_other hkey, keys_cons, keys_cons]
        refine ⟨by rw [hfields]; rfl, fun hfound hmem => ?_, fun hnodup => ?_,
          fun value' hvalue' => ?_⟩
        · rcases List.mem_cons.mp hmem with heq | hmem
          · exact hkey heq.symm
          · exact honce hfound hmem
        · obtain ⟨hnew, hnodup⟩ := List.nodup_cons.mp hnodup
          refine List.nodup_cons.mpr ⟨fun hmem => ?_, hdistinct hnodup⟩
          exact hnew (mem_keys_others.mpr ⟨hmem, hkey⟩)
        · rcases List.mem_cons.mp hvalue' with heq | hmem
          · exact absurd (Prod.mk.inj heq).1.symm hkey
          · exact hkind value' hmem

/-! ## Reading steps -/

theorem name_ne_kindKey : ∀ form ∈ stepForms, ∀ field ∈ form.fields, field.name ≠ kindKey := by
  decide

theorem ofDocument_object {entries : List (String × Document)} {kind : Kind}
    {fields : List (Document × Document)}
    (h : splitKind isKindKey kindOf (Document.keyed entries) none = .ok (some kind, fields)) :
    ofDocument (.object entries) = kind.read (.table fields) := by
  unfold Document.object
  rw [ofDocument, h]
  rfl

/-- The other entries of a table tell of the same step. -/
theorem tells_others {form : StepForm} (hform : form ∈ stepForms) {content : form.Content}
    {entries : List (String × Document)} (h : Record.Tells form.allFields content entries) :
    Record.Tells form.fields content (others entries) where
  distinct := keys_others entries ▸ h.distinct.filter _
  sound entry hentry := by
    obtain ⟨hmem, hkey⟩ := List.mem_filter.mp hentry
    obtain ⟨field, hfield, rfl⟩ := h.sound entry hmem
    rcases List.mem_cons.mp hfield with rfl | hfield
    · exact absurd rfl (bne_iff_ne.mp hkey)
    · exact ⟨field, hfield, rfl⟩
  complete field hfield hgiven := by
    refine h.complete field (List.mem_cons_of_mem _ hfield) fun hmem => ?_
    exact hgiven (mem_keys_others.mpr ⟨hmem, name_ne_kindKey form hform field hfield⟩)

/-- A fault among all keys is a fault among those besides the kind. -/
theorem faulty_others {form : StepForm} {entries : List (String × Document)}
    (hkind : kindKey ∈ keys entries)
    (hdistinct : (keys (others entries)).Nodup → (keys entries).Nodup)
    (h : Record.Faulty form.allFields (keys entries)) :
    Record.Faulty form.fields (keys (others entries)) := by
  rcases h with ⟨key, hgiven, hforms⟩ | hduplicate | ⟨field, hfield, hdefault, hgiven⟩
  · have hkey : key ≠ kindKey := (hforms _ List.mem_cons_self).symm
    exact .unknown key (mem_keys_others.mpr ⟨hgiven, hkey⟩) fun field hfield =>
      hforms field (List.mem_cons_of_mem _ hfield)
  · exact .duplicate (mt hdistinct hduplicate)
  · rcases List.mem_cons.mp hfield with rfl | hfield
    · exact absurd hkind hgiven
    · exact .missing field hfield hdefault fun hmem => hgiven (mem_keys_others.mp hmem).1

/-- A document that tells of a step names its kind. -/
theorem mem_of_tells {form : StepForm} (hform : form ∈ stepForms) {content : form.Content}
    {entries : List (String × Document)} (h : Record.Tells form.allFields content entries) :
    (kindKey, .text form.name) ∈ entries := by
  have hkey : kindKey ∈ keys entries := by
    by_contra hgiven
    exact nomatch h.complete _ List.mem_cons_self hgiven
  obtain ⟨entry, hentry, hname⟩ := List.mem_map.mp hkey
  obtain ⟨field, hfield, rfl⟩ := h.sound entry hentry
  rcases List.mem_cons.mp hfield with rfl | hfield
  · exact hentry
  · exact absurd hname (name_ne_kindKey form hform field hfield)

/-- A document that tells of a step is read as that step. -/
theorem Told.ofDocument_eq {step : Step} {d : Document} (h : Told step d) :
    ofDocument d = .ok step := by
  obtain ⟨hform, content, htells⟩ := h
  rename_i form entries
  obtain ⟨kind, hkind, hcarries⟩ := exists_kind hform
  rw [ofDocument_object (splitKind_of_mem htells.distinct hkind (mem_of_tells hform htells))]
  exact hcarries.read content _ (tells_others hform htells)

/-- A table with a fault among its keys is not read. -/
theorem FaultyDocument.not_ok {d : Document} (h : FaultyDocument d) (step : Step) :
    ofDocument d ≠ .ok step := by
  obtain ⟨hform, hflush, hmem, hfaulty⟩ := h
  rename_i form entries
  intro hread
  obtain ⟨kind, hkind, hcarries⟩ := exists_kind hform
  cases hsplit : splitKind isKindKey kindOf (Document.keyed entries) none with
  | error cause =>
    unfold Document.object at hread
    rw [ofDocument, hsplit] at hread
    cases hread
  | ok split =>
    obtain ⟨found, fields⟩ := split
    obtain ⟨rfl, -, hdistinct, hfound⟩ := splitKind_eq_ok hsplit
    obtain ⟨k, hk, rfl⟩ := hfound _ hmem
    have hsame : k = kind := Except.ok.inj (hk.symm.trans hkind)
    rw [hsame] at hsplit
    rw [ofDocument_object hsplit] at hread
    exact hcarries.not_faulty hflush (others entries) step hread
      (faulty_others (List.mem_map_of_mem hmem) hdistinct hfaulty)

end Step

end MacroTrace
