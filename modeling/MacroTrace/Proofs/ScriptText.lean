import Mathlib
import MacroTrace.Load
import MacroTrace.Proofs.EncodedText
import MacroTrace.Proofs.StepForms
/-!
# Scripts in JSON

A file in JSON whose items tell of steps loads as exactly those steps, and one that holds an item
with a fault among its keys does not load (`Script.load_of_spells`). Every list of steps is told by
some text.
-/

namespace MacroTrace

open Document Record

namespace Step

/-! ## Nesting -/

theorem nesting_argumentsValue_le (args : List Argument) : (argumentsValue args).nesting ≤ 2 := by
  have hitems : ∀ d ∈ args.map argumentValue, d.nesting ≤ 1 := by
    intro d hd
    obtain ⟨a, -, rfl⟩ := List.mem_map.mp hd
    cases a <;> exact Nat.le_refl 1
  rw [argumentsValue, Document.nesting]
  exact Nat.succ_le_succ (nestingItems_le hitems)

theorem nesting_value_le : ∀ form ∈ stepForms, ∀ field ∈ form.fields, ∀ content,
    (field.value content).nesting ≤ 2 := by
  simp [stepForms, locationForms, optionForms, textForms, callForms, errorForms, warningForms,
    countForms, numberForms, dumpForms, nesting_optionText, nesting_optionCount,
    nesting_argumentsValue_le, numberValue, signedValue, countValue, Document.nesting]

theorem Told.nesting_le {step : Step} {d : Document} (h : Told step d) : d.nesting ≤ 3 := by
  obtain ⟨hform, content, htells⟩ := h
  rename_i form entries
  rw [Document.object, Document.nesting]
  refine Nat.succ_le_succ (nestingEntries_le fun entry hentry => ?_)
  obtain ⟨entry, hmem, rfl⟩ := List.mem_map.mp hentry
  obtain ⟨field, hfield, rfl⟩ := htells.sound entry hmem
  rcases List.mem_cons.mp hfield with rfl | hfield
  · exact Nat.zero_le 2
  · exact nesting_value_le form hform field hfield content

/-! ## Writing steps -/

theorem plain_argumentsValue (args : List Argument) : Json.Plain (argumentsValue args) := by
  refine .list fun d hd => ?_
  obtain ⟨a, -, rfl⟩ := List.mem_map.mp hd
  cases a with
  | text s => exact .table (List.forall_mem_singleton.mpr (.text s))
  | builtin id => exact .table (List.forall_mem_singleton.mpr (plain_numberValue id.number))

theorem plain_value : ∀ form ∈ stepForms, ∀ field ∈ form.fields, ∀ content,
    Json.Plain (field.value content) := by
  simp [stepForms, locationForms, optionForms, textForms, callForms, errorForms, warningForms,
    countForms, numberForms, dumpForms, plain_optionValue, Json.Plain.text, Json.Plain.bool,
    plain_numberValue, plain_signedValue, plain_countValue, plain_argumentsValue]

/-- Every step has a form. -/
theorem exists_form (step : Step) : ∃ form ∈ stepForms, ∃ content, form.step content = step := by
  cases step with
  | location position => exact ⟨stepForms[0], List.getElem_mem _, position, rfl⟩
  | debugMode flags => exact ⟨stepForms[1], List.getElem_mem _, flags, rfl⟩
  | debugFile selector => exact ⟨stepForms[2], List.getElem_mem _, selector, rfl⟩
  | trace phase traced =>
    cases phase with
    | prepre => exact ⟨stepForms[3], List.getElem_mem _, traced, rfl⟩
    | pre => exact ⟨stepForms[4], List.getElem_mem _, traced, rfl⟩
    | post => exact ⟨stepForms[5], List.getElem_mem _, traced, rfl⟩
  | message text => exact ⟨stepForms[6], List.getElem_mem _, text, rfl⟩
  | output text => exact ⟨stepForms[7], List.getElem_mem _, text, rfl⟩
  | error report => exact ⟨stepForms[8], List.getElem_mem _, report, rfl⟩
  | warn report => exact ⟨stepForms[9], List.getElem_mem _, report, rfl⟩
  | argc check => exact ⟨stepForms[10], List.getElem_mem _, check, rfl⟩
  | numeric check => exact ⟨stepForms[11], List.getElem_mem _, check, rfl⟩
  | dumpArgs dump => exact ⟨stepForms[12], List.getElem_mem _, dump, rfl⟩
  | flush => exact ⟨stepForms[13], List.getElem_mem _, (), rfl⟩

/-- Every step can be told in writing. -/
theorem exists_told (step : Step) : ∃ d, Told step d ∧ Json.Plain d := by
  obtain ⟨form, hform, content, rfl⟩ := exists_form step
  have hdistinct : ∀ form ∈ stepForms, (form.allFields.map (·.name)).Nodup := by decide
  refine ⟨_, .object hform content (tells_all (hdistinct form hform) content), ?_⟩
  refine .table fun entry hentry => ?_
  obtain ⟨field, hfield, rfl⟩ := List.mem_map.mp hentry
  rcases List.mem_cons.mp hfield with rfl | hfield
  · exact .text form.name
  · exact plain_value form hform field hfield content

end Step

/-! ## Loading scripts -/

namespace Script

/-- The text of a file in JSON is read as a script. -/
theorem load_json {s : FileStore} {path text : String}
    (hformat : Path.extension? path = some "json")
    (hfile : s.readBytes path = .ok (Utf8.encode text)) :
    load s path = (readJson Step.listOfDocument text).mapError
      fun u => .script (u.account? s!"{path}: ") := by
  have htext : s.readText path = .ok text := by
    simp [FileStore.readText, hfile, bind, Except.bind, Utf8.decode?_encode]
  unfold load
  rw [htext, formatOf, if_pos hformat]
  rfl

/-- A text that spells documents which tell of steps is read as those steps. -/
theorem readJson_of_told {steps : List Step} {ds : List Document} {text : String}
    (h : List.Forall₂ Step.Told steps ds) (htext : Json.Spells (.item (.list ds)) text.toList) :
    readJson Step.listOfDocument text = .ok steps := by
  have hnesting : (Document.list ds).nesting ≤ Json.maxDepth := by
    have hitems : nestingItems ds ≤ 3 := nestingItems_le fun d hd => by
      obtain ⟨step, -, htold⟩ := exists_of_forall₂ h.flip hd
      exact htold.nesting_le
    rw [Document.nesting]
    exact Nat.succ_le_succ (hitems.trans (by decide))
  rw [readJson, (Json.read?_of_spells htext).eq_some hnesting]
  have hsteps : Step.listOfDocument (.list ds) = .ok steps :=
    mapM_eq_ok_iff.mpr (List.Forall₂.flip (h.imp fun _ _ => Step.Told.ofDocument_eq))
  simp only [hsteps]
  rfl

/-- Every list of steps is told by some text. -/
theorem exists_text (steps : List Step) :
    ∃ ds text, List.Forall₂ Step.Told steps ds ∧
      Json.Spells (.item (.list ds)) (String.toList text) := by
  choose document htold hplain using Step.exists_told
  have hlist : Json.Plain (.list (steps.map document)) :=
    .list (List.forall_mem_map.mpr fun step _ => hplain step)
  refine ⟨steps.map document, String.ofList (Json.write (.list (steps.map document))), ?_, ?_⟩
  · exact List.forall₂_map_right_iff.mpr (List.forall₂_same.mpr fun step _ => htold step)
  · rw [String.toList_ofList]
    exact hlist.spells_write.item_bare

/-- A text that spells a list with a faulty item is not read. -/
theorem readJson_of_faulty {ds : List Document} {text : String} {d : Document} (hd : d ∈ ds)
    (hfaulty : Step.FaultyDocument d) (htext : Json.Spells (.item (.list ds)) text.toList) :
    ∃ cause, readJson Step.listOfDocument text = .error cause := by
  -- The values under unknown keys may be nested too deep to be read at all.
  cases hread : Json.read? text with
  | none => exact ⟨.malformed, by rw [readJson, hread]⟩
  | some document =>
    obtain rfl : document = .list ds := (Json.read?_of_spells htext).unique hread
    cases hsteps : Step.listOfDocument (.list ds) with
    | error cause =>
      refine ⟨.misfit cause, ?_⟩
      simp only [readJson, hread, hsteps]
      rfl
    | ok steps =>
      obtain ⟨step, -, hstep⟩ := exists_of_forall₂ (mapM_eq_ok_iff.mp hsteps) hd
      exact absurd hstep (hfaulty.not_ok step)

/-- A file in JSON that tells of steps, each by its kind and its fields, loads as exactly those
steps: the keys may stand in any order, fields that have their default may be left out, and every
character may be escaped. A file with an item of a kind with fields that has an unknown key, a key
given twice, or no key for a field without a default does not load at all. -/
theorem load_of_spells {s : FileStore} {path text : String} {ds : List Document}
    (hformat : Path.extension? path = some "json")
    (hfile : s.readBytes path = .ok (Utf8.encode text))
    (htext : Json.Spells (.item (.list ds)) text.toList) :
    (∀ steps, List.Forall₂ Step.Told steps ds → load s path = .ok steps) ∧
      ((∃ d ∈ ds, Step.FaultyDocument d) → ∃ account, load s path = .error (.script account)) := by
  rw [load_json hformat hfile]
  refine ⟨fun steps htold => ?_, fun ⟨d, hd, hfaulty⟩ => ?_⟩
  · rw [readJson_of_told htold htext]
    rfl
  · obtain ⟨cause, hcause⟩ := readJson_of_faulty hd hfaulty htext
    rw [hcause]
    exact ⟨_, rfl⟩

/-- A store with one file. -/
def scriptStore (text : String) : FileStore where
  nodes := #[.directory 0 [("s.json", 1)], .regular (Utf8.encode text)]
  root := 0
  home := 0
  device := 0

/-- A warning whose text is escaped and comes before its kind, and a flush. -/
def mixedText : String :=
  "[\x7b\"text\":\"\\u0041\\n\",\"op\":\"warn\"\x7d, \x7b\"op\":\"flush\"\x7d]"

/-- A warning without a text. -/
def bareText : String := "[\x7b\"op\":\"warn\"\x7d]"

theorem spells_mixedText :
    Json.Spells (.item (.list [.object [("text", .text "A\n"), ("op", .text "warn")],
      .object [("op", .text "flush")]])) mixedText.toList := by
  have hletter : Json.SpellsUnit 'A'.toNat ['0', '0', '4', '1'] :=
    .digits (w := 0) (x := 0) (y := 4) (z := 1) rfl rfl rfl rfl
  have hnewline : ('n', '\n') ∈ Json.shortEscapes := by decide
  have hbody : Json.SpellsText "A\n" ['\\', 'u', '0', '0', '4', '1', '\\', 'n'] :=
    ⟨_, .cons (.unit hletter) (.cons (.short hnewline) .nil), rfl⟩
  have hwarn := Json.Spells.table (.moreEntries
    (Json.spells_writeEntry "text" (Json.Spells.text hbody))
    (.lastEntry (Json.spells_writeEntry "op" (Json.spells_writeText "warn"))))
  have hflush := Json.Spells.table
    (.lastEntry (Json.spells_writeEntry "op" (Json.spells_writeText "flush")))
  have hblank : Json.AllBlank [' '] := List.forall_mem_singleton.mpr rfl
  exact (Json.Spells.list (.moreItems hwarn.item_bare
    (.lastItem (.item hblank hflush Json.allBlank_nil)))).item_bare

theorem spells_bareText :
    Json.Spells (.item (.list [.object [("op", .text "warn")]])) bareText.toList :=
  (Json.Spells.list (.lastItem (Json.Spells.table (.lastEntry
    (Json.spells_writeEntry "op" (Json.spells_writeText "warn")))).item_bare)).item_bare

theorem load_of_spells_instance :
    load (scriptStore mixedText) "s.json" = .ok [.warn { text := "A\n" }, .flush] ∧
      ∃ account, load (scriptStore bareText) "s.json" = .error (.script account) := by
  have hformat : Path.extension? "s.json" = some "json" := by cbv
  have hfile : ∀ text, (scriptStore text).readBytes "s.json" = .ok (Utf8.encode text) := by
    intro text
    unfold scriptStore
    generalize Utf8.encode text = bytes
    cbv
  have hform : (⟨"warn", WarningReport, warningForms, .warn⟩ : StepForm) ∈ stepForms := by
    simp [stepForms]
  have hflushForm : (⟨"flush", Unit, [], fun _ => .flush⟩ : StepForm) ∈ stepForms := by
    simp [stepForms]
  have hwarn : Step.Told (.warn { text := "A\n" })
      (.object [("text", .text "A\n"), ("op", .text "warn")]) := by
    refine .object hform { text := "A\n" } ⟨by decide, ?_, ?_⟩
    · simp [StepForm.allFields, warningForms]
    · simp [StepForm.allFields, warningForms, keys, signedValue]
  have hflush : Step.Told .flush (.object [("op", .text "flush")]) :=
    .object hflushForm () (tells_all (by decide) ())
  have hfaulty : Step.FaultyDocument (.object [("op", .text "warn")]) := by
    refine .object hform (by decide) List.mem_cons_self ?_
    exact .missing ⟨"text", fun w => .text w.text, none⟩
      (by simp [StepForm.allFields, warningForms]) rfl (by decide)
  exact ⟨(load_of_spells hformat (hfile _) spells_mixedText).1 _ (.cons hwarn (.cons hflush .nil)),
    (load_of_spells hformat (hfile _) spells_bareText).2 ⟨_, List.mem_cons_self, hfaulty⟩⟩

end Script

end MacroTrace
