import Mathlib
import MacroTrace.Load
import MacroTrace.Proofs.FieldValues
import MacroTrace.Proofs.NumberRange
import MacroTrace.Proofs.RecordFields
/-!
# Configurations in JSON

The documented form of every setting (`Config.settingForms`), and what is wrong with an object that
is no configuration (`Config.FaultyObject`). A text in JSON that spells an object is read as a
configuration if and only if the object tells of it; so the text that a configuration is written as
is read as that configuration, and a faulty object is not read at all (`Config.ofText_json_exact`).
-/

namespace MacroTrace

open Document Record

namespace Config

/-! ## Settings -/

/-- The settings, in the order in which they are written. -/
def settingForms : List (FieldForm Config) :=
  [⟨"program_name", fun c => .text c.programName, some (.text "m4")⟩,
   ⟨"debug_flags", fun c => optionValue .text c.debugFlags, some .null⟩,
   ⟨"debug_file", fun c => optionValue .text c.debugFile, some .null⟩,
   ⟨"max_debug_arg_length", fun c => countValue c.maxDebugArgLength, some (.int 0)⟩,
   ⟨"suppress_warnings", fun c => .bool c.suppressWarnings, some (.bool false)⟩,
   ⟨"fatal_warnings", fun c => .bool c.fatalWarnings, some (.bool false)⟩,
   ⟨"left_quote", fun c => .text c.leftQuote, some (.text "`")⟩,
   ⟨"right_quote", fun c => .text c.rightQuote, some (.text "'")⟩]

theorem fields_carryOut : CarriesOut (fields documentReading) {} settingForms where
  fields := by
    have hprogram : FieldCarriesOut settingForms (fields documentReading)[0] settingForms[0] := by
      refine .of_read rfl rfl (fun c => asText_text c.programName) (fun _ _ => rfl) ?_
      simp [settingForms]
    have hflags : FieldCarriesOut settingForms (fields documentReading)[1] settingForms[1] := by
      refine .of_read rfl rfl (fun c => asOption_text c.debugFlags) (fun _ _ => rfl) ?_
      simp [settingForms]
    have hfile : FieldCarriesOut settingForms (fields documentReading)[2] settingForms[2] := by
      refine .of_read rfl rfl (fun c => asOption_text c.debugFile) (fun _ _ => rfl) ?_
      simp [settingForms]
    have hlength : FieldCarriesOut settingForms (fields documentReading)[3] settingForms[3] := by
      refine .of_read rfl rfl (fun c => asCount_countValue c.maxDebugArgLength) (fun _ _ => rfl) ?_
      simp [settingForms]
    have hsuppress : FieldCarriesOut settingForms (fields documentReading)[4] settingForms[4] := by
      refine .of_read rfl rfl (fun c => asBool_bool c.suppressWarnings) (fun _ _ => rfl) ?_
      simp [settingForms]
    have hfatal : FieldCarriesOut settingForms (fields documentReading)[5] settingForms[5] := by
      refine .of_read rfl rfl (fun c => asBool_bool c.fatalWarnings) (fun _ _ => rfl) ?_
      simp [settingForms]
    have hleft : FieldCarriesOut settingForms (fields documentReading)[6] settingForms[6] := by
      refine .of_read rfl rfl (fun c => asText_text c.leftQuote) (fun _ _ => rfl) ?_
      simp [settingForms]
    have hright : FieldCarriesOut settingForms (fields documentReading)[7] settingForms[7] := by
      refine .of_read rfl rfl (fun c => asText_text c.rightQuote) (fun _ _ => rfl) ?_
      simp [settingForms]
    exact .cons hprogram <| .cons hflags <| .cons hfile <| .cons hlength <| .cons hsuppress <|
      .cons hfatal <| .cons hleft <| .cons hright .nil
  distinct := by decide
  start := by simp [settingForms, optionValue, countValue, Quotes.standard]
  ext := by
    rintro ⟨_, _, _, _, _, _, _, _⟩ ⟨_, _, _, _, _, _, _, _⟩ h
    simpa [settingForms] using h

theorem fields_exact : List.Forall₂ FieldIsExact (fields documentReading) settingForms := by
  refine .cons (.of_read rfl fun _ _ h _ => asText_eq_ok.mp h) ?_
  refine .cons (.of_read rfl fun _ _ h _ => asOption_text_eq_ok.mp h) ?_
  refine .cons (.of_read rfl fun _ _ h _ => asOption_text_eq_ok.mp h) ?_
  refine .cons (.of_read rfl fun _ _ h _ => asCount_eq_ok.mp h) ?_
  refine .cons (.of_read rfl fun _ _ h _ => asBool_eq_ok.mp h) ?_
  refine .cons (.of_read rfl fun _ _ h _ => asBool_eq_ok.mp h) ?_
  refine .cons (.of_read rfl fun _ _ h _ => asText_eq_ok.mp h) ?_
  exact .cons (.of_read rfl fun _ _ h _ => asText_eq_ok.mp h) .nil

theorem nesting_value : ∀ form ∈ settingForms, ∀ c, (form.value c).nesting = 0 := by
  simp [settingForms, nesting_optionText, countValue, Document.nesting]

theorem plain_value : ∀ form ∈ settingForms, ∀ c, Json.Plain (form.value c) := by
  simp [settingForms, plain_optionValue, plain_countValue, Json.Plain.text, Json.Plain.bool]

/-! ## Faults -/

/-- A value that the setting of a name cannot have. -/
inductive Misplaced : String → Document → Prop
  /-- A text has to be a text. -/
  | text {name : String} {d : Document}
    (hname : name ∈ ["program_name", "left_quote", "right_quote"]) (hd : ∀ s, d ≠ .text s) :
    Misplaced name d
  /-- A text that may be missing has to be a text or null. -/
  | optionText {name : String} {d : Document} (hname : name ∈ ["debug_flags", "debug_file"])
    (hnull : d ≠ .null) (hd : ∀ s, d ≠ .text s) : Misplaced name d
  /-- A count has to be an integer that fits into 64 bits. -/
  | count {d : Document} (hd : ∀ n : Int, 0 ≤ n → n < 2 ^ 64 → d ≠ .int n) :
    Misplaced "max_debug_arg_length" d
  /-- A truth value has to be a truth value. -/
  | bool {name : String} {d : Document} (hname : name ∈ ["suppress_warnings", "fatal_warnings"])
    (hd : ∀ b, d ≠ .bool b) : Misplaced name d

/-- What keeps an object from being a configuration. -/
inductive FaultyObject (entries : List (String × Document)) : Prop
  /-- A key that is no setting. -/
  | unknown (key : String) (hkey : key ∈ keys entries)
    (hname : key ∉ ["program_name", "debug_flags", "debug_file", "max_debug_arg_length",
      "suppress_warnings", "fatal_warnings", "left_quote", "right_quote"])
  /-- A key given twice. -/
  | repeated (h : ¬ (keys entries).Nodup)
  /-- A value of the wrong type or out of range. -/
  | misplaced (name : String) (d : Document) (hentry : (name, d) ∈ entries) (h : Misplaced name d)

theorem value_eq_text : ∀ form ∈ settingForms,
    form.name ∈ ["program_name", "left_quote", "right_quote"] →
    ∀ c, ∃ s, form.value c = .text s := by
  simp [settingForms]

theorem value_eq_optionText : ∀ form ∈ settingForms, form.name ∈ ["debug_flags", "debug_file"] →
    ∀ c, form.value c = .null ∨ ∃ s, form.value c = .text s := by
  have hoption : ∀ s : Option String,
      optionValue .text s = .null ∨ ∃ t, optionValue .text s = .text t := by
    rintro (_ | t)
    · exact .inl rfl
    · exact .inr ⟨t, rfl⟩
  simp [settingForms, hoption]

theorem value_eq_count : ∀ form ∈ settingForms, form.name = "max_debug_arg_length" →
    ∀ c, ∃ n : Int, 0 ≤ n ∧ n < 2 ^ 64 ∧ form.value c = .int n := by
  have hcount : ∀ n : UInt64, ∃ m : Int, 0 ≤ m ∧ m < 2 ^ 64 ∧ countValue n = .int m := by
    intro n
    have hn := n.toNat_lt
    exact ⟨n.toNat, by omega, by omega, rfl⟩
  simpa [settingForms] using fun c : Config => hcount c.maxDebugArgLength

theorem value_eq_bool : ∀ form ∈ settingForms,
    form.name ∈ ["suppress_warnings", "fatal_warnings"] → ∀ c, ∃ b, form.value c = .bool b := by
  simp [settingForms]

theorem Misplaced.ne_value {form : FieldForm Config} (hform : form ∈ settingForms) {d : Document}
    (h : Misplaced form.name d) (c : Config) : d ≠ form.value c := by
  -- The kind of fault fixes the kind of the setting, and so what its values look like.
  generalize hname : form.name = name at h
  intro heq
  cases h with
  | text hkind hd =>
    obtain ⟨s, hs⟩ := value_eq_text form hform (hname ▸ hkind) c
    exact hd s (heq.trans hs)
  | optionText hkind hnull hd =>
    rcases value_eq_optionText form hform (hname ▸ hkind) c with hs | ⟨s, hs⟩
    · exact hnull (heq.trans hs)
    · exact hd s (heq.trans hs)
  | count hd =>
    obtain ⟨n, hleast, hmost, hn⟩ := value_eq_count form hform hname c
    exact hd n hleast hmost (heq.trans hn)
  | bool hkind hd =>
    obtain ⟨b, hb⟩ := value_eq_bool form hform (hname ▸ hkind) c
    exact hd b (heq.trans hb)

/-- An object with a fault tells of no configuration. -/
theorem FaultyObject.not_tells {entries : List (String × Document)} (h : FaultyObject entries)
    (c : Config) : ¬ Tells settingForms c entries := by
  intro htells
  cases h with
  | unknown key hkey hname =>
    obtain ⟨entry, hentry, rfl⟩ := List.mem_map.mp hkey
    obtain ⟨form, hform, rfl⟩ := htells.sound entry hentry
    exact hname (List.mem_map_of_mem (f := (·.name)) hform)
  | repeated h => exact h htells.distinct
  | misplaced name d hentry h =>
    obtain ⟨form, hform, heq⟩ := htells.sound _ hentry
    obtain ⟨rfl, hd⟩ := Prod.ext_iff.mp heq
    exact h.ne_value hform c hd

/-! ## Reading -/

/-- The text in JSON that a configuration is written as: all its settings, in their order. -/
def jsonText (c : Config) : String :=
  String.ofList (Json.write (.object (settingForms.map fun form => (form.name, form.value c))))

theorem spells_jsonText (c : Config) :
    Json.Spells (.item (.object (settingForms.map fun form => (form.name, form.value c))))
      (jsonText c).toList := by
  have hplain : Json.Plain (.object (settingForms.map fun form => (form.name, form.value c))) := by
    refine .table fun entry hentry => ?_
    obtain ⟨form, hform, rfl⟩ := List.mem_map.mp hentry
    exact plain_value form hform c
  rw [jsonText, String.toList_ofList]
  exact hplain.spells_write.item_bare

/-- What is not read as a configuration is reported as an unusable one. -/
theorem exists_account {f : DocumentFormat} {text : String} (h : ∀ c, ofText f text ≠ .ok c) :
    ∃ account, ofText f text = .error (.config account) := by
  unfold ofText at h ⊢
  cases hread : read f text with
  | ok c =>
    rw [hread] at h
    exact absurd rfl (h c)
  | error u => exact ⟨_, rfl⟩

theorem ofText_json_eq_ok {text : String} {c : Config} :
    ofText .json text = .ok c ↔ ∃ d, Json.read? text = some d ∧ ofDocument d = .ok c := by
  unfold ofText read readJson
  cases Json.read? text with
  | none => simp [Except.mapError]
  | some d =>
    cases hd : ofDocument d with
    | error cause => simp [Except.mapError, hd]
    | ok c => simp [Except.mapError, hd]

/-- A text that spells an object is read as a configuration if and only if the object tells of
it. -/
theorem ofText_of_spells {text : String} {entries : List (String × Document)} {c : Config}
    (htext : Json.Spells (.item (.object entries)) text.toList) :
    ofText .json text = .ok c ↔ Tells settingForms c entries := by
  have hdocument : ofDocument (.object entries) = .ok c ↔ Tells settingForms c entries :=
    fields_carryOut.ofEntries_eq_ok_iff fields_exact
  rw [ofText_json_eq_ok]
  constructor
  · rintro ⟨d, hread, hd⟩
    obtain rfl := (Json.read?_of_spells htext).unique hread
    exact hdocument.mp hd
  · -- The reader takes only so much nesting, and settings have none.
    intro htells
    have hnesting : (Document.object entries).nesting ≤ Json.maxDepth := by
      have hentries : nestingEntries (Document.keyed entries) ≤ 0 := nestingEntries_le (by
        intro entry hentry
        obtain ⟨entry, hmem, rfl⟩ := List.mem_map.mp hentry
        obtain ⟨form, hform, rfl⟩ := htells.sound entry hmem
        exact (nesting_value form hform c).le)
      rw [Document.object, Document.nesting]
      exact (Nat.succ_le_succ hentries).trans (by decide)
    exact ⟨_, (Json.read?_of_spells htext).eq_some hnesting, hdocument.mpr htells⟩

theorem ofText_jsonText (c : Config) : ofText .json (jsonText c) = .ok c :=
  (ofText_of_spells (spells_jsonText c)).mpr (tells_all fields_carryOut.distinct c)

/-- A text in JSON that spells an object, in whatever order and with whatever escapes, is read as a
configuration if and only if each entry of the object is a setting of the configuration, none of
them is given twice, and those left out have their defaults. So the text that a configuration is
written as is read as just that configuration, where no flags and no file are not the same as empty
ones. An object with an unknown key, with a key given twice, or with a value of the wrong type or
out of range is an unusable configuration, also if a number in it is too large to be read. -/
theorem ofText_json_exact :
    (∀ text entries, Json.Spells (.item (.object entries)) text.toList →
      (∀ c, ofText .json text = .ok c ↔ Tells settingForms c entries) ∧
      (FaultyObject entries → ∃ account, ofText .json text = .error (.config account))) ∧
    (∀ c, ofText .json (jsonText c) = .ok c) ∧
    (∀ c : Config, ofText .json (jsonText { c with debugFlags := some "" }) ≠
        ofText .json (jsonText { c with debugFlags := none }) ∧
      ofText .json (jsonText { c with debugFile := some "" }) ≠
        ofText .json (jsonText { c with debugFile := none })) ∧
    ∀ text, Json.Exceeds .value text.toList →
      ∃ account, ofText .json text = .error (.config account) := by
  refine ⟨fun text entries htext => ⟨fun c => ofText_of_spells htext, fun hfaulty => ?_⟩,
    ofText_jsonText, fun c => ?_, fun text hexceeds => ?_⟩
  · refine exists_account fun c hc => ?_
    exact hfaulty.not_tells c ((ofText_of_spells htext).mp hc)
  · simp [ofText_jsonText]
  · refine exists_account fun c hc => ?_
    obtain ⟨d, hread, -⟩ := ofText_json_eq_ok.mp hc
    rw [Json.read?_of_exceeds hexceeds] at hread
    cases hread

/-- An empty file and a name with an escape, in another order than usual. -/
def reorderedText : String := "\x7b \"debug_file\":\"\",\"program_name\":\"\\u0067m4\"\x7d"

/-- A name that is null. -/
def namelessText : String := "\x7b\"program_name\":null\x7d"

/-- A limit that is too large to be read. -/
def boundlessText : String := "\x7b\"max_debug_arg_length\":1e999\x7d"

theorem spells_reorderedText :
    Json.Spells (.item (.object [("debug_file", .text ""), ("program_name", .text "gm4")]))
      reorderedText.toList := by
  have hletter : Json.SpellsUnit 'g'.toNat ['0', '0', '6', '7'] :=
    .digits (w := 0) (x := 0) (y := 6) (z := 7) rfl rfl rfl rfl
  have hbody : Json.SpellsText "gm4" ['\\', 'u', '0', '0', '6', '7', 'm', '4'] :=
    ⟨_, .cons (.unit hletter) (.cons (Json.spellsChar_write 'm')
      (.cons (Json.spellsChar_write '4') .nil)), rfl⟩
  have hblank : Json.AllBlank [' '] := List.forall_mem_singleton.mpr rfl
  have hfile : Json.Spells (.entry "debug_file" (.text "")) _ :=
    .entry hblank (Json.spellsText_write "debug_file") Json.allBlank_nil
      (Json.spells_writeText "").item_bare
  have hname := Json.spells_writeEntry "program_name" (Json.Spells.text hbody)
  exact (Json.Spells.table (.moreEntries hfile (.lastEntry hname))).item_bare

theorem spells_namelessText :
    Json.Spells (.item (.object [("program_name", .null)])) namelessText.toList :=
  (Json.Spells.table
    (.lastEntry (Json.spells_writeEntry "program_name" Json.Spells.null))).item_bare

theorem exceeds_boundlessText : Json.Exceeds .value boundlessText.toList := by
  have hdigits : Json.AreDigits ['1'] := ⟨by simp, by simp⟩
  have hexponent : Json.SpellsExponent (some (false, ['9', '9', '9'])) ['e', '9', '9', '9'] :=
    .unsigned (.inl rfl) ⟨by simp, by simp⟩
  have hnumber := Json.SpellsNumber.parts
    (t := ⟨false, ['1'], none, some (false, ['9', '9', '9'])⟩) hdigits (.inl rfl) .none hexponent
  have hrest : Json.EndsNumber ['\x7d'] := by simp [Json.EndsNumber]
  exact .table (.firstEntry Json.allBlank_nil (Json.spellsText_write "max_debug_arg_length")
    Json.allBlank_nil (.number hnumber rfl hrest))

theorem ofText_json_exact_instance :
    ofText .json reorderedText = .ok { programName := "gm4", debugFile := some "" } ∧
      (∃ account, ofText .json namelessText = .error (.config account)) ∧
      ∃ account, ofText .json boundlessText = .error (.config account) := by
  obtain ⟨hobject, -, -, hexceeds⟩ := ofText_json_exact
  have htells : Tells settingForms { programName := "gm4", debugFile := some "" }
      [("debug_file", .text ""), ("program_name", .text "gm4")] := by
    refine ⟨by decide, ?_, ?_⟩
    · simp [settingForms, optionValue]
    · simp [settingForms, keys, optionValue, countValue, Quotes.standard]
  have hfaulty : FaultyObject [("program_name", .null)] :=
    .misplaced _ _ List.mem_cons_self (.text (by decide) (by simp))
  exact ⟨((hobject _ _ spells_reorderedText).1 _).mpr htells,
    (hobject _ _ spells_namelessText).2 hfaulty, hexceeds _ exceeds_boundlessText⟩

end Config

end MacroTrace
