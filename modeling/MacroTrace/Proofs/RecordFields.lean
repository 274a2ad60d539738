import Mathlib
import MacroTrace.Document.Record
/-!
# Records told by objects

What an object has to say to tell of a record (`Record.Tells`): each field at most once and with its
value, in any order; a field may be left out if its value is the documented default. A table of
fields that carries out the documented forms (`Record.CarriesOut`) reads such an object as that
record (`Record.CarriesOut.ofEntries_of_tells`), and it reads no object with an unknown key, with a
key given twice, or without a field that has no default (`Record.CarriesOut.not_faulty`). If besides
every field reads its own values only, no other object is read at all
(`Record.CarriesOut.ofEntries_eq_ok_iff`).
-/

namespace MacroTrace

/-- Entries whose keys are texts. -/
def Document.keyed (entries : List (String × Document)) : List (Document × Document) :=
  entries.map fun entry => (.text entry.1, entry.2)

/-- A table whose keys are texts. -/
def Document.object (entries : List (String × Document)) : Document := .table (keyed entries)

/-- The documented form of a field in a record of type `α`. -/
structure FieldForm (α : Type) where
  /-- The name. -/
  name : String
  /-- The value that a record has in the field. -/
  value : α → Document
  /-- The value of the field where it is left out; there is none if it has to be given. -/
  default? : Option Document

/-- Whatever is paired with a list has a partner for each item of it. -/
theorem exists_of_forall₂ {α β : Type*} {r : α → β → Prop} {as : List α} {bs : List β}
    (h : List.Forall₂ r as bs) {a : α} (ha : a ∈ as) : ∃ b ∈ bs, r a b := by
  induction h with
  | nil => cases ha
  | cons hhead _ ih =>
    rcases List.mem_cons.mp ha with rfl | ha
    · exact ⟨_, List.mem_cons_self, hhead⟩
    · obtain ⟨b, hb, hr⟩ := ih ha
      exact ⟨b, List.mem_cons_of_mem _ hb, hr⟩

/-- What is looked up by the name of an item is the partner of that item. -/
theorem exists_find?_of_forall₂ {α β : Type*} {r : α → β → Prop} {as : List α} {bs : List β}
    (nameA : α → String) (nameB : β → String) (h : List.Forall₂ r as bs)
    (hname : ∀ a b, r a b → nameA a = nameB b) (hdistinct : (bs.map nameB).Nodup) {b : β}
    (hb : b ∈ bs) : ∃ a ∈ as, as.find? (nameA · == nameB b) = some a ∧ r a b := by
  obtain ⟨a, ha, hr⟩ := exists_of_forall₂ h.flip hb
  cases hfound : as.find? (nameA · == nameB b) with
  | none => exact absurd (beq_iff_eq.mpr (hname a b hr)) (List.find?_eq_none.mp hfound a ha)
  | some found =>
    have hfoundName := List.find?_some hfound
    have hmem := List.mem_of_find?_eq_some hfound
    obtain ⟨b', hb', hr'⟩ := exists_of_forall₂ h hmem
    have hsame : b' = b := List.inj_on_of_nodup_map hdistinct hb' hb
      ((hname _ _ hr').symm.trans (eq_of_beq hfoundName))
    exact ⟨found, hmem, rfl, hsame ▸ hr'⟩

namespace Record

variable {α : Type}

/-- The keys of an object. -/
def keys (entries : List (String × Document)) : List String := entries.map Prod.fst

theorem keys_cons (key : String) (d : Document) (rest : List (String × Document)) :
    keys ((key, d) :: rest) = key :: keys rest := rfl

/-- What the entries of an object have to be for the object to tell of a record. -/
structure Tells (forms : List (FieldForm α)) (a : α) (entries : List (String × Document)) :
    Prop where
  /-- No field is given twice. -/
  distinct : (keys entries).Nodup
  /-- What is given is a field and its value. -/
  sound : ∀ entry ∈ entries, ∃ form ∈ forms, entry = (form.name, form.value a)
  /-- What is not given is a field that has its default. -/
  complete : ∀ form ∈ forms, form.name ∉ keys entries → form.default? = some (form.value a)

/-- An object that gives every field tells of the record. -/
theorem tells_all {forms : List (FieldForm α)} (hdistinct : (forms.map (·.name)).Nodup) (a : α) :
    Tells forms a (forms.map fun form => (form.name, form.value a)) := by
  have hkeys : keys (forms.map fun form => (form.name, form.value a)) = forms.map (·.name) :=
    List.map_map
  refine ⟨hkeys ▸ hdistinct, fun entry hentry => ?_, fun form hform hgiven => ?_⟩
  · obtain ⟨form, hform, rfl⟩ := List.mem_map.mp hentry
    exact ⟨form, hform, rfl⟩
  · exact absurd (List.mem_map_of_mem hform) (hkeys ▸ hgiven)

/-- What no object that tells of a record can have among its keys. -/
inductive Faulty (forms : List (FieldForm α)) (given : List String) : Prop
  /-- A key that is not a field. -/
  | unknown (key : String) (hgiven : key ∈ given) (hforms : ∀ form ∈ forms, form.name ≠ key)
  /-- A key given twice. -/
  | duplicate (h : ¬ given.Nodup)
  /-- No key for a field that has to be given. -/
  | missing (form : FieldForm α) (hform : form ∈ forms) (hdefault : form.default? = none)
    (hgiven : form.name ∉ given)

/-- A field that carries out its form: it is read as any value that it can have, and reading it
leaves every other field as it was. -/
structure FieldCarriesOut (forms : List (FieldForm α)) (field : Field Document α)
    (form : FieldForm α) : Prop where
  name : field.name = form.name
  required : field.required = form.default?.isNone
  put : ∀ a record, ∃ record', field.put (form.value a) record = .ok record' ∧
    form.value record' = form.value a ∧
    ∀ other ∈ forms, other.name ≠ form.name → other.value record' = other.value record

/-- It is enough that the field reads its value and sets it, and that setting it leaves the other
fields alone. -/
theorem FieldCarriesOut.of_read {β : Type} {forms : List (FieldForm α)} {name : String}
    {required : Bool} {read : Document → Except Misfit β} {set : α → β → α} {form : FieldForm α}
    (hname : name = form.name) (hrequired : required = form.default?.isNone) {get : α → β}
    (hread : ∀ a, read (form.value a) = .ok (get a))
    (hown : ∀ a record, form.value (set record (get a)) = form.value a)
    (hothers : ∀ other ∈ forms, other.name ≠ form.name → ∀ record b,
      other.value (set record b) = other.value record) :
    FieldCarriesOut forms ⟨name, required, fun d record => return set record (← read d)⟩ form where
  name := hname
  required := hrequired
  put a record := by
    refine ⟨set record (get a), ?_, hown a record, fun other hother hne => ?_⟩
    · simp only [hread, bind, Except.bind, pure, Except.pure]
    · exact hothers other hother hne record (get a)

/-- A table of fields that carries out documented forms, from a record with the defaults. -/
structure CarriesOut (fields : List (Field Document α)) (start : α) (forms : List (FieldForm α)) :
    Prop where
  /-- Each field carries out its form. -/
  fields : List.Forall₂ (FieldCarriesOut forms) fields forms
  /-- No two forms have one name. -/
  distinct : (forms.map (·.name)).Nodup
  /-- Reading starts from the documented defaults. -/
  start : ∀ form ∈ forms, ∀ d ∈ form.default?, form.value start = d
  /-- The fields make up the record. -/
  ext : ∀ a b, (∀ form ∈ forms, form.value a = form.value b) → a = b

/-- A field that reads nothing but values that records have in it. -/
structure FieldIsExact (field : Field Document α) (form : FieldForm α) : Prop where
  name : field.name = form.name
  put : ∀ d record record', field.put d record = .ok record' → d = form.value record'

/-- It is enough that the field puts into a record what it has read from nothing but its value. -/
theorem FieldIsExact.of_read {β : Type} {name : String} {required : Bool}
    {read : Document → Except Misfit β} {set : α → β → α} {form : FieldForm α}
    (hname : name = form.name)
    (hread : ∀ d b, read d = .ok b → ∀ record, d = form.value (set record b)) :
    FieldIsExact ⟨name, required, fun d record => return set record (← read d)⟩ form where
  name := hname
  put d record record' h := by
    cases hvalue : read d with
    | error cause => simp [hvalue, bind, Except.bind] at h
    | ok b =>
      simp only [hvalue, bind, Except.bind, pure, Except.pure] at h
      cases h
      exact hread d b hvalue record

/-! ## Entries one by one -/

theorem field_eq_ok {fields : List (Field Document α)} {name : String} {field : Field Document α}
    (h : Record.field fields name = .ok field) : field ∈ fields ∧ field.name = name := by
  unfold Record.field at h
  split at h
  · rename_i found hfound
    cases h
    have hname := List.find?_some hfound
    exact ⟨List.mem_of_find?_eq_some hfound, eq_of_beq hname⟩
  · cases h

/-- What it takes for an entry to be read. -/
theorem putEntries_cons {σ : Type} {fields : List (Field σ α)} {key : σ → Except Misfit (Field σ α)}
    {k value : σ} {rest : List (σ × σ)} {seen : List String} {record : α}
    {result : List String × α} :
    putEntries fields key ((k, value) :: rest) seen record = .ok result ↔
      ∃ field record', key k = .ok field ∧ field.name ∉ seen ∧
        field.put value record = .ok record' ∧
        putEntries fields key rest (field.name :: seen) record' = .ok result := by
  rw [putEntries]
  cases hkey : key k with
  | error cause => simp [bind, Except.bind]
  | ok field =>
    by_cases hseen : field.name ∈ seen
    · simp [bind, Except.bind, hseen, throw, throwThe, MonadExceptOf.throw]
    · cases hput : field.put value record with
      | error cause => simp [bind, Except.bind, hseen, hput]
      | ok record' => simp [bind, Except.bind, hseen, hput]

/-! ## What is read -/

/-- Entries that are read have keys that are fields, each of them once, and none that was seen
before. -/
theorem putEntries_eq_ok {fields : List (Field Document α)} {entries : List (String × Document)}
    {seen seen' : List String} {record record' : α}
    (h : putEntries fields (Document.asField fields) (Document.keyed entries) seen record =
      .ok (seen', record')) :
    (∀ key ∈ keys entries, ∃ field ∈ fields, field.name = key) ∧ (keys entries).Nodup ∧
      (∀ key ∈ keys entries, key ∉ seen) ∧
      ∀ key, key ∈ seen' ↔ key ∈ keys entries ∨ key ∈ seen := by
  induction entries generalizing seen record with
  | nil =>
    cases h
    simp [keys]
  | cons entry rest ih =>
    obtain ⟨key, d⟩ := entry
    obtain ⟨field, record1, hfield, hseen, -, hrest⟩ := putEntries_cons.mp h
    obtain ⟨hmem, rfl⟩ := field_eq_ok hfield
    obtain ⟨hknown, hdistinct, hfresh, hseen'⟩ := ih hrest
    have hnew : field.name ∉ keys rest := fun hmem => hfresh _ hmem List.mem_cons_self
    refine ⟨?_, List.nodup_cons.mpr ⟨hnew, hdistinct⟩, ?_, fun key => ?_⟩
    · exact List.forall_mem_cons.mpr ⟨⟨field, hmem, rfl⟩, hknown⟩
    · exact List.forall_mem_cons.mpr
        ⟨hseen, fun key hkey hmem => hfresh key hkey (List.mem_cons_of_mem _ hmem)⟩
    · rw [hseen', keys_cons, List.mem_cons, List.mem_cons]
      tauto

/-- All fields that have to be given are among those seen. -/
theorem requireAll_eq_ok {fields : List (Field Document α)} {seen : List String} :
    requireAll fields seen = .ok () ↔
      ∀ field ∈ fields, field.required = true → field.name ∈ seen := by
  unfold requireAll
  split
  · rename_i field hfield
    have hmissing := List.find?_some hfield
    simp only [Bool.and_eq_true, Bool.not_eq_true', List.contains_eq_mem,
      decide_eq_false_iff_not] at hmissing
    refine iff_of_false (by simp) fun hall => ?_
    exact hmissing.2 (hall field (List.mem_of_find?_eq_some hfield) hmissing.1)
  · rename_i hnone
    refine iff_of_true rfl fun field hfield hrequired => ?_
    have hseen := List.find?_eq_none.mp hnone field hfield
    simpa [hrequired] using hseen

theorem ofEntries_eq_ok {fields : List (Field Document α)}
    {key : Document → Except Misfit (Field Document α)} {entries : List (Document × Document)}
    {start record : α} :
    ofEntries fields key entries start = .ok record ↔
      ∃ seen, putEntries fields key entries [] start = .ok (seen, record) ∧
        requireAll fields seen = .ok () := by
  unfold ofEntries
  cases hput : putEntries fields key entries [] start with
  | error cause => simp [bind, Except.bind]
  | ok result =>
    obtain ⟨seen, record'⟩ := result
    cases hall : requireAll fields seen with
    | error cause => simp [bind, Except.bind, hall]
    | ok u => simp [bind, Except.bind, hall, pure, Except.pure]

namespace CarriesOut

variable {fields : List (Field Document α)} {start : α} {forms : List (FieldForm α)}

/-- The field of a documented name. -/
theorem exists_field (h : CarriesOut fields start forms) {form : FieldForm α}
    (hform : form ∈ forms) :
    ∃ field, Record.field fields form.name = .ok field ∧ FieldCarriesOut forms field form := by
  obtain ⟨field, -, hfound, hcarries⟩ := exists_find?_of_forall₂ (·.name) (·.name) h.fields
    (fun _ _ hr => hr.name) h.distinct hform
  exact ⟨field, by rw [Record.field, hfound], hcarries⟩

/-- An object with a fault is not read. -/
theorem not_faulty (h : CarriesOut fields start forms) {entries : List (String × Document)}
    {record : α}
    (hread : ofEntries fields (Document.asField fields) (Document.keyed entries) start =
      .ok record) : ¬ Faulty forms (keys entries) := by
  obtain ⟨seen, hput, hall⟩ := ofEntries_eq_ok.mp hread
  obtain ⟨hknown, hdistinct, -, hseen⟩ := putEntries_eq_ok hput
  rintro (⟨key, hgiven, hforms⟩ | hduplicate | ⟨form, hform, hdefault, hgiven⟩)
  · obtain ⟨field, hfield, rfl⟩ := hknown key hgiven
    obtain ⟨form, hform, hcarries⟩ := exists_of_forall₂ h.fields hfield
    exact hforms form hform hcarries.name.symm
  · exact hduplicate hdistinct
  · obtain ⟨field, hfield, hcarries⟩ := exists_of_forall₂ h.fields.flip hform
    have hrequired : field.required = true := by rw [hcarries.required, hdefault]; rfl
    have hmem := requireAll_eq_ok.mp hall field hfield hrequired
    rw [hseen, hcarries.name] at hmem
    exact hmem.elim hgiven List.not_mem_nil

/-- Reading entries that tell of a record puts the values of the record into their fields, and
leaves the other fields as they were. -/
theorem putEntries_of_sound (h : CarriesOut fields start forms) (a : α)
    {entries : List (String × Document)} (hdistinct : (keys entries).Nodup)
    (hsound : ∀ entry ∈ entries, ∃ form ∈ forms, entry = (form.name, form.value a))
    (seen : List String) (hseen : ∀ key ∈ keys entries, key ∉ seen) (record : α) :
    ∃ seen' record', putEntries fields (Document.asField fields) (Document.keyed entries) seen
        record = .ok (seen', record') ∧
      ∀ form ∈ forms, form.value record' =
        if form.name ∈ keys entries then form.value a else form.value record := by
  -- Only distinct keys keep a later entry from touching what an earlier one has put in place.
  induction entries generalizing seen record with
  | nil => exact ⟨seen, record, rfl, fun _ _ => rfl⟩
  | cons entry rest ih =>
    obtain ⟨form, hform, rfl⟩ := hsound entry List.mem_cons_self
    rw [keys_cons, List.nodup_cons] at hdistinct
    obtain ⟨field, hfield, hcarries⟩ := h.exists_field hform
    obtain ⟨record1, hput, hown, hothers⟩ := hcarries.put a record
    have hfresh : ∀ key ∈ keys rest, key ∉ field.name :: seen := by
      intro key hkey hmem
      rcases List.mem_cons.mp hmem with rfl | hmem
      · exact hdistinct.1 (hcarries.name ▸ hkey)
      · exact hseen key (List.mem_cons_of_mem _ hkey) hmem
    obtain ⟨seen', record', hrest, hvalues⟩ := ih hdistinct.2
      (fun entry hentry => hsound entry (List.mem_cons_of_mem _ hentry)) _ hfresh record1
    refine ⟨seen', record', putEntries_cons.mpr ⟨field, record1, hfield, ?_, hput, hrest⟩, ?_⟩
    · exact hcarries.name ▸ hseen _ List.mem_cons_self
    · intro other hother
      rw [hvalues other hother, keys_cons]
      by_cases hname : other.name = form.name
      · have hsame : other = form := List.inj_on_of_nodup_map h.distinct hother hform hname
        rw [hsame, if_neg hdistinct.1, if_pos List.mem_cons_self, hown]
      · rw [hothers other hother hname]
        simp [hname]

/-- An object that tells of a record is read as that record. -/
theorem ofEntries_of_tells (h : CarriesOut fields start forms) {a : α}
    {entries : List (String × Document)} (htells : Tells forms a entries) :
    ofEntries fields (Document.asField fields) (Document.keyed entries) start = .ok a := by
  obtain ⟨seen, record, hput, hvalues⟩ := h.putEntries_of_sound a htells.distinct htells.sound []
    (fun _ _ => List.not_mem_nil) start
  have hrecord : record = a := by
    refine h.ext _ _ fun form hform => ?_
    rw [hvalues form hform]
    split
    · rfl
    · rename_i hgiven
      exact h.start form hform _ (htells.complete form hform hgiven)
  rw [hrecord] at hput
  obtain ⟨-, -, -, hseen⟩ := putEntries_eq_ok hput
  refine ofEntries_eq_ok.mpr ⟨seen, hput, requireAll_eq_ok.mpr fun field hfield hrequired => ?_⟩
  obtain ⟨form, hform, hcarries⟩ := exists_of_forall₂ h.fields hfield
  refine (hseen field.name).mpr (.inl ?_)
  by_contra hgiven
  have hdefault := htells.complete form hform (hcarries.name ▸ hgiven)
  rw [hcarries.required, hdefault] at hrequired
  cases hrequired

/-! ## Fields that read their values only -/

/-- Whatever is read is given by an entry of its field, or has not been touched. -/
theorem putEntries_of_exact (h : CarriesOut fields start forms)
    (hexact : List.Forall₂ FieldIsExact fields forms) {entries : List (String × Document)}
    {seen seen' : List String} {record record' : α}
    (hread : putEntries fields (Document.asField fields) (Document.keyed entries) seen record =
      .ok (seen', record')) {form : FieldForm α} (hform : form ∈ forms) :
    (form.name, form.value record') ∈ entries ∨
      form.name ∉ keys entries ∧ form.value record' = form.value record := by
  induction entries generalizing seen record with
  | nil =>
    cases hread
    exact .inr ⟨List.not_mem_nil, rfl⟩
  | cons entry rest ih =>
    obtain ⟨key, d⟩ := entry
    obtain ⟨field, record1, hfield, hseen, hput, hrest⟩ := putEntries_cons.mp hread
    rcases ih hrest with hgiven | ⟨hgiven, hvalue⟩
    · exact .inl (List.mem_cons_of_mem _ hgiven)
    obtain ⟨hmem, hkey⟩ := field_eq_ok hfield
    obtain ⟨own, hown, hcarries⟩ := exists_of_forall₂ h.fields hmem
    obtain ⟨own', hown', hreads⟩ := exists_of_forall₂ hexact hmem
    obtain rfl : own' = own := List.inj_on_of_nodup_map h.distinct hown' hown
      (hreads.name.symm.trans hcarries.name)
    have hd := hreads.put d record record1 hput
    by_cases hname : form.name = key
    · have hsame : form = own' := List.inj_on_of_nodup_map h.distinct hform hown
        (hname.trans (hkey.symm.trans hcarries.name))
      left
      rw [hvalue, hname, hsame, ← hd]
      exact List.mem_cons_self
    · right
      refine ⟨fun hkeys => ?_, ?_⟩
      · rcases List.mem_cons.mp hkeys with heq | hkeys
        · exact hname heq
        · exact hgiven hkeys
      · obtain ⟨record2, hput2, -, hothers⟩ := hcarries.put record1 record
        rw [← hd, hput] at hput2
        cases hput2
        rw [hvalue]
        exact hothers form hform fun heq => hname (heq.trans (hcarries.name.symm.trans hkey))

/-- If the fields read their values only, an object is read as a record if and only if it tells of
that record. -/
theorem ofEntries_eq_ok_iff (h : CarriesOut fields start forms)
    (hexact : List.Forall₂ FieldIsExact fields forms) {entries : List (String × Document)} {a : α} :
    ofEntries fields (Document.asField fields) (Document.keyed entries) start = .ok a ↔
      Tells forms a entries := by
  refine ⟨fun hread => ?_, h.ofEntries_of_tells⟩
  have hfaulty := h.not_faulty hread
  obtain ⟨seen, hput, -⟩ := ofEntries_eq_ok.mp hread
  obtain ⟨hknown, hdistinct, -, -⟩ := putEntries_eq_ok hput
  refine ⟨hdistinct, fun entry hentry => ?_, fun form hform hgiven => ?_⟩
  · have hkey := List.mem_map_of_mem (f := Prod.fst) hentry
    obtain ⟨field, hfield, hname⟩ := hknown entry.1 hkey
    obtain ⟨form, hform, hcarries⟩ := exists_of_forall₂ h.fields hfield
    have hsame : entry.1 = form.name := hname.symm.trans hcarries.name
    rcases h.putEntries_of_exact hexact hput hform with hvalue | ⟨hgiven, -⟩
    · exact ⟨form, hform, List.inj_on_of_nodup_map hdistinct hentry hvalue hsame⟩
    · exact absurd (hsame ▸ hkey) hgiven
  · rcases h.putEntries_of_exact hexact hput hform with hvalue | ⟨-, hvalue⟩
    · exact absurd (List.mem_map_of_mem (f := Prod.fst) hvalue) hgiven
    · cases hdefault : form.default? with
      | none => exact absurd (.missing form hform hdefault hgiven) hfaulty
      | some d => rw [hvalue, h.start form hform d hdefault]

end CarriesOut

end Record

end MacroTrace
