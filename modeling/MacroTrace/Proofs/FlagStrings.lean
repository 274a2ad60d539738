import Mathlib
import MacroTrace.Level
/-!
# Flag strings

A level is known by the facets that it has (`Level.ext_has`), and letters tell of the level with the
facets that they name, where `V` names all of them (`Level.ToldBy`). Reading a flag string finds the
level that its letters tell of, or the first letter that is no flag (`Level.decode_eq_ok`,
`Level.decode_eq_error`). What else can be said of flag strings follows from the letters alone
(`Level.decode_by_letters`).
-/

namespace MacroTrace

namespace Facet

theorem mem_order (f : Facet) : f ∈ order := by
  cases f <;> decide

theorem nodup_flags : (order.map flag).Nodup := by decide

theorem flag_inj {f g : Facet} : f.flag = g.flag ↔ f = g :=
  ⟨fun h => List.inj_on_of_nodup_map nodup_flags f.mem_order g.mem_order h, congrArg flag⟩

theorem flag_ne_verbose (f : Facet) : f.flag ≠ 'V' := by
  cases f <;> decide

/-- The only letter of a facet is its own. -/
theorem ofFlag?_eq_some {c : Char} {f : Facet} : ofFlag? c = some f ↔ c = f.flag := by
  have hown : ∀ {g}, ofFlag? c = some g → g.flag = c := by
    intro g hg
    have hflag := List.find?_some hg
    exact eq_of_beq hflag
  constructor
  · exact fun h => (hown h).symm
  · rintro rfl
    cases hfound : ofFlag? f.flag with
    | none =>
      exact absurd (beq_self_eq_true f.flag) (List.find?_eq_none.mp hfound f f.mem_order)
    | some g => rw [flag_inj.mp (hown hfound)]

/-- A letter names a facet if it is the facet's own, or the letter for all of them. -/
def NamedBy (f : Facet) (c : Char) : Prop := c = f.flag ∨ c = 'V'

end Facet

namespace Level

/-! ## Facets of a level -/

theorem index_surjective : ∀ i < 10, ∃ f : Facet, f.index = i := by
  have hall : ∀ i < 10, i ∈ Facet.order.map Facet.index := by decide
  intro i hi
  obtain ⟨f, -, hf⟩ := List.mem_map.mp (hall i hi)
  exact ⟨f, hf⟩

/-- A level has a facet if the facet's bit is set. -/
theorem has_eq_getLsbD (l : Level) (f : Facet) : l.has f = l.bits.getLsbD f.index := by
  have hbit : (0 : BitVec 10) ≠ BitVec.twoPow 10 f.index := by
    cases f <;> decide
  unfold has contains single
  rw [BitVec.and_twoPow]
  cases l.bits.getLsbD f.index with
  | false => simpa using hbit
  | true => simp

/-- Levels with the same facets are the same. -/
theorem ext_has {a b : Level} (h : ∀ f, a.has f = true ↔ b.has f = true) : a = b := by
  have hbits : a.bits = b.bits := by
    refine BitVec.eq_of_getLsbD_eq fun i hi => ?_
    obtain ⟨f, rfl⟩ := index_surjective i hi
    rw [← has_eq_getLsbD, ← has_eq_getLsbD]
    exact Bool.eq_iff_iff.mpr (h f)
  cases a
  cases b
  exact congrArg Level.mk hbits

@[simp] theorem has_none (f : Facet) : none.has f = false := by
  cases f <;> decide

@[simp] theorem has_verbose (f : Facet) : verbose.has f = true := by
  cases f <;> decide

@[simp] theorem has_single (f g : Facet) : (single f).has g = decide (g = f) := by
  cases f <;> cases g <;> decide

@[simp] theorem has_union (a b : Level) (f : Facet) : (a ∪ b).has f = (a.has f || b.has f) := by
  rw [has_eq_getLsbD, has_eq_getLsbD, has_eq_getLsbD]
  exact BitVec.getLsbD_or

theorem isEmpty_eq_false_iff {l : Level} : l.isEmpty = false ↔ ∃ f, l.has f = true := by
  constructor
  · intro hl
    by_contra hnone
    have hempty : l = none := ext_has fun f => by simpa using not_exists.mp hnone f
    rw [hempty] at hl
    cases hl
  · rintro ⟨f, hf⟩
    by_contra hl
    have hempty : l = none := congrArg Level.mk (eq_of_beq (eq_true_of_ne_false hl))
    simp [hempty] at hf

/-! ## Letters -/

/-- The letters that a flag string may have. -/
def flagLetters : List Char := ['a', 'e', 'q', 't', 'l', 'f', 'p', 'c', 'i', 'x', 'V']

theorem mem_flagLetters {c : Char} : c ∈ flagLetters ↔ ∃ f : Facet, f.NamedBy c := by
  have hletters : flagLetters = Facet.order.map Facet.flag ++ ['V'] := rfl
  rw [hletters, List.mem_append, List.mem_map, List.mem_singleton]
  constructor
  · rintro (⟨f, -, rfl⟩ | rfl)
    · exact ⟨f, .inl rfl⟩
    · exact ⟨.args, .inr rfl⟩
  · rintro ⟨f, rfl | rfl⟩
    · exact .inl ⟨f, f.mem_order, rfl⟩
    · exact .inr rfl

/-- The level of a letter has the facets that the letter names. -/
theorem has_of_ofFlag? {c : Char} {l : Level} (h : ofFlag? c = some l) (f : Facet) :
    l.has f = true ↔ f.NamedBy c := by
  unfold ofFlag? at h
  split at h
  · rename_i hall
    cases h
    exact iff_of_true (has_verbose f) (.inr hall)
  · rename_i hall
    obtain ⟨g, hg, rfl⟩ := Option.map_eq_some_iff.mp h
    rw [Facet.ofFlag?_eq_some] at hg
    rw [has_single, decide_eq_true_eq, Facet.NamedBy, or_iff_left hall, hg, Facet.flag_inj, eq_comm]

theorem ofFlag?_eq_none {c : Char} : ofFlag? c = .none ↔ c ∉ flagLetters := by
  rw [mem_flagLetters]
  cases h : ofFlag? c with
  | some l =>
    refine iff_of_false (by simp) (not_not.mpr ?_)
    unfold ofFlag? at h
    split at h
    · rename_i hall
      exact ⟨.args, .inr hall⟩
    · obtain ⟨g, hg, -⟩ := Option.map_eq_some_iff.mp h
      exact ⟨g, .inl (Facet.ofFlag?_eq_some.mp hg)⟩
  | none =>
    refine iff_of_true rfl ?_
    rintro ⟨f, rfl | rfl⟩
    · have hown : Facet.ofFlag? f.flag = some f := Facet.ofFlag?_eq_some.mpr rfl
      simp [ofFlag?, f.flag_ne_verbose, hown] at h
    · simp [ofFlag?] at h

theorem exists_ofFlag? {c : Char} (hc : c ∈ flagLetters) : ∃ l, ofFlag? c = some l :=
  Option.ne_none_iff_exists'.mp fun hnone => ofFlag?_eq_none.mp hnone hc

/-- The letters are flags, and the level has the facets that they name. -/
structure ToldBy (l : Level) (letters : List Char) : Prop where
  /-- Each letter is a flag. -/
  flags : ∀ c ∈ letters, c ∈ flagLetters
  /-- The facets are those that some letter names. -/
  has_iff : ∀ f, l.has f = true ↔ ∃ c ∈ letters, f.NamedBy c

/-- The first letter that is no flag, behind so many that are flags. -/
def StopsAt (letters : List Char) (c : Char) (position : Nat) : Prop :=
  ∃ before after, letters = before ++ c :: after ∧ before.length = position ∧
    (∀ b ∈ before, b ∈ flagLetters) ∧ c ∉ flagLetters

namespace ToldBy

variable {l m : Level} {letters more : List Char}

/-- It does not matter in which order the letters stand and how often. -/
theorem congr (h : l.ToldBy letters) (hsame : ∀ c, c ∈ more ↔ c ∈ letters) : l.ToldBy more where
  flags c hc := h.flags c ((hsame c).mp hc)
  has_iff f := by
    rw [h.has_iff]
    simp only [hsame]

theorem append (h : l.ToldBy letters) (hm : m.ToldBy more) : (l ∪ m).ToldBy (letters ++ more) where
  flags := List.forall_mem_append.mpr ⟨h.flags, hm.flags⟩
  has_iff f := by
    rw [has_union, Bool.or_eq_true, h.has_iff, hm.has_iff]
    simp only [List.mem_append, or_and_right, exists_or]

/-- Every letter names some facet. -/
theorem isEmpty_eq_false (h : l.ToldBy letters) (hne : letters ≠ []) : l.isEmpty = false := by
  obtain ⟨c, rest, rfl⟩ := List.exists_cons_of_ne_nil hne
  obtain ⟨f, hf⟩ := mem_flagLetters.mp (h.flags c List.mem_cons_self)
  exact isEmpty_eq_false_iff.mpr ⟨f, (h.has_iff f).mpr ⟨c, List.mem_cons_self, hf⟩⟩

/-- Every list of flags tells of a level. -/
theorem exists_of_flags (h : ∀ c ∈ letters, c ∈ flagLetters) : ∃ l : Level, l.ToldBy letters := by
  induction letters with
  | nil => exact ⟨none, h, by simp⟩
  | cons c rest ih =>
    obtain ⟨hc, hrest⟩ := List.forall_mem_cons.mp h
    obtain ⟨l, hl⟩ := ih hrest
    obtain ⟨m, hm⟩ := exists_ofFlag? hc
    have hletter : m.ToldBy [c] := ⟨List.forall_mem_singleton.mpr hc, by simp [has_of_ofFlag? hm]⟩
    exact ⟨m ∪ l, hletter.append hl⟩

end ToldBy

theorem StopsAt.surround {letters : List Char} {c : Char} {position : Nat}
    (h : StopsAt letters c position) {before : List Char} (hbefore : ∀ b ∈ before, b ∈ flagLetters)
    (after : List Char) : StopsAt (before ++ letters ++ after) c (before.length + position) := by
  obtain ⟨flags, rest, rfl, rfl, hflags, hc⟩ := h
  exact ⟨before ++ flags, rest ++ after, by simp, by simp,
    List.forall_mem_append.mpr ⟨hbefore, hflags⟩, hc⟩

/-! ## Reading -/

/-- Letters that are flags add the facets that they name. -/
theorem addFlags_of_flags {letters : List Char} (h : ∀ c ∈ letters, c ∈ flagLetters)
    (flags : String) (position : Nat) (l : Level) {m : Level} (hm : m.ToldBy letters) :
    addFlags flags letters position l = .ok (l ∪ m) := by
  induction letters generalizing position l m with
  | nil =>
    refine congrArg Except.ok (ext_has fun f => ?_)
    simp [hm.has_iff]
  | cons c rest ih =>
    -- What the rest tells of is not `m`, so the levels are compared facet by facet.
    obtain ⟨hc, hrest⟩ := List.forall_mem_cons.mp h
    obtain ⟨first, hfirst⟩ := exists_ofFlag? hc
    obtain ⟨others, hothers⟩ := ToldBy.exists_of_flags hrest
    rw [addFlags, hfirst]
    simp only
    rw [ih hrest (position + 1) (l ∪ first) hothers]
    refine congrArg Except.ok (ext_has fun f => ?_)
    simp [hm.has_iff, hothers.has_iff, has_of_ofFlag? hfirst, or_assoc]

/-- Reading stops at the first letter that is no flag. -/
theorem addFlags_of_stopsAt {letters : List Char} {c : Char} {place : Nat}
    (h : StopsAt letters c place) (flags : String) (position : Nat) (l : Level) :
    addFlags flags letters position l = .error ⟨c, position + place, flags⟩ := by
  obtain ⟨before, after, rfl, rfl, hbefore, hc⟩ := h
  induction before generalizing position l with
  | nil => simp [addFlags, ofFlag?_eq_none.mpr hc]
  | cons b before ih =>
    obtain ⟨hb, hbefore⟩ := List.forall_mem_cons.mp hbefore
    obtain ⟨m, hm⟩ := exists_ofFlag? hb
    rw [List.cons_append, addFlags, hm]
    simp only
    rw [ih (position + 1) (l ∪ m) hbefore, List.length_cons, Nat.add_right_comm, Nat.add_assoc]

/-- There is a first letter that is no flag, if there is any. -/
theorem exists_stopsAt {letters : List Char} (h : ¬ ∀ c ∈ letters, c ∈ flagLetters) :
    ∃ c position, StopsAt letters c position := by
  induction letters with
  | nil => exact absurd (fun c hc => nomatch hc) h
  | cons first rest ih =>
    by_cases hfirst : first ∈ flagLetters
    · obtain ⟨c, position, hstops⟩ := ih fun hrest => h (List.forall_mem_cons.mpr ⟨hfirst, hrest⟩)
      have hlonger := hstops.surround (List.forall_mem_singleton.mpr hfirst) []
      rw [List.append_nil] at hlonger
      exact ⟨c, _, hlonger⟩
    · exact ⟨first, 0, [], rest, rfl, rfl, (fun b hb => nomatch hb), hfirst⟩

/-- Letters tell of a level, or one of them is the first that is no flag. -/
theorem told_or_stops (letters : List Char) :
    (∃ l : Level, l.ToldBy letters) ∨ ∃ c position, StopsAt letters c position := by
  by_cases hflags : ∀ c ∈ letters, c ∈ flagLetters
  · exact .inl (ToldBy.exists_of_flags hflags)
  · exact .inr (exists_stopsAt hflags)

theorem decode_of_ne_empty {s : String} (h : s ≠ "") :
    decode (some s) = addFlags s s.toList 0 none := by
  rw [decode, if_neg (by simpa using h)]

/-- A flag string is read as the level that its letters tell of. -/
theorem decode_of_toldBy {s : String} {l : Level} (hs : s ≠ "") (h : l.ToldBy s.toList) :
    decode (some s) = .ok l := by
  rw [decode_of_ne_empty hs, addFlags_of_flags h.flags s 0 none h]
  exact congrArg Except.ok (ext_has fun f => by simp)

/-- A text is not read if it has a letter that is no flag. -/
theorem decode_of_stopsAt {s : String} {c : Char} {position : Nat}
    (h : StopsAt s.toList c position) : decode (some s) = .error ⟨c, position, s⟩ := by
  have hs : s ≠ "" := by
    rintro rfl
    obtain ⟨before, after, hletters, -⟩ := h
    simp at hletters
  rw [decode_of_ne_empty hs, addFlags_of_stopsAt h, Nat.zero_add]

theorem decode_eq_ok {s : String} (hs : s ≠ "") {l : Level} :
    decode (some s) = .ok l ↔ l.ToldBy s.toList := by
  refine ⟨fun h => ?_, decode_of_toldBy hs⟩
  rcases told_or_stops s.toList with ⟨m, hm⟩ | ⟨c, position, hstops⟩
  · rw [decode_of_toldBy hs hm] at h
    cases h
    exact hm
  · rw [decode_of_stopsAt hstops] at h
    cases h

theorem decode_eq_error {s : String} {cause : BadFlag} :
    decode (some s) = .error cause ↔
      StopsAt s.toList cause.flag cause.position ∧ cause.flags = s := by
  constructor
  · intro h
    rcases told_or_stops s.toList with ⟨m, hm⟩ | ⟨c, position, hstops⟩
    · -- The empty text is read too: it stands for the standard level.
      by_cases hs : s = ""
      · rw [hs] at h
        cases h
      · rw [decode_of_toldBy hs hm] at h
        cases h
    · rw [decode_of_stopsAt hstops] at h
      cases h
      exact ⟨hstops, rfl⟩
  · rintro ⟨hstops, rfl⟩
    exact decode_of_stopsAt hstops

/-! ## The text of a level -/

theorem mem_text {l : Level} {c : Char} : c ∈ l.text.toList ↔ ∃ f, l.has f = true ∧ f.flag = c := by
  simp [text, Facet.mem_order]

/-- The letters of a level tell of it. -/
theorem toldBy_text (l : Level) : l.ToldBy l.text.toList where
  flags c hc := by
    obtain ⟨f, -, rfl⟩ := mem_text.mp hc
    exact mem_flagLetters.mpr ⟨f, .inl rfl⟩
  has_iff f := by
    constructor
    · intro hf
      exact ⟨f.flag, mem_text.mpr ⟨f, hf, rfl⟩, .inl rfl⟩
    · rintro ⟨c, hc, hnamed⟩
      obtain ⟨g, hg, rfl⟩ := mem_text.mp hc
      rcases hnamed with hown | hall
      · rwa [← Facet.flag_inj.mp hown]
      · exact absurd hall g.flag_ne_verbose

theorem toList_text_sublist (l : Level) :
    l.text.toList.Sublist ['a', 'e', 'q', 't', 'l', 'f', 'p', 'c', 'i', 'x'] := by
  rw [text, String.toList_ofList]
  exact List.filter_sublist.map Facet.flag

/-! ## What follows from the letters -/

variable {s t : String} {l m : Level} {cause : BadFlag}

theorem decode_congr (hs : s ≠ "") (h : decode (some s) = .ok l)
    (hsame : ∀ c, c ∈ t.toList ↔ c ∈ s.toList) : decode (some t) = .ok l := by
  -- The empty text is told apart, since it stands for the standard level.
  have ht : t ≠ "" := by
    rintro rfl
    obtain ⟨c, rest, hcons⟩ := List.exists_cons_of_ne_nil (String.toList_eq_nil_iff.not.mpr hs)
    have hmem := (hsame c).mpr (hcons ▸ List.mem_cons_self)
    cases hmem
  exact decode_of_toldBy ht (((decode_eq_ok hs).mp h).congr hsame)

theorem decode_append (hs : s ≠ "") (ht : t ≠ "") (h : decode (some s) = .ok l)
    (hm : decode (some t) = .ok m) : decode (some (s ++ t)) = .ok (l ∪ m) := by
  have hboth := ((decode_eq_ok hs).mp h).append ((decode_eq_ok ht).mp hm)
  rw [← String.toList_append] at hboth
  exact decode_of_toldBy (by simp [hs]) hboth

theorem decode_text (h : l.isEmpty = false) : decode (some l.text) = .ok l := by
  obtain ⟨f, hf⟩ := isEmpty_eq_false_iff.mp h
  have hmem := mem_text.mpr ⟨f, hf, rfl⟩
  refine decode_of_toldBy ?_ l.toldBy_text
  intro hempty
  rw [hempty] at hmem
  cases hmem

theorem decode_surround (h : decode (some s) = .error cause) {before : String}
    (hbefore : ∀ b ∈ before.toList, b ∈ flagLetters) (after : String) :
    decode (some (before ++ s ++ after)) =
      .error ⟨cause.flag, before.length + cause.position, before ++ s ++ after⟩ := by
  have hstops := (decode_eq_error.mp h).1.surround hbefore after.toList
  rw [← String.toList_append, ← String.toList_append, String.length_toList] at hstops
  exact decode_of_stopsAt hstops

/-- A flag string that is not empty is read if all its letters are flags, and then as the level with
just the facets that they name. So it does not matter in which order the letters stand and how
often; the level is never empty; two flag strings together stand for the union of their levels; and
the text of the level, which has the letters of its facets in their fixed order and each of them
once, is read as that level again. Otherwise the first letter that is no flag is reported with the
number of characters before it and with the whole text, and that is the letter reported whatever
comes behind the text and whatever flags come before it. -/
theorem decode_by_letters (hs : s ≠ "") :
    ((∃ l, decode (some s) = .ok l) ↔ ∀ c ∈ s.toList, c ∈ flagLetters) ∧
    (∀ l, decode (some s) = .ok l →
      (∀ f, l.has f = true ↔ ∃ c ∈ s.toList, f.NamedBy c) ∧
      (∀ m : Level, (∀ f, m.has f = true ↔ ∃ c ∈ s.toList, f.NamedBy c) → m = l) ∧
      (∀ t : String, (∀ c, c ∈ t.toList ↔ c ∈ s.toList) → decode (some t) = .ok l) ∧
      l.isEmpty = false ∧
      (∀ t m, t ≠ "" → decode (some t) = .ok m → decode (some (s ++ t)) = .ok (l ∪ m)) ∧
      decode (some l.text) = .ok l ∧
      l.text.toList.Sublist ['a', 'e', 'q', 't', 'l', 'f', 'p', 'c', 'i', 'x'] ∧
      ∀ f, f.flag ∈ l.text.toList ↔ l.has f = true) ∧
    (∀ cause, decode (some s) = .error cause ↔
      cause.flags = s ∧ ∃ before after, s.toList = before ++ cause.flag :: after ∧
        before.length = cause.position ∧ (∀ b ∈ before, b ∈ flagLetters) ∧
        cause.flag ∉ flagLetters) ∧
    ∀ cause, decode (some s) = .error cause → ∀ before after : String,
      (∀ b ∈ before.toList, b ∈ flagLetters) →
      decode (some (before ++ s ++ after)) =
        .error ⟨cause.flag, before.length + cause.position, before ++ s ++ after⟩ := by
  refine ⟨⟨?_, fun hflags => ?_⟩, fun l hl => ?_, fun cause => ?_, fun cause hcause => ?_⟩
  · rintro ⟨l, hl⟩
    exact ((decode_eq_ok hs).mp hl).flags
  · obtain ⟨l, hl⟩ := ToldBy.exists_of_flags hflags
    exact ⟨l, decode_of_toldBy hs hl⟩
  · have htold := (decode_eq_ok hs).mp hl
    have hne := htold.isEmpty_eq_false (String.toList_eq_nil_iff.not.mpr hs)
    refine ⟨htold.has_iff, fun m hm => ?_, fun t => decode_congr hs hl, hne,
      fun t m ht => decode_append hs ht hl, decode_text hne, l.toList_text_sublist, fun f => ?_⟩
    · exact ext_has fun f => (hm f).trans (htold.has_iff f).symm
    · simp [mem_text, Facet.flag_inj]
  · rw [decode_eq_error, and_comm]
    rfl
  · exact fun before after hbefore => decode_surround hcause hbefore after

/-- Flags in whatever order and number, and a flag string with a letter of two bytes that is no
flag, which stays the one reported between other letters. -/
theorem decode_by_letters_instance :
    "xcx" ≠ "" ∧ decode (some "xcx") = .ok ⟨640⟩ ∧ decode (some "cx") = .ok ⟨640⟩ ∧
      decode (some ("xcx" ++ "e")) = .ok (⟨640⟩ ∪ ⟨2⟩) ∧
    "lé" ≠ "" ∧ decode (some "lé") = .error ⟨'é', 1, "lé"⟩ ∧
      decode (some ("Vx" ++ "lé" ++ "z")) = .error ⟨'é', "Vx".length + 1, "Vx" ++ "lé" ++ "z"⟩ := by
  have hread : decode (some "xcx") = .ok ⟨640⟩ := by decide
  have hother : decode (some "e") = .ok ⟨2⟩ := by decide
  have hbad : decode (some "lé") = .error ⟨'é', 1, "lé"⟩ := by decide
  obtain ⟨-, hok, -⟩ := decode_by_letters (s := "xcx") (by decide)
  obtain ⟨-, -, hsame, -, happend, -⟩ := hok _ hread
  obtain ⟨-, -, -, hkept⟩ := decode_by_letters (s := "lé") (by decide)
  exact ⟨by decide, hread, hsame "cx" (by simp), happend "e" ⟨2⟩ (by decide) hother, by decide,
    hbad, hkept _ hbad "Vx" "z" (by simp [flagLetters])⟩

end Level

end MacroTrace
