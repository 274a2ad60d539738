import Mathlib
import MacroTrace.Json.Writer
import MacroTrace.Proofs.JsonText
/-!
# What is written in JSON

Documents without floating point numbers whose integers fit into 64 bits and whose keys are texts
(`Json.Plain`) are what values are written as. What the writer makes of such a document spells it
(`Json.Plain.spells_write`), so that the reader gets it back.
-/

namespace MacroTrace

namespace Json

/-! ## Strings and integers -/

theorem spellsUnit_control {n : Nat} (h : n < 0x100) :
    SpellsUnit n ['0', '0', Nat.digitChar (n / 16), Nat.digitChar (n % 16)] := by
  have hdigit : ∀ k < 16, hexValue? (Nat.digitChar k) = some k := by decide
  have hparts : n = ((0 * 16 + 0) * 16 + n / 16) * 16 + n % 16 := by omega
  have hspells : SpellsUnit (((0 * 16 + 0) * 16 + n / 16) * 16 + n % 16)
      ['0', '0', Nat.digitChar (n / 16), Nat.digitChar (n % 16)] :=
    .digits rfl rfl (hdigit _ (by omega)) (hdigit _ (by omega))
  rwa [← hparts] at hspells

theorem spellsChar_write (c : Char) : SpellsChar c (writeChar c) := by
  -- The last case is the character without a short escape.
  unfold writeChar
  split
  case h_8 _ hquote hbackslash _ _ _ _ _ =>
    split
    · exact .unit (spellsUnit_control (by omega))
    · exact .plain hquote hbackslash (by omega)
  all_goals exact .short (by decide)

theorem spellsText_write (s : String) : SpellsText s (s.toList.flatMap writeChar) := by
  refine ⟨s.toList.map writeChar, ?_, rfl⟩
  exact List.forall₂_map_right_iff.mpr (List.forall₂_same.mpr fun c _ => spellsChar_write c)

theorem spells_writeText (s : String) : Spells (.value (.text s)) (writeText s) :=
  .text (spellsText_write s)

theorem spellsNumber_writeInt (n : Int) :
    SpellsNumber ⟨decide (n < 0), Nat.toDigits 10 n.natAbs, none, none⟩ (writeInt n) := by
  have hdigits : AreDigits (Nat.toDigits 10 n.natAbs) :=
    ⟨Nat.toDigits_ne_nil, fun c hc => Nat.isDigit_of_mem_toDigits (by decide) (by decide) hc⟩
  have hzero : (Nat.toDigits 10 n.natAbs).length = 1 ∨
      (Nat.toDigits 10 n.natAbs).head? ≠ some '0' := by
    by_cases hn : n.natAbs = 0
    · exact .inl (by rw [hn]; rfl)
    · exact .inr (head_toDigits hn)
  have hspells := SpellsNumber.parts
    (t := ⟨decide (n < 0), Nat.toDigits 10 n.natAbs, none, none⟩) hdigits hzero .none .none
  simpa [writeInt] using hspells

/-- The digits of an integer stand for it, if it fits into 64 bits with or without a sign. -/
theorem value?_toDigits {n : Int} (hleast : -0x8000000000000000 ≤ n)
    (hmost : n < 0x10000000000000000) :
    NumberText.value? ⟨decide (n < 0), Nat.toDigits 10 n.natAbs, none, none⟩ = some (.int n) := by
  have hdigits : absorb 0 (Nat.toDigits 10 n.natAbs) = (n.natAbs, []) := by
    have hsize : n.natAbs < UInt64.size := by
      have : UInt64.size = 0x10000000000000000 := rfl
      omega
    rw [absorb_eq (by rwa [Nat.ofDigitChars_ten_toDigits]), Nat.ofDigitChars_ten_toDigits]
  unfold NumberText.value?
  simp only [hdigits, Option.isNone_none, Bool.and_self, if_true]
  by_cases hn : n < 0
  · have hback : -(n.natAbs : Int) = n := by omega
    have hnat : (n.natAbs ≠ 0 && n.natAbs ≤ 0x8000000000000000) = Bool.true := by
      simp only [Bool.and_eq_true, decide_eq_true_eq]
      omega
    simp only [hn, decide_true, Bool.not_true, Bool.false_eq_true, if_false, hnat, if_true, hback]
  · have hback : (n.natAbs : Int) = n := by omega
    simp only [hn, decide_false, Bool.not_false, if_true, hback]

/-! ## Documents -/

/-- A document that can be written and read back. -/
inductive Plain : Document → Prop
  | null : Plain .null
  | bool (b : Bool) : Plain (.bool b)
  | int {n : Int} (hleast : -0x8000000000000000 ≤ n) (hmost : n < 0x10000000000000000) :
    Plain (.int n)
  | text (s : String) : Plain (.text s)
  | list {ds : List Document} (h : ∀ d ∈ ds, Plain d) : Plain (.list ds)
  | table {entries : List (String × Document)} (h : ∀ entry ∈ entries, Plain entry.2) :
    Plain (.table (entries.map fun entry => (.text entry.1, entry.2)))

theorem spells_writeItems {ds : List Document} (hne : ds ≠ [])
    (h : ∀ d ∈ ds, Spells (.value d) (write d)) : Spells (.items ds) (writeItems ds) := by
  induction ds with
  | nil => exact absurd rfl hne
  | cons d ds ih =>
    obtain ⟨hd, hds⟩ := List.forall_mem_cons.mp h
    cases ds with
    | nil => exact .lastItem hd.item_bare
    | cons e ds => exact .moreItems hd.item_bare (ih (List.cons_ne_nil e ds) hds)

theorem spells_writeEntry (key : String) {d : Document} {text : List Char}
    (h : Spells (.value d) text) : Spells (.entry key d) (writeText key ++ ':' :: text) := by
  have hentry := Spells.entry allBlank_nil (spellsText_write key) allBlank_nil h.item_bare
  simpa [writeText] using hentry

theorem spells_writeEntries {entries : List (String × Document)} (hne : entries ≠ [])
    (h : ∀ entry ∈ entries, Spells (.value entry.2) (write entry.2)) :
    Spells (.entries (entries.map fun entry => (.text entry.1, entry.2)))
      (writeEntries (entries.map fun entry => (.text entry.1, entry.2))) := by
  induction entries with
  | nil => exact absurd rfl hne
  | cons entry rest ih =>
    obtain ⟨hentry, hrest⟩ := List.forall_mem_cons.mp h
    cases rest with
    | nil => exact .lastEntry (spells_writeEntry entry.1 hentry)
    | cons next rest =>
      have hmore := ih (List.cons_ne_nil next rest) hrest
      have hall := Spells.moreEntries (spells_writeEntry entry.1 hentry) hmore
      rwa [List.append_assoc, List.cons_append] at hall

/-- What is written spells what was to be written. -/
theorem Plain.spells_write {d : Document} (h : Plain d) : Spells (.value d) (write d) := by
  induction h with
  | null => exact .null
  | bool b =>
    cases b
    · exact .false
    · exact .true
  | int hleast hmost => exact .number (spellsNumber_writeInt _) (value?_toDigits hleast hmost)
  | text s => exact spells_writeText s
  | @list ds _ ih =>
    rcases eq_or_ne ds [] with rfl | hne
    · exact .emptyList allBlank_nil
    · exact .list (spells_writeItems hne ih)
  | @table entries _ ih =>
    rcases eq_or_ne entries [] with rfl | hne
    · exact .emptyTable allBlank_nil
    · exact .table (spells_writeEntries hne ih)

end Json

end MacroTrace
