import Mathlib
import MacroTrace.Document.Record
import MacroTrace.Proofs.JsonWriting
/-!
# Values of fields

How texts, truth values, numbers and values that may be missing stand in a document. Each of them is
read back, no two of them are alike, and all of them can be written. Texts, truth values and counts
are read from nothing else.
-/

namespace MacroTrace

open Document

/-- A value that may be missing. -/
def optionValue {α : Type} (value : α → Document) : Option α → Document
  | none => .null
  | some a => value a

/-- A number of 32 bits. -/
def numberValue (n : UInt32) : Document := .int n.toNat

/-- A number of 32 bits with a sign. -/
def signedValue (n : Int32) : Document := .int n.toInt

/-- A count. -/
def countValue (n : UInt64) : Document := .int n.toNat

/-! ## Reading -/

@[simp] theorem asText_text (s : String) : asText (.text s) = .ok s := rfl

@[simp] theorem asBool_bool (b : Bool) : asBool (.bool b) = .ok b := rfl

@[simp] theorem asNumber_numberValue (n : UInt32) : asNumber (numberValue n) = .ok n := by
  have hn := n.toNat_lt
  have hin : (n.toNat : Int) ≤ 0xFFFFFFFF := by omega
  simp [asNumber, numberValue, asInt, hin]

@[simp] theorem asSigned_signedValue (n : Int32) : asSigned (signedValue n) = .ok n := by
  have hleast := n.le_toInt
  have hmost := n.toInt_lt
  have hin : -0x80000000 ≤ n.toInt ∧ n.toInt ≤ 0x7FFFFFFF := by omega
  simp [asSigned, signedValue, asInt, hin]

@[simp] theorem asCount_countValue (n : UInt64) : asCount (countValue n) = .ok n := by
  have hn := n.toNat_lt
  have hin : (n.toNat : Int) ≤ 0xFFFFFFFFFFFFFFFF := by omega
  simp [asCount, countValue, asInt, hin]

@[simp] theorem asOption_text (s : Option String) :
    asOption asText (optionValue .text s) = .ok s := by
  cases s <;> rfl

@[simp] theorem asOption_count (n : Option UInt64) :
    asOption asCount (optionValue countValue n) = .ok n := by
  cases n with
  | none => rfl
  | some n =>
    show (do return some (← asCount (countValue n))) = _
    rw [asCount_countValue]
    rfl

theorem eq_iff_of_read {α : Type} {value : α → Document} {read : Document → Except Misfit α}
    (h : ∀ a, read (value a) = .ok a) {a b : α} : value a = value b ↔ a = b := by
  refine ⟨fun hab => ?_, congrArg value⟩
  exact Except.ok.inj ((h a).symm.trans ((congrArg read hab).trans (h b)))

@[simp] theorem numberValue_inj {m n : UInt32} : numberValue m = numberValue n ↔ m = n :=
  eq_iff_of_read asNumber_numberValue

@[simp] theorem signedValue_inj {m n : Int32} : signedValue m = signedValue n ↔ m = n :=
  eq_iff_of_read asSigned_signedValue

@[simp] theorem countValue_inj {m n : UInt64} : countValue m = countValue n ↔ m = n :=
  eq_iff_of_read asCount_countValue

@[simp] theorem optionValue_text_inj {s t : Option String} :
    optionValue .text s = optionValue .text t ↔ s = t :=
  eq_iff_of_read asOption_text

@[simp] theorem optionValue_count_inj {m n : Option UInt64} :
    optionValue countValue m = optionValue countValue n ↔ m = n :=
  eq_iff_of_read asOption_count

/-! Texts, truth values and counts are read from nothing else. -/

theorem asText_eq_ok {d : Document} {s : String} : asText d = .ok s ↔ d = .text s := by
  cases d <;> simp [asText, mismatch]

theorem asBool_eq_ok {d : Document} {b : Bool} : asBool d = .ok b ↔ d = .bool b := by
  cases d <;> simp [asBool, mismatch]

theorem asCount_eq_ok {d : Document} {n : UInt64} : asCount d = .ok n ↔ d = countValue n := by
  refine ⟨fun h => ?_, fun h => h ▸ asCount_countValue n⟩
  cases d with
  | int value =>
    by_cases hin : 0 ≤ value ∧ value ≤ 0xFFFFFFFFFFFFFFFF
    · have hread : asCount (.int value) = .ok (UInt64.ofNat value.toNat) := by
        simp [asCount, asInt, hin.1, hin.2]
      have hsize : value.toNat < 2 ^ 64 := by omega
      rw [hread] at h
      cases h
      rw [countValue, UInt64.toNat_ofNat_of_lt' hsize, Int.toNat_of_nonneg hin.1]
    · rw [not_and_or] at hin
      rcases hin with hin | hin <;> simp [asCount, asInt, hin] at h
  | null | bool | float | text | list | table => cases h

theorem asOption_text_eq_ok {d : Document} {s : Option String} :
    asOption asText d = .ok s ↔ d = optionValue .text s := by
  refine ⟨fun h => ?_, fun h => h ▸ asOption_text s⟩
  cases d with
  | null | text =>
    cases h
    rfl
  | bool | int | float | list | table => cases h

/-! ## Writing -/

theorem nesting_optionText (s : Option String) : (optionValue .text s).nesting = 0 := by
  cases s <;> rfl

theorem nesting_optionCount (n : Option UInt64) : (optionValue countValue n).nesting = 0 := by
  cases n <;> rfl

theorem plain_numberValue (n : UInt32) : Json.Plain (numberValue n) := by
  have hn := n.toNat_lt
  exact .int (by omega) (by omega)

theorem plain_signedValue (n : Int32) : Json.Plain (signedValue n) := by
  have hleast := n.le_toInt
  have hmost := n.toInt_lt
  exact .int (by omega) (by omega)

theorem plain_countValue (n : UInt64) : Json.Plain (countValue n) := by
  have hn := n.toNat_lt
  exact .int (by omega) (by omega)

theorem plain_optionValue {α : Type} {value : α → Document} (h : ∀ a, Json.Plain (value a))
    (a : Option α) : Json.Plain (optionValue value a) := by
  cases a with
  | none => exact .null
  | some a => exact h a

end MacroTrace
