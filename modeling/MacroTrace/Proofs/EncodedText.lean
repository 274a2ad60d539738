import Mathlib
import MacroTrace.Text.Utf8
/-!
# Text and its bytes

The bytes of a text are valid UTF-8, and the strict reader gets the text back from them
(`Utf8.decode?_encode`). A character is read from its own bytes whatever follows them
(`Utf8.split_encodeChar`); its first byte tells in which of four widths it is written, and keeps the
second byte within bounds.
-/

namespace MacroTrace

namespace Utf8

/-- The bytes are the UTF-8 form of some text. -/
def IsValid (bytes : Bytes) : Prop := bytes.toByteArray.IsValidUTF8

theorem isValid_encode (text : String) : IsValid (encode text) :=
  .intro text.toList rfl

theorem IsValid.append {a b : Bytes} (ha : IsValid a) (hb : IsValid b) : IsValid (a ++ b) := by
  unfold IsValid at *
  rw [List.toByteArray_append]
  exact ByteArray.IsValidUTF8.append ha hb

/-! ## Widths -/

section Widths

variable {b c d e : UInt8}

theorem lead?_one (h : b.toNat < 0x80) : lead? b = some (1, 0x80, 0xBF) := by
  simp only [lead?, UInt8.lt_iff_toNat_lt, UInt8.reduceToNat]
  rw [if_pos h]

theorem lead?_two (h : 0xC2 ≤ b.toNat) (h' : b.toNat < 0xE0) : lead? b = some (2, 0x80, 0xBF) := by
  simp only [lead?, UInt8.lt_iff_toNat_lt, UInt8.reduceToNat]
  rw [if_neg (by omega), if_neg (by omega), if_pos h']

theorem lead?_three (h : 0xE0 ≤ b.toNat) (h' : b.toNat < 0xF0) :
    lead? b = some (3, if b.toNat = 0xE0 then 0xA0 else 0x80,
      if b.toNat = 0xED then 0x9F else 0xBF) := by
  simp only [lead?, UInt8.lt_iff_toNat_lt, ← UInt8.toNat_inj, UInt8.reduceToNat]
  grind

theorem lead?_four (h : 0xF0 ≤ b.toNat) (h' : b.toNat < 0xF5) :
    lead? b = some (4, if b.toNat = 0xF0 then 0x90 else 0x80,
      if b.toNat = 0xF4 then 0x8F else 0xBF) := by
  simp only [lead?, UInt8.lt_iff_toNat_lt, ← UInt8.toNat_inj, UInt8.reduceToNat]
  grind

theorem continues_of_bounds (h : 0x80 ≤ b.toNat) (h' : b.toNat < 0xC0) : continues b = true := by
  simp only [continues, UInt8.le_iff_toNat_le, UInt8.reduceToNat, Bool.and_eq_true,
    decide_eq_true_eq]
  omega

theorem split_one (h : b.toNat < 0x80) (rest : Bytes) :
    split b rest = (some (Char.ofNat b.toNat), 0) := by
  simp only [split, lead?_one h]

theorem split_two (h : 0xC2 ≤ b.toNat) (h' : b.toNat < 0xE0) (hc : 0x80 ≤ c.toNat)
    (hc' : c.toNat < 0xC0) (rest : Bytes) :
    split b (c :: rest) = (some (Char.ofNat (b.toNat % 32 * 64 + payload c)), 1) := by
  have hbounds : (c < (0x80 : UInt8) || (0xBF : UInt8) < c) = false := by
    simp only [UInt8.lt_iff_toNat_lt, UInt8.reduceToNat, Bool.or_eq_false_iff,
      decide_eq_false_iff_not]
    omega
  unfold split
  rw [lead?_two h h']
  simp only [hbounds, Bool.false_eq_true, if_false, if_true]

theorem split_three (h : 0xE0 ≤ b.toNat) (h' : b.toNat < 0xF0)
    (hc : (if b.toNat = 0xE0 then 0xA0 else 0x80) ≤ c.toNat)
    (hc' : c.toNat ≤ if b.toNat = 0xED then 0x9F else 0xBF)
    (hd : 0x80 ≤ d.toNat) (hd' : d.toNat < 0xC0) (rest : Bytes) :
    split b (c :: d :: rest) =
      (some (Char.ofNat (b.toNat % 16 * 4096 + payload c * 64 + payload d)), 2) := by
  have hbounds : (c < (if b.toNat = 0xE0 then 0xA0 else 0x80 : UInt8) ||
      (if b.toNat = 0xED then 0x9F else 0xBF : UInt8) < c) = false := by
    simp only [UInt8.lt_iff_toNat_lt, apply_ite UInt8.toNat, UInt8.reduceToNat,
      Bool.or_eq_false_iff, decide_eq_false_iff_not]
    omega
  unfold split
  rw [lead?_three h h']
  simp only [hbounds, continues_of_bounds hd hd', Bool.false_eq_true, Bool.not_true, if_false,
    if_true, Nat.reduceEqDiff]

theorem split_four (h : 0xF0 ≤ b.toNat) (h' : b.toNat < 0xF5)
    (hc : (if b.toNat = 0xF0 then 0x90 else 0x80) ≤ c.toNat)
    (hc' : c.toNat ≤ if b.toNat = 0xF4 then 0x8F else 0xBF)
    (hd : 0x80 ≤ d.toNat) (hd' : d.toNat < 0xC0) (he : 0x80 ≤ e.toNat) (he' : e.toNat < 0xC0)
    (rest : Bytes) :
    split b (c :: d :: e :: rest) =
      (some (Char.ofNat (b.toNat % 8 * 262144 + payload c * 4096 + payload d * 64 + payload e)), 3)
      := by
  have hbounds : (c < (if b.toNat = 0xF0 then 0x90 else 0x80 : UInt8) ||
      (if b.toNat = 0xF4 then 0x8F else 0xBF : UInt8) < c) = false := by
    simp only [UInt8.lt_iff_toNat_lt, apply_ite UInt8.toNat, UInt8.reduceToNat,
      Bool.or_eq_false_iff, decide_eq_false_iff_not]
    omega
  unfold split
  rw [lead?_four h h']
  simp only [hbounds, continues_of_bounds hd hd', continues_of_bounds he he', Bool.false_eq_true,
    Bool.not_true, if_false, Nat.reduceEqDiff]

end Widths

/-! ## Characters -/

theorem toNat_ofNat {n : Nat} (h : n < 256) : (UInt8.ofNat n).toNat = n :=
  UInt8.toNat_ofNat_of_lt' h

/-- The bytes of a character are read as that character, and nothing of what follows is taken as
part of it. -/
theorem split_encodeChar (c : Char) (rest : Bytes) :
    ∃ b more, String.utf8EncodeChar c = b :: more ∧ split b (more ++ rest) = (some c, more.length)
      := by
  have hvalid : c.toNat < 0xD800 ∨ 0xDFFF < c.toNat ∧ c.toNat < 0x110000 := c.valid
  have hback : ∀ n, n = c.toNat → some (Char.ofNat n) = some c := by
    rintro _ rfl
    rw [Char.ofNat_toNat]
  have hval : c.val.toNat = c.toNat := rfl
  simp only [String.utf8EncodeChar, hval]
  by_cases h1 : c.toNat ≤ 0x7F
  · have hb := toNat_ofNat (n := c.toNat) (by omega)
    rw [if_pos h1]
    refine ⟨_, _, rfl, ?_⟩
    rw [split_one (by omega), hback _ hb]
    rfl
  by_cases h2 : c.toNat ≤ 0x7FF
  · have hb := toNat_ofNat (n := c.toNat / 64 % 32 + 192) (by omega)
    have hc := toNat_ofNat (n := c.toNat % 64 + 128) (by omega)
    rw [if_neg h1, if_pos h2]
    refine ⟨_, _, rfl, ?_⟩
    rw [List.cons_append, split_two (by omega) (by omega) (by omega) (by omega), hback]
    · rfl
    · unfold payload
      omega
  by_cases h3 : c.toNat ≤ 0xFFFF
  · have hb := toNat_ofNat (n := c.toNat / 4096 % 16 + 224) (by omega)
    have hc := toNat_ofNat (n := c.toNat / 64 % 64 + 128) (by omega)
    have hd := toNat_ofNat (n := c.toNat % 64 + 128) (by omega)
    rw [if_neg h1, if_neg h2, if_pos h3]
    refine ⟨_, _, rfl, ?_⟩
    rw [List.cons_append, List.cons_append, split_three (by omega) (by omega)
      (by rw [hb, hc]; split <;> omega) (by rw [hb, hc]; split <;> omega) (by omega) (by omega),
      hback]
    · rfl
    · unfold payload
      omega
  · have hb := toNat_ofNat (n := c.toNat / 262144 % 8 + 240) (by omega)
    have hc := toNat_ofNat (n := c.toNat / 4096 % 64 + 128) (by omega)
    have hd := toNat_ofNat (n := c.toNat / 64 % 64 + 128) (by omega)
    have he := toNat_ofNat (n := c.toNat % 64 + 128) (by omega)
    rw [if_neg h1, if_neg h2, if_neg h3]
    refine ⟨_, _, rfl, ?_⟩
    rw [List.cons_append, List.cons_append, List.cons_append, split_four (by omega) (by omega)
      (by rw [hb, hc]; split <;> omega) (by rw [hb, hc]; split <;> omega) (by omega) (by omega)
      (by omega) (by omega), hback]
    · rfl
    · unfold payload
      omega

/-! ## Texts -/

theorem scalars_encode (cs : List Char) :
    scalars (cs.flatMap String.utf8EncodeChar) = cs.map some := by
  induction cs with
  | nil => simp [scalars]
  | cons c rest ih =>
    obtain ⟨b, more, hc, hsplit⟩ := split_encodeChar c (rest.flatMap String.utf8EncodeChar)
    rw [List.flatMap_cons, hc, List.cons_append, scalars]
    simp only [hsplit, List.drop_left, ih, List.map_cons]

/-- What is encoded is read back. -/
theorem decode?_encode (text : String) : decode? (encode text) = some text := by
  unfold decode? encode
  rw [scalars_encode]
  have hall : (text.toList.map some).mapM id = some text.toList := by
    induction text.toList with
    | nil => rfl
    | cons c rest ih => simp [ih]
  rw [hall, Option.map_some, String.ofList_toList]

end Utf8

end MacroTrace
