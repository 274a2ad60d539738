import Mathlib
import MacroTrace.Json.Reader
/-!
# Strings and numbers in JSON

The ways to write a string (`Json.SpellsText`) and a number (`Json.SpellsNumber`). A character of a
string may be written as it is, by a short escape, or by one or two escapes with four digits.
However it is written, the reader takes each string and each number for itself.
-/

namespace MacroTrace

namespace Json

/-! ## Blanks -/

/-- A text of nothing but blanks. -/
def AllBlank (text : List Char) : Prop := ∀ c ∈ text, isBlank c = true

theorem allBlank_nil : AllBlank [] := fun _ hc => nomatch hc

theorem skipBlanks_append {before : List Char} (h : AllBlank before) (text : List Char) :
    skipBlanks (before ++ text) = skipBlanks text := by
  unfold skipBlanks
  rw [List.dropWhile_append, List.dropWhile_eq_nil_iff.mpr h]
  rfl

theorem skipBlanks_cons {c : Char} (h : isBlank c = false) (text : List Char) :
    skipBlanks (c :: text) = c :: text := by
  unfold skipBlanks
  rw [List.dropWhile_cons_of_neg (by simp [h])]

theorem skipBlanks_allBlank {text : List Char} (h : AllBlank text) : skipBlanks text = [] :=
  List.dropWhile_eq_nil_iff.mpr h

theorem skipBlanks_skipBlanks (text : List Char) :
    skipBlanks (skipBlanks text) = skipBlanks text := by
  unfold skipBlanks
  exact List.dropWhile_idempotent _ _

/-! ## Strings -/

/-- The letters of the short escapes, each with the character that it stands for. -/
def shortEscapes : List (Char × Char) :=
  [('"', '"'), ('\\', '\\'), ('/', '/'), ('b', '\x08'), ('f', '\x0c'), ('n', '\n'), ('r', '\r'),
    ('t', '\t')]

/-- Four hexadecimal digits, of either case, that spell a number. -/
inductive SpellsUnit : Nat → List Char → Prop
  | digits {a b c d : Char} {w x y z : Nat} (ha : hexValue? a = some w) (hb : hexValue? b = some x)
    (hc : hexValue? c = some y) (hd : hexValue? d = some z) :
    SpellsUnit (((w * 16 + x) * 16 + y) * 16 + z) [a, b, c, d]

/-- The ways to write a character of a string. -/
inductive SpellsChar : Char → List Char → Prop
  | plain {c : Char} (hquote : c ≠ '"') (hbackslash : c ≠ '\\') (hcontrol : 0x20 ≤ c.toNat) :
    SpellsChar c [c]
  | short {letter c : Char} (h : (letter, c) ∈ shortEscapes) : SpellsChar c ['\\', letter]
  | unit {c : Char} {digits : List Char} (h : SpellsUnit c.toNat digits) :
    SpellsChar c ('\\' :: 'u' :: digits)
  | pair {c : Char} {high low : List Char} (hbeyond : 0x10000 ≤ c.toNat)
    (hhigh : SpellsUnit (0xD800 + (c.toNat - 0x10000) / 0x400) high)
    (hlow : SpellsUnit (0xDC00 + (c.toNat - 0x10000) % 0x400) low) :
    SpellsChar c ('\\' :: 'u' :: high ++ '\\' :: 'u' :: low)

/-- The ways to write a string, without the quotes. -/
def SpellsText (text : String) (body : List Char) : Prop :=
  ∃ pieces, List.Forall₂ SpellsChar text.toList pieces ∧ body = pieces.flatten

theorem takeUnit_append {n : Nat} {digits : List Char} (h : SpellsUnit n digits)
    (rest : List Char) : takeUnit (digits ++ rest) = some (n, rest) := by
  cases h with
  | digits ha hb hc hd => simp [takeUnit, ha, hb, hc, hd]

/-- Escapes with digits stand for the character that they spell. -/
theorem takeNumbered_unit {c : Char} {digits : List Char} (h : SpellsUnit c.toNat digits)
    (rest : List Char) : takeNumbered (digits ++ rest) = some (c, rest) := by
  have hvalid : c.toNat < 0xD800 ∨ 0xDFFF < c.toNat ∧ c.toNat < 0x110000 := c.valid
  have hscalar : (decide (c.toNat < 0xD800) || decide (0xDFFF < c.toNat)) = true := by
    simp only [Bool.or_eq_true, decide_eq_true_eq]
    omega
  unfold takeNumbered
  rw [takeUnit_append h]
  simp only [Option.bind_eq_bind, Option.bind_some, hscalar, if_true, Char.ofNat_toNat]
  rfl

theorem takeNumbered_pair {m n : Nat} {high low : List Char} (hhigh : SpellsUnit m high)
    (hlow : SpellsUnit n low) (hm : 0xD800 ≤ m ∧ m < 0xDC00) (hn : 0xDC00 ≤ n ∧ n ≤ 0xDFFF)
    (rest : List Char) :
    takeNumbered (high ++ '\\' :: 'u' :: (low ++ rest)) =
      some (Char.ofNat (0x10000 + (m - 0xD800) * 0x400 + (n - 0xDC00)), rest) := by
  have hnotScalar : (decide (m < 0xD800) || decide (0xDFFF < m)) = false := by
    simp only [Bool.or_eq_false_iff, decide_eq_false_iff_not]
    omega
  have hnotLow : ¬ 0xDC00 ≤ m := Nat.not_le.mpr hm.2
  unfold takeNumbered
  rw [takeUnit_append hhigh]
  simp only [Option.bind_eq_bind, Option.bind_some, hnotScalar, Bool.false_eq_true, if_false,
    hnotLow, takeUnit_append hlow, hn.1, hn.2, decide_true, Bool.and_self, if_true]
  rfl

theorem escaped?_of_mem {letter c : Char} (h : (letter, c) ∈ shortEscapes) :
    letter ≠ 'u' ∧ escaped? letter = some c := by
  have hall : ∀ escape ∈ shortEscapes, escape.1 ≠ 'u' ∧ escaped? escape.1 = some escape.2 := by
    decide
  exact hall _ h

theorem characters_escape {letter : Char} (h : letter ≠ 'u') (fuel : Nat) (text : List Char) :
    characters (fuel + 1) ('\\' :: letter :: text) = (do
      let c ← escaped? letter
      let (cs, rest) ← characters fuel text
      return (c :: cs, rest)) := by
  rw [characters.eq_def]
  simp only [Char.reduceEq, if_false, if_true, h]

theorem characters_numbered (fuel : Nat) (text : List Char) :
    characters (fuel + 1) ('\\' :: 'u' :: text) = (do
      let (c, text) ← takeNumbered text
      let (cs, rest) ← characters fuel text
      return (c :: cs, rest)) := rfl

theorem characters_quote (fuel : Nat) (rest : List Char) :
    characters (fuel + 1) ('"' :: rest) = some ([], rest) := rfl

/-- However a character is written, it is read as itself. -/
theorem characters_append {c : Char} {piece : List Char} (h : SpellsChar c piece) (fuel : Nat)
    (text : List Char) :
    characters (fuel + 1) (piece ++ text) = (do
      let (cs, rest) ← characters fuel text
      return (c :: cs, rest)) := by
  cases h with
  | plain hquote hbackslash hcontrol =>
    rw [List.singleton_append, characters.eq_def]
    simp only [hquote, hbackslash, Nat.not_lt.mpr hcontrol, if_false]
  | short h =>
    obtain ⟨hletter, hescaped⟩ := escaped?_of_mem h
    refine (characters_escape hletter fuel text).trans ?_
    rw [hescaped]
    rfl
  | unit h =>
    rw [List.cons_append, List.cons_append, characters_numbered, takeNumbered_unit h]
    rfl
  | pair hbeyond hhigh hlow =>
    have hvalid : c.toNat < 0xD800 ∨ 0xDFFF < c.toNat ∧ c.toNat < 0x110000 := c.valid
    have hback : 0x10000 + (0xD800 + (c.toNat - 0x10000) / 0x400 - 0xD800) * 0x400 +
        (0xDC00 + (c.toNat - 0x10000) % 0x400 - 0xDC00) = c.toNat := by omega
    have hread := takeNumbered_pair hhigh hlow (by omega) (by omega) text
    rw [hback, Char.ofNat_toNat] at hread
    rw [List.append_assoc, List.cons_append, List.cons_append, List.cons_append, List.cons_append,
      characters_numbered, hread]
    rfl

theorem length_pos_of_spellsChar {c : Char} {piece : List Char} (h : SpellsChar c piece) :
    0 < piece.length := by
  cases h <;> exact Nat.succ_pos _

/-- A string is read as what it spells, up to its closing quote. -/
theorem characters_of_spells {text : String} {body : List Char} (h : SpellsText text body)
    (rest : List Char) :
    characters ((body ++ '"' :: rest).length + 1) (body ++ '"' :: rest) =
      some (text.toList, rest) := by
  obtain ⟨pieces, hpieces, rfl⟩ := h
  generalize text.toList = cs at hpieces ⊢
  have hread : ∀ fuel, pieces.flatten.length < fuel →
      characters fuel (pieces.flatten ++ '"' :: rest) = some (cs, rest) := by
    induction hpieces with
    | nil =>
      intro fuel hfuel
      obtain ⟨fuel, rfl⟩ := Nat.exists_eq_succ_of_ne_zero (Nat.ne_of_gt hfuel)
      rw [List.flatten_nil, List.nil_append, characters_quote]
    | cons hchar _ ih =>
      intro fuel hfuel
      have hpiece := length_pos_of_spellsChar hchar
      rw [List.flatten_cons, List.length_append] at hfuel
      obtain ⟨fuel, rfl⟩ := Nat.exists_eq_succ_of_ne_zero (Nat.ne_of_gt (Nat.zero_lt_of_lt hfuel))
      rw [List.flatten_cons, List.append_assoc, characters_append hchar, ih fuel (by omega)]
      rfl
  refine hread _ ?_
  rw [List.length_append]
  omega

/-! ## Numbers -/

/-- Digits, and at least one of them. -/
def AreDigits (digits : List Char) : Prop := digits ≠ [] ∧ ∀ c ∈ digits, c.isDigit = true

/-- The ways to write a fraction. -/
inductive SpellsFraction : Option (List Char) → List Char → Prop
  | none : SpellsFraction none []
  | some {digits : List Char} (h : AreDigits digits) : SpellsFraction (some digits) ('.' :: digits)

/-- The ways to write an exponent. -/
inductive SpellsExponent : Option (Bool × List Char) → List Char → Prop
  | none : SpellsExponent none []
  | unsigned {e : Char} {digits : List Char} (he : e = 'e' ∨ e = 'E') (h : AreDigits digits) :
    SpellsExponent (some (false, digits)) (e :: digits)
  | plus {e : Char} {digits : List Char} (he : e = 'e' ∨ e = 'E') (h : AreDigits digits) :
    SpellsExponent (some (false, digits)) (e :: '+' :: digits)
  | minus {e : Char} {digits : List Char} (he : e = 'e' ∨ e = 'E') (h : AreDigits digits) :
    SpellsExponent (some (true, digits)) (e :: '-' :: digits)

/-- The ways to write a number: zeros are not put in front of other digits. -/
inductive SpellsNumber (t : NumberText) : List Char → Prop
  | parts {fraction exponent : List Char} (hdigits : AreDigits t.whole)
    (hzero : t.whole.length = 1 ∨ t.whole.head? ≠ some '0')
    (hfraction : SpellsFraction t.fraction fraction)
    (hexponent : SpellsExponent t.exponent exponent) :
    SpellsNumber t ((if t.negative then ['-'] else []) ++ (t.whole ++ (fraction ++ exponent)))

/-- No number goes on with a text. -/
def EndsNumber (rest : List Char) : Prop :=
  ∀ c, rest.head? = some c → c.isDigit = false ∧ c ≠ '.' ∧ c ≠ 'e' ∧ c ≠ 'E'

theorem takeDigits_append {digits rest : List Char} (h : ∀ c ∈ digits, c.isDigit = true)
    (hrest : ∀ c, rest.head? = some c → c.isDigit = false) :
    takeDigits (digits ++ rest) = (digits, rest) := by
  unfold takeDigits
  rw [List.takeWhile_append_of_pos h, List.dropWhile_append_of_pos h]
  cases rest with
  | nil => simp
  | cons c rest =>
    have hc := hrest c rfl
    rw [List.takeWhile_cons_of_neg (by simp [hc]), List.dropWhile_cons_of_neg (by simp [hc]),
      List.append_nil]

theorem isEmpty_of_areDigits {digits : List Char} (h : AreDigits digits) :
    digits.isEmpty = false := by
  cases digits with
  | nil => exact absurd rfl h.1
  | cons c rest => rfl

theorem exponent_append {e : Option (Bool × List Char)} {text : List Char}
    (h : SpellsExponent e text) {rest : List Char} (hrest : EndsNumber rest) :
    exponent (text ++ rest) = some (e, rest) := by
  have hnoDigit : ∀ c, rest.head? = some c → c.isDigit = false := fun c hc => (hrest c hc).1
  have hletter : ∀ {e : Char}, e = 'e' ∨ e = 'E' →
      (decide (e = 'e') || decide (e = 'E')) = true := by
    rintro e (rfl | rfl) <;> rfl
  cases h with
  | none =>
    cases rest with
    | nil => rfl
    | cons c rest =>
      have hc := hrest c rfl
      simp [exponent, hc.2.2.1, hc.2.2.2]
  | @unsigned e digits he hdigits =>
    have hnoSign : ∀ c more, digits ++ rest = c :: more → c.isDigit = true := by
      intro c more hcons
      obtain ⟨d, ds, rfl⟩ := List.exists_cons_of_ne_nil hdigits.1
      cases hcons
      exact hdigits.2 _ List.mem_cons_self
    rw [List.cons_append, exponent, if_pos (hletter he)]
    simp only [takeDigits_append hdigits.2 hnoDigit, isEmpty_of_areDigits hdigits,
      Bool.false_eq_true, if_false]
    all_goals
      intro more hmore
      exact absurd (hnoSign _ _ hmore) (by decide)
  | plus he hdigits =>
    rw [List.cons_append, List.cons_append, exponent, if_pos (hletter he)]
    simp only [takeDigits_append hdigits.2 hnoDigit, isEmpty_of_areDigits hdigits,
      Bool.false_eq_true, if_false]
  | minus he hdigits =>
    rw [List.cons_append, List.cons_append, exponent, if_pos (hletter he)]
    simp only [takeDigits_append hdigits.2 hnoDigit, isEmpty_of_areDigits hdigits,
      Bool.false_eq_true, if_false]

theorem fraction_append {f : Option (List Char)} {text : List Char} (h : SpellsFraction f text)
    {rest : List Char} (hrest : ∀ c, rest.head? = some c → c.isDigit = false ∧ c ≠ '.') :
    fraction (text ++ rest) = some (f, rest) := by
  cases h with
  | none =>
    cases rest with
    | nil => rfl
    | cons c rest =>
      rw [List.nil_append, fraction.eq_def]
      split
      · rename_i more hmore
        cases hmore
        exact absurd rfl (hrest '.' rfl).2
      · rfl
  | some hdigits =>
    rw [List.cons_append, fraction]
    simp only [takeDigits_append hdigits.2 fun c hc => (hrest c hc).1,
      isEmpty_of_areDigits hdigits, Bool.false_eq_true, if_false]

/-- The start of an exponent, or of what follows a number. -/
theorem head_exponent {e : Option (Bool × List Char)} {text : List Char} (h : SpellsExponent e text)
    {rest : List Char} (hrest : EndsNumber rest) :
    ∀ c, (text ++ rest).head? = some c → c.isDigit = false ∧ c ≠ '.' := by
  have hletter : ∀ {e : Char}, e = 'e' ∨ e = 'E' → e.isDigit = false ∧ e ≠ '.' := by
    rintro e (rfl | rfl) <;> decide
  intro c hc
  cases h with
  | none => exact ⟨(hrest c hc).1, (hrest c hc).2.1⟩
  | unsigned he | plus he | minus he =>
    cases hc
    exact hletter he

/-- The start of a fraction, or of an exponent, or of what follows a number. -/
theorem head_fraction {f : Option (List Char)} {text : List Char} (h : SpellsFraction f text)
    {rest : List Char} (hrest : ∀ c, rest.head? = some c → c.isDigit = false ∧ c ≠ '.') :
    ∀ c, (text ++ rest).head? = some c → c.isDigit = false := by
  intro c hc
  cases h with
  | none => exact (hrest c hc).1
  | some =>
    cases hc
    rfl

/-- Behind the sign and the digits of a number, its fraction and its exponent are read. -/
theorem number_of_takeDigits {whole text after : List Char} (negative : Bool)
    (hdigits : AreDigits whole) (hzero : whole.length = 1 ∨ whole.head? ≠ some '0')
    (h : takeDigits text = (whole, after)) :
    number ((if negative then ['-'] else []) ++ text) = (do
      let (fraction, text) ← fraction after
      let (exponent, text) ← exponent text
      let value ← NumberText.value? { negative, whole, fraction, exponent }
      return (value, text)) := by
  have hnotZeros : (whole.isEmpty || (whole.length ≠ 1 && whole.head? == some '0')) = false := by
    rcases hzero with hone | hhead
    · simp [isEmpty_of_areDigits hdigits, hone]
    · simp [isEmpty_of_areDigits hdigits, hhead]
  cases negative with
  | true =>
    simp only [if_true, List.singleton_append, number, h, hnotZeros]
    rfl
  | false =>
    have hnoSign : ∀ rest, text ≠ '-' :: rest := by
      rintro rest rfl
      exact hdigits.1 (Prod.ext_iff.mp h).1.symm
    simp only [Bool.false_eq_true, if_false, List.nil_append]
    simp only [number, h, hnotZeros]
    rfl

/-- However a number is written, it is read as itself. -/
theorem number_of_spells {t : NumberText} {text : List Char} (h : SpellsNumber t text)
    {rest : List Char} (hrest : EndsNumber rest) :
    number (text ++ rest) = t.value?.map (·, rest) := by
  obtain ⟨negative, whole, f, e⟩ := t
  cases h with
  | @parts fraction exponent hdigits hzero hfraction hexponent =>
    have hexponentHead := head_exponent hexponent hrest
    have hwhole := takeDigits_append hdigits.2 (head_fraction hfraction hexponentHead)
    simp only [List.append_assoc]
    rw [number_of_takeDigits negative hdigits hzero hwhole, fraction_append hfraction hexponentHead]
    simp only [Option.bind_eq_bind, Option.bind_some, exponent_append hexponent hrest]
    cases NumberText.value? _ <;> rfl

/-- What a number starts with. -/
def StartsNumber (c : Char) : Prop := c = '-' ∨ c.isDigit = Bool.true

theorem SpellsNumber.start {t : NumberText} {text : List Char} (h : SpellsNumber t text) :
    ∃ c more, text = c :: more ∧ StartsNumber c := by
  cases h with
  | parts hdigits =>
    obtain ⟨d, ds, hwhole⟩ := List.exists_cons_of_ne_nil hdigits.1
    cases hsign : t.negative with
    | true => exact ⟨_, _, rfl, .inl rfl⟩
    | false =>
      rw [hwhole]
      exact ⟨_, _, rfl, .inr (hdigits.2 d (hwhole ▸ List.mem_cons_self))⟩

theorem StartsNumber.isBlank_eq {c : Char} (h : StartsNumber c) : isBlank c = Bool.false := by
  cases hblank : isBlank c with
  | false => rfl
  | true =>
    simp only [isBlank, Bool.or_eq_true, decide_eq_true_eq] at hblank
    rcases hblank with ((rfl | rfl) | rfl) | rfl <;> exact absurd h (by unfold StartsNumber; decide)

/-- Digits are added up as long as their number stays below the bound. -/
theorem absorb_eq {digits : List Char} {n : Nat}
    (h : Nat.ofDigitChars 10 digits n < UInt64.size) :
    absorb n digits = (Nat.ofDigitChars 10 digits n, []) := by
  induction digits generalizing n with
  | nil => rw [absorb, Nat.ofDigitChars_nil]
  | cons c rest ih =>
    have hnext : Nat.ofDigitChars 10 (c :: rest) n =
        Nat.ofDigitChars 10 rest (n * 10 + digitValue c) := by
      rw [Nat.ofDigitChars_cons, Nat.mul_comm, digitValue]
    rw [hnext] at h ⊢
    have hle : n * 10 + digitValue c ≤ Nat.ofDigitChars 10 rest (n * 10 + digitValue c) := by
      rw [Nat.ofDigitChars_eq_ofDigitChars_zero]
      exact (Nat.le_mul_of_pos_left _ (by positivity)).trans (Nat.le_add_right _ _)
    simp only [absorb, if_pos (hle.trans_lt h), ih h]

/-- No zero is put in front of other digits. -/
theorem head_toDigits {n : Nat} (h : n ≠ 0) : (Nat.toDigits 10 n).head? ≠ some '0' := by
  induction n using Nat.base_induction 10 (by decide) with
  | single m hm =>
    rw [Nat.toDigits_of_lt_base hm]
    simpa using h
  | digit m k hk hm ih =>
    rw [← Nat.toDigits_append_toDigits (by decide) hm hk,
      List.head?_append_of_ne_nil _ Nat.toDigits_ne_nil]
    exact ih hm.ne'

end Json

end MacroTrace
