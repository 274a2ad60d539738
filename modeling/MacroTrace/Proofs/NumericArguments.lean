import MacroTrace.Proofs.ArgumentChecks
/-!
# Which texts are numerals, and what they stand for

A numeric argument is read digit by digit, and after each digit a value beyond the 64-bit integers
is replaced by the nearest one within. `Numeral.Spells` says without any of this which texts are
numerals, and the value of one is the exact number that its digits stand for, brought into range
once (`Numeral.foldl_extend`). The two agree on every text, whatever counts as blank
(`Session.numericArg_by_grammar`).
-/

namespace MacroTrace

namespace Numeral

/-- The signs that a numeral may have, and whether it is then negative. -/
inductive Sign : Bool → List Char → Prop
  | none : Sign false []
  | plus : Sign false ['+']
  | minus : Sign true ['-']

/-- A text is a numeral with these digits: a sign or none, the digits, and nothing but blanks behind
them. The digits are all that stand there: a digit may count as blank, but what follows the digits
does not start with one. -/
inductive Spells (blanks : Blanks) (negative : Bool) (digits : List Char) : List Char → Prop
  | intro {sign rest : List Char} (hsign : Sign negative sign) (hne : digits ≠ [])
      (hdigits : ∀ c ∈ digits, c.isDigit = true) (hend : ∀ c ∈ rest.head?, c.isDigit = false)
      (hrest : ∀ c ∈ rest, blanks c = true) : Spells blanks negative digits (sign ++ digits ++ rest)

/-- The number that digits with a sign stand for. -/
def exactValue (negative : Bool) (digits : List Char) : Int :=
  if negative then -(Nat.ofDigitChars 10 digits 0 : Int) else Nat.ofDigitChars 10 digits 0

/-! ## Values -/

/-- One more digit, when the value so far has been brought into range. -/
theorem extend_saturate (negative : Bool) (n : Nat) (c : Char) :
    extend negative (saturate (if negative then -(n : Int) else n)) c =
      saturate (if negative then -((10 * n + digitValue c : Nat) : Int)
        else (10 * n + digitValue c : Nat)) := by
  unfold extend saturate lowest highest
  generalize digitValue c = d
  cases negative <;> simp only [Bool.false_eq_true, if_false, if_true] <;> omega

theorem foldl_extend_from (negative : Bool) (digits : List Char) (n : Nat) :
    digits.foldl (extend negative) (saturate (if negative then -(n : Int) else n)) =
      saturate (if negative then -(Nat.ofDigitChars 10 digits n : Int)
        else Nat.ofDigitChars 10 digits n) := by
  induction digits generalizing n with
  | nil => rfl
  | cons c rest ih =>
    rw [List.foldl_cons, extend_saturate, ih, Nat.ofDigitChars_cons]
    rfl

/-- To bring the value into range after each digit comes to the same as doing so once. -/
theorem foldl_extend (negative : Bool) (digits : List Char) :
    digits.foldl (extend negative) 0 = saturate (exactValue negative digits) := by
  have hstart : saturate (if negative then -((0 : Nat) : Int) else (0 : Nat)) = 0 := by
    cases negative <;> decide
  have hfold := foldl_extend_from negative digits 0
  rw [hstart] at hfold
  exact hfold

/-! ## Texts -/

theorem takeSign_append {negative : Bool} {sign text : List Char} (hsign : Sign negative sign)
    (htext : ∀ c ∈ text.head?, c.isDigit = true) :
    takeSign (sign ++ text) = (negative, text) := by
  cases hsign with
  | plus => rfl
  | minus => rfl
  | none =>
    cases text with
    | nil => rfl
    | cons c rest =>
      have hc : c.isDigit = true := htext c rfl
      have hminus : c ≠ '-' := by
        rintro rfl
        cases hc
      have hplus : c ≠ '+' := by
        rintro rfl
        cases hc
      show takeSign (c :: rest) = _
      unfold takeSign
      split
      · rename_i h
        exact absurd (List.head_eq_of_cons_eq h) hminus
      · rename_i h
        exact absurd (List.head_eq_of_cons_eq h) hplus
      · rfl

theorem exists_sign {negative : Bool} {text unsigned : List Char}
    (h : takeSign text = (negative, unsigned)) :
    ∃ sign, Sign negative sign ∧ text = sign ++ unsigned := by
  unfold takeSign at h
  split at h
  · cases h
    exact ⟨['-'], .minus, rfl⟩
  · cases h
    exact ⟨['+'], .plus, rfl⟩
  · cases h
    exact ⟨[], .none, rfl⟩

theorem takeWhile_digits {digits rest : List Char} (hdigits : ∀ c ∈ digits, c.isDigit = true)
    (hend : ∀ c ∈ rest.head?, c.isDigit = false) :
    (digits ++ rest).takeWhile Char.isDigit = digits ∧
      (digits ++ rest).dropWhile Char.isDigit = rest := by
  have hrest : rest.takeWhile Char.isDigit = [] ∧ rest.dropWhile Char.isDigit = rest := by
    cases rest with
    | nil => exact ⟨rfl, rfl⟩
    | cons c later => simp [hend c rfl]
  rw [List.takeWhile_append_of_pos hdigits, List.dropWhile_append_of_pos hdigits, hrest.1, hrest.2,
    List.append_nil]
  exact ⟨rfl, rfl⟩

/-- A numeral is read, and its value is its exact value brought into range. -/
theorem read?_of_spells {blanks : Blanks} {negative : Bool} {digits text : List Char}
    (h : Spells blanks negative digits text) :
    read? blanks text = some (saturate (exactValue negative digits)) := by
  cases h with | @intro sign rest hsign hne hdigits hend hrest => ?_
  have hhead : ∀ c ∈ (digits ++ rest).head?, c.isDigit = true := by
    intro c hc
    rw [List.head?_append_of_ne_nil _ hne] at hc
    exact hdigits c (List.mem_of_mem_head? hc)
  obtain ⟨htake, hdrop⟩ := takeWhile_digits hdigits hend
  have hblank : (skipBlanks blanks rest).isEmpty = true :=
    List.isEmpty_iff.mpr (List.dropWhile_eq_nil_iff.mpr hrest)
  unfold read?
  rw [List.append_assoc, takeSign_append hsign hhead]
  simp only [htake, hdrop, hblank, if_true, foldl_extend]
  exact if_neg fun hempty => hne (List.isEmpty_iff.mp hempty)

/-- Whatever is read is a numeral. -/
theorem exists_spells {blanks : Blanks} {text : List Char} {value : Int}
    (h : read? blanks text = some value) :
    ∃ negative digits, Spells blanks negative digits text := by
  unfold read? at h
  rcases hsplit : takeSign text with ⟨negative, unsigned⟩
  obtain ⟨sign, hsign, htext⟩ := exists_sign hsplit
  simp only [hsplit] at h
  split at h
  · cases h
  · rename_i hdigits
    split at h
    · rename_i hblank
      have hend : ∀ c ∈ (unsigned.dropWhile Char.isDigit).head?, c.isDigit = false := by
        intro c hc
        have hhead := List.head?_dropWhile_not Char.isDigit unsigned
        rw [hc] at hhead
        exact hhead
      have hspells : Spells blanks negative (unsigned.takeWhile Char.isDigit)
          (sign ++ unsigned.takeWhile Char.isDigit ++ unsigned.dropWhile Char.isDigit) :=
        .intro hsign (fun hnil => hdigits (List.isEmpty_iff.mpr hnil))
          (fun c hc => List.mem_takeWhile_imp hc) hend
          (List.dropWhile_eq_nil_iff.mp (List.isEmpty_iff.mp hblank))
      rw [List.append_assoc, List.takeWhile_append_dropWhile, ← htext] at hspells
      exact ⟨negative, _, hspells⟩
    · cases h

theorem read?_eq_none {blanks : Blanks} {text : List Char}
    (h : ∀ negative digits, ¬ Spells blanks negative digits text) : read? blanks text = none := by
  cases hread : read? blanks text with
  | none => rfl
  | some value =>
    obtain ⟨negative, digits, hspells⟩ := exists_spells hread
    exact absurd hspells (h negative digits)

/-- A numeral is not empty. -/
theorem Spells.ne_nil {blanks : Blanks} {negative : Bool} {digits text : List Char}
    (h : Spells blanks negative digits text) : text ≠ [] := by
  cases h with
  | intro hsign hne hdigits hend hrest => simp [hne]

end Numeral

/-! ## Arguments -/

namespace NumberCheck

variable (check : NumberCheck) {blanks : Blanks}

/-- What comes of an argument: what there is to complain about, and the value. -/
theorem outcome_of_blank (h : check.trimmed blanks = []) :
    check.complaint? blanks = some (.warning s!"{check.name}: empty string treated as 0") ∧
      check.value? blanks = some 0 := by
  simp [complaint?, value?, h]

theorem outcome_of_numeral {value : Int} (hne : check.trimmed blanks ≠ [])
    (h : Numeral.read? blanks (check.trimmed blanks) = some value) :
    check.complaint? blanks = none ∧ check.value? blanks = some value := by
  simp [complaint?, value?, hne, h]

theorem outcome_of_other (hne : check.trimmed blanks ≠ [])
    (h : Numeral.read? blanks (check.trimmed blanks) = none) :
    check.complaint? blanks =
        some (.warning s!"{check.name}: non-numeric argument `{check.text}'") ∧
      check.value? blanks = none := by
  simp [complaint?, value?, hne, h]

end NumberCheck

namespace Session

/-- A warning that is neither dropped nor taken as the end of the run is shown, and the answer is
given. -/
theorem checked_of_switches_off {α : Type} {s : Session}
    (hshown : s.reporter.suppressWarnings = false) (hfatal : s.reporter.fatalWarnings = false)
    (message : String) (answer : α) :
    checked (some message) answer s = .ok answer (s.warned message) := by
  simp [checked, hshown, hfatal]

/-- An argument is taken without the blanks at its front. If what is left is a numeral, the answer
is its exact value, or the nearest 64-bit integer, and the session stays as it is. An empty text
stands for zero, with a warning; any other text has no value, and the one warning quotes the
argument as it was given. For the warnings, there must be a place to report them at, and their count
must not be at its end. The value that is kept while digits are read is always the exact one brought
into range, so it never wraps around. -/
theorem numericArg_by_grammar (s : Session) (name text : String) :
    let trimmed := text.toList.dropWhile s.blanks
    (∀ negative digits, Numeral.Spells s.blanks negative digits trimmed →
      numericArg name text s = .ok
        (some (max (-2 ^ 63) (min (2 ^ 63 - 1) (Numeral.exactValue negative digits)))) s) ∧
    (s.location.isStray = false → s.reporter.suppressWarnings = false →
      s.reporter.fatalWarnings = false → s.reporter.warnings.toNat + 1 < UInt64.size →
      (trimmed = [] → numericArg name text s =
        .ok (some 0) (s.warned s!"{name}: empty string treated as 0")) ∧
      (trimmed ≠ [] → (∀ negative digits, ¬ Numeral.Spells s.blanks negative digits trimmed) →
        numericArg name text s =
          .ok none (s.warned s!"{name}: non-numeric argument `{text}'"))) ∧
    ∀ (negative : Bool) (digits : List Char), digits.foldl (Numeral.extend negative) 0 =
      max (-2 ^ 63) (min (2 ^ 63 - 1) (Numeral.exactValue negative digits)) := by
  intro trimmed
  let check : NumberCheck := ⟨name, text⟩
  refine ⟨fun negative digits hspells => ?_, fun hplaced hshown hfatal hroom =>
    ⟨fun hblank => ?_, fun hne hno => ?_⟩, Numeral.foldl_extend⟩
  · have hread := Numeral.read?_of_spells hspells
    obtain ⟨hcomplaint, hvalue⟩ := check.outcome_of_numeral hspells.ne_nil hread
    show numericArg check.name check.text s = _
    rw [numericArg_eq, hcomplaint, hvalue]
    rfl
  · obtain ⟨hcomplaint, hvalue⟩ := check.outcome_of_blank hblank
    have hwarning : check.complaint? s.blanks =
        (some s!"{name}: empty string treated as 0").map .warning := hcomplaint
    show numericArg check.name check.text s = _
    rw [numericArg_checked hplaced hroom hwarning, hvalue, checked_of_switches_off hshown hfatal]
  · have hread := Numeral.read?_eq_none hno
    obtain ⟨hcomplaint, hvalue⟩ := check.outcome_of_other hne hread
    have hwarning : check.complaint? s.blanks =
        (some s!"{name}: non-numeric argument `{text}'").map .warning := hcomplaint
    show numericArg check.name check.text s = _
    rw [numericArg_checked hplaced hroom hwarning, hvalue, checked_of_switches_off hshown hfatal]

/-- A session whose input counts a digit as blank. -/
def oddSession : Session := { plainSession with blanks := fun c => c = ' ' || c = '1' }

theorem numericArg_by_grammar_oddSession :
    numericArg "incr" " 1-12345678901234567890 1" oddSession = .ok (some (-2 ^ 63)) oddSession ∧
      numericArg "incr" "2 2" oddSession =
        .ok none (oddSession.warned "incr: non-numeric argument `2 2'") := by
  have hfew : Numeral.Spells oddSession.blanks true "12345678901234567890".toList
      (" 1-12345678901234567890 1".toList.dropWhile oddSession.blanks) := by
    have hsplit : " 1-12345678901234567890 1".toList.dropWhile oddSession.blanks =
        ['-'] ++ "12345678901234567890".toList ++ [' ', '1'] := by decide
    rw [hsplit]
    exact .intro .minus (by simp) (by simp) (by simp) (by simp [oddSession])
  have hnone : ∀ negative digits, ¬ Numeral.Spells oddSession.blanks negative digits
      ("2 2".toList.dropWhile oddSession.blanks) := by
    intro negative digits hspells
    have hunread : Numeral.read? oddSession.blanks
        ("2 2".toList.dropWhile oddSession.blanks) = none := by decide
    rw [Numeral.read?_of_spells hspells] at hunread
    cases hunread
  have hvalue : max (-2 ^ 63) (min (2 ^ 63 - 1)
      (Numeral.exactValue true "12345678901234567890".toList)) = -2 ^ 63 := by decide
  obtain ⟨hnumeral, -, -⟩ :=
    numericArg_by_grammar oddSession "incr" " 1-12345678901234567890 1"
  obtain ⟨-, hother, -⟩ := numericArg_by_grammar oddSession "incr" "2 2"
  refine ⟨?_, (hother rfl rfl rfl (by decide)).2 (by decide) hnone⟩
  rw [hnumeral true _ hfew, hvalue]

end Session

end MacroTrace
