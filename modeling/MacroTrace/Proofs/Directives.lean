import MacroTrace.Proofs.EncodedText
import MacroTrace.Proofs.TemplateKinds
/-!
# What templates stand for

A template is split from left to right into characters that stand for themselves and directives of
two characters (`Template.parts`). Some directives take an argument each, in order. A template whose
directives find an argument of their kind in each place stands for the renderings of its parts, one
after the other; otherwise its expansion is a breach that names the first misfit
(`Template.expand_eq`).
-/

namespace MacroTrace

/-- A character that stands for itself, or a percent sign with the character behind it. -/
inductive TemplatePart
  | literal (c : Char)
  | directive (c : Char)
deriving DecidableEq, Repr

namespace TemplatePart

def chars : TemplatePart → List Char
  | .literal c => [c]
  | .directive c => ['%', c]

/-- The kind of argument that a part takes, if it takes one. -/
def takes? : TemplatePart → Option ArgKind
  | .literal _ => none
  | .directive 'S' => some .text
  | .directive 's' => some .text
  | .directive 'd' => some .int
  | .directive _ => none

/-- What a part stands for, given the argument that is in its place. -/
def rendering (o : TemplateOptions) : TemplatePart → Option TemplateArg → String
  | .literal c, _ => String.singleton c
  | .directive 'S', some (.text value) =>
    if o.limit ≠ 0 ∧ o.limit.toNat < value.length then
      String.ofList (value.toList.take o.limit.toNat) ++ "..."
    else value
  | .directive 's', some (.text value) => value
  | .directive 'd', some (.int value) => toString value.toInt
  | .directive 'l', _ => if o.level.has .quote then o.quotes.left else ""
  | .directive 'r', _ => if o.level.has .quote then o.quotes.right else ""
  | .directive _, _ => ""

/-- The kinds of the arguments that parts take, in their order. -/
def takers (parts : List TemplatePart) : List ArgKind := parts.filterMap takes?

/-- What parts stand for, one after the other. The argument in the place of a part is the one that
comes after as many as the parts before it take. -/
def rendered (o : TemplateOptions) (parts : List TemplatePart) (args : List TemplateArg) : String :=
  String.join (parts.mapIdx fun i part => part.rendering o args[(takers (parts.take i)).length]?)

theorem takers_append (a b : List TemplatePart) : takers (a ++ b) = takers a ++ takers b :=
  List.filterMap_append

theorem takers_cons (part : TemplatePart) (rest : List TemplatePart) :
    takers (part :: rest) = part.takes?.toList ++ takers rest := by
  unfold takers
  rw [List.filterMap_cons]
  cases part.takes? <;> rfl

/-- A part that takes no argument stands for the same whatever is in its place. -/
theorem rendering_of_takes?_eq_none (o : TemplateOptions) {part : TemplatePart}
    (h : part.takes? = none) (found other : Option TemplateArg) :
    part.rendering o found = part.rendering o other := by
  unfold takes? at h
  split at h
  · rfl
  · cases h
  · cases h
  · cases h
  · rename_i c hcut htext hint
    unfold rendering
    grind

@[simp] theorem rendered_nil (o : TemplateOptions) (args : List TemplateArg) :
    rendered o [] args = "" := rfl

theorem rendered_cons (o : TemplateOptions) (part : TemplatePart) (rest : List TemplatePart)
    (args : List TemplateArg) :
    rendered o (part :: rest) args =
      part.rendering o args.head? ++ rendered o rest (args.drop part.takes?.toList.length) := by
  unfold rendered
  rw [List.mapIdx_cons, String.join_cons]
  congr 2
  · rw [List.take_zero, List.head?_eq_getElem?]
    rfl
  · congr
    funext i next
    rw [List.take_succ_cons, takers_cons, List.length_append, List.getElem?_drop]

theorem rendered_append (o : TemplateOptions) (a b : List TemplatePart)
    (args more : List TemplateArg) (h : args.length = (takers a).length) :
    rendered o (a ++ b) (args ++ more) = rendered o a args ++ rendered o b more := by
  induction a generalizing args with
  | nil =>
    rw [List.length_eq_zero_iff.mp h]
    simp
  | cons part rest ih =>
    rw [takers_cons, List.length_append] at h
    rw [List.cons_append, rendered_cons, rendered_cons, String.append_assoc,
      List.drop_append_of_le_length (by omega), ih _ (by rw [List.length_drop]; omega)]
    congr 1
    cases args with
    | nil =>
      have htakes : part.takes? = none := by
        cases hpart : part.takes? with
        | none => rfl
        | some kind =>
          rw [hpart, List.length_nil, Option.toList_some, List.length_singleton] at h
          omega
      exact rendering_of_takes?_eq_none o htakes _ _
    | cons arg args => rfl

end TemplatePart

/-- The breach of giving something else, or nothing, in the place of an argument. -/
def ArgKind.breach : ArgKind → Option TemplateArg → Breach
  | .text, found => .notAString (TemplateArg.describe found)
  | .int, found => .notAnInteger (TemplateArg.describe found)

namespace Template

open TemplatePart

/-- The parts of a template, from left to right. A percent sign at the very end is not one. -/
def parts : List Char → List TemplatePart
  | [] => []
  | ['%'] => []
  | '%' :: c :: rest => .directive c :: parts rest
  | c :: rest => .literal c :: parts rest

/-- The breach of the first argument that is not of the kind due in its place. -/
def misfit? : List ArgKind → List TemplateArg → Option Breach
  | [], _ => none
  | kind :: _, [] => some (kind.breach none)
  | kind :: kinds, arg :: args =>
    if arg.kind = kind then misfit? kinds args else some (kind.breach (some arg))

/-- A template is its parts, but for a percent sign that may stand at the very end. -/
theorem parts_chars (template : List Char) :
    template = (parts template).flatMap chars ∨ template = (parts template).flatMap chars ++ ['%']
    := by
  fun_induction parts template with
  | case1 => exact .inl rfl
  | case2 => exact .inr rfl
  | case3 c rest ih =>
    rcases ih with ih | ih
    · exact .inl (congrArg ('%' :: c :: ·) ih)
    · exact .inr (congrArg ('%' :: c :: ·) ih)
  | case4 c rest _ _ ih =>
    rcases ih with ih | ih
    · exact .inl (congrArg (c :: ·) ih)
    · exact .inr (congrArg (c :: ·) ih)

theorem parts_plain {c : Char} (h : c ≠ '%') (rest : List Char) :
    parts (c :: rest) = .literal c :: parts rest := by
  rw [parts]
  · rintro rfl
    exact absurd rfl h
  · rintro directive more rfl
    exact absurd rfl h

/-- Behind a template that is nothing but its parts, another is split as on its own. -/
theorem parts_append (a b : List Char) (h : (parts a).flatMap chars = a) :
    parts (a ++ b) = parts a ++ parts b := by
  fun_induction parts a with
  | case1 => rfl
  | case2 => cases h
  | case3 c rest ih =>
    have hrest : (parts rest).flatMap chars = rest := (List.cons.inj (List.cons.inj h).2).2
    exact congrArg (TemplatePart.directive c :: ·) (ih hrest)
  | case4 c rest hlast hdirective ih =>
    have hc : c ≠ '%' := by
      rintro rfl
      cases rest with
      | nil => exact hlast rfl rfl
      | cons next rest => exact hdirective next rest rfl rfl
    rw [List.cons_append, parts_plain hc, ih (List.cons.inj h).2]
    rfl

@[simp] theorem misfit?_nil (args : List TemplateArg) : misfit? [] args = none := by
  rw [misfit?]

theorem misfit?_append (kinds more : List ArgKind) (args : List TemplateArg) :
    misfit? (kinds ++ more) args =
      (misfit? kinds args).or (misfit? more (args.drop kinds.length)) := by
  induction kinds generalizing args with
  | nil => rw [misfit?_nil, Option.none_or, List.nil_append, List.length_nil, List.drop_zero]
  | cons kind kinds ih =>
    cases args with
    | nil => rfl
    | cons arg args =>
      rw [List.cons_append, misfit?, misfit?, ih, List.length_cons, List.drop_succ_cons]
      split <;> rfl

/-- Arguments beyond those that are due make no misfit. -/
theorem misfit?_surplus {kinds : List ArgKind} {args : List TemplateArg}
    (h : kinds.length ≤ args.length) (surplus : List TemplateArg) :
    misfit? kinds (args ++ surplus) = misfit? kinds args := by
  induction kinds generalizing args with
  | nil => simp
  | cons kind kinds ih =>
    cases args with
    | nil => cases h
    | cons arg args =>
      rw [List.cons_append, misfit?, misfit?, ih (Nat.le_of_succ_le_succ h)]

/-- Without a misfit, each place holds an argument of the kind due there. -/
theorem misfit?_eq_none (kinds : List ArgKind) (args : List TemplateArg) :
    misfit? kinds args = none ↔
      ∀ (k : Nat) kind, kinds[k]? = some kind → args[k]?.map TemplateArg.kind = some kind := by
  induction kinds generalizing args with
  | nil => simp [misfit?]
  | cons kind kinds ih =>
    cases args with
    | nil =>
      refine ⟨nofun, fun h => ?_⟩
      cases h 0 kind rfl
    | cons arg args =>
      rw [misfit?]
      split
      · rename_i hkind
        rw [ih]
        refine ⟨fun h k => ?_, fun h k kind => h (k + 1) kind⟩
        cases k with
        | zero =>
          rintro _ ⟨⟩
          exact congrArg some hkind
        | succ k => exact h k
      · rename_i hkind
        refine ⟨nofun, fun h => ?_⟩
        exact absurd (Option.some.inj (h 0 kind rfl)) hkind

/-- The breach is that of the first place that does not hold what is due there. -/
theorem misfit?_eq_some {kinds : List ArgKind} {args : List TemplateArg} {breach : Breach}
    (h : misfit? kinds args = some breach) :
    ∃ (k : Nat) (kind : ArgKind), kinds[k]? = some kind ∧
      args[k]?.map TemplateArg.kind ≠ some kind ∧
      (∀ j < k, args[j]?.map TemplateArg.kind = kinds[j]?) ∧ breach = kind.breach args[k]? := by
  induction kinds generalizing args with
  | nil => cases h
  | cons kind kinds ih =>
    cases args with
    | nil =>
      cases h
      exact ⟨0, kind, rfl, nofun, nofun, rfl⟩
    | cons arg args =>
      rw [misfit?] at h
      split at h
      · rename_i hkind
        obtain ⟨k, due, hdue, hmisfit, hbefore, hbreach⟩ := ih h
        refine ⟨k + 1, due, hdue, hmisfit, ?_, hbreach⟩
        rintro (_ | j) hj
        · exact congrArg some hkind
        · exact hbefore j (Nat.lt_of_succ_lt_succ hj)
      · rename_i hkind
        cases h
        exact ⟨0, kind, rfl, fun hsame => hkind (Option.some.inj hsame), nofun, rfl⟩

/-- What `%S` shows of a text is the text unless it has more characters than a limit that is set. -/
theorem rendering_cut (o : TemplateOptions) (value : String) :
    (TemplatePart.directive 'S').rendering o (some (.text value)) = cut o.limit value := by
  show (if _ then String.ofList (value.toList.take o.limit.toNat) ++ cutMarker else value) = _
  unfold cut
  by_cases hlimit : o.limit = 0
  · rw [if_neg (fun h => h.1 hlimit), if_pos (by rw [hlimit]; rfl)]
  by_cases hlength : value.length ≤ o.limit.toNat
  · rw [if_neg (fun h => absurd h.2 (Nat.not_lt.mpr hlength)), if_pos (by simp [hlength])]
  · rw [if_pos ⟨hlimit, Nat.not_le.mp hlength⟩, if_neg (by simp [hlimit, hlength])]

/-- One part is expanded to what it stands for, or is a breach if its argument does not fit. -/
theorem expandChars_part (o : TemplateOptions) {part : TemplatePart} (hpart : part ≠ .literal '%')
    (rest : List Char) (args : List TemplateArg) :
    expandChars o (part.chars ++ rest) args = match misfit? part.takes?.toList args with
      | some breach => .error breach
      | none => (expandChars o rest (args.drop part.takes?.toList.length)).map
          ((part.rendering o args.head?).toList ++ ·) := by
  cases part with
  | literal c =>
    have hc : c ≠ '%' := fun h => hpart (congrArg _ h)
    refine (expandChars_plain o rest args hc).trans ?_
    show _ = (expandChars o rest args).map ((String.singleton c).toList ++ ·)
    rw [String.toList_singleton]
    rfl
  | directive c =>
    by_cases h : c = 'S' ∨ c = 's' ∨ c = 'd' ∨ c = 'l' ∨ c = 'r'
    · rcases h with rfl | rfl | rfl | rfl | rfl
      · rcases args with _ | ⟨value | value, args⟩
        · rfl
        · rw [List.head?_cons, rendering_cut]
          exact expandChars_cut o rest args value
        · rfl
      · rcases args with _ | ⟨value | value, args⟩
        · rfl
        · exact expandChars_text o rest args value
        · rfl
      · rcases args with _ | ⟨value | value, args⟩
        · rfl
        · rfl
        · exact expandChars_int o rest args value
      · exact expandChars_leftQuote o rest args
      · exact expandChars_rightQuote o rest args
    · -- Any other directive takes no argument and stands for nothing.
      simp only [not_or] at h
      obtain ⟨hcut, htext, hint, hleft, hright⟩ := h
      have hexpand : expandChars o ('%' :: c :: rest) args = expandChars o rest args := by
        simp [expandChars, *]
      have htakes : (directive c).takes? = none := by
        simp [TemplatePart.takes?, *]
      have hrendering : (directive c).rendering o args.head? = "" := by
        unfold rendering
        split <;> grind
      rw [htakes, hrendering]
      show expandChars o ('%' :: c :: rest) args = (expandChars o rest args).map ("".toList ++ ·)
      rw [hexpand, String.toList_empty]
      cases expandChars o rest args <;> rfl

/-- What parts come to, given their arguments. -/
def expansion (o : TemplateOptions) (parts : List TemplatePart) (args : List TemplateArg) :
    Except Breach String :=
  match misfit? (takers parts) args with
  | some breach => .error breach
  | none => .ok (rendered o parts args)

theorem expandChars_part_append (o : TemplateOptions) {part : TemplatePart}
    (hpart : part ≠ .literal '%') {rest : List Char} {later : List TemplatePart}
    (h : ∀ args, expandChars o rest args = (expansion o later args).map String.toList)
    (args : List TemplateArg) :
    expandChars o (part.chars ++ rest) args =
      (expansion o (part :: later) args).map String.toList := by
  rw [expandChars_part o hpart, h, expansion, expansion, takers_cons, misfit?_append, rendered_cons]
  cases misfit? part.takes?.toList args with
  | some breach => rfl
  | none =>
    rw [Option.none_or]
    cases misfit? (takers later) (args.drop part.takes?.toList.length) with
    | some breach => rfl
    | none => exact congrArg Except.ok String.toList_append.symm

/-- A template is expanded to what its parts come to. -/
theorem expandChars_eq (o : TemplateOptions) (template : List Char) (args : List TemplateArg) :
    expandChars o template args = (expansion o (parts template) args).map String.toList := by
  fun_induction parts template generalizing args with
  | case1 => rfl
  | case2 => rfl
  | case3 c rest ih =>
    have hpart : TemplatePart.directive c ≠ .literal '%' := nofun
    exact expandChars_part_append o hpart ih args
  | case4 c rest hlast hdirective ih =>
    refine expandChars_part_append o (?_ : TemplatePart.literal c ≠ .literal '%') ih args
    rintro ⟨⟩
    cases rest with
    | nil => exact hlast rfl rfl
    | cons next rest => exact hdirective next rest rfl rfl

theorem expand_eq (o : TemplateOptions) (template : String) (args : List TemplateArg) :
    expand o template args = expansion o (parts template.toList) args := by
  unfold expand
  rw [expandChars_eq]
  cases expansion o (parts template.toList) args with
  | ok text => exact congrArg Except.ok String.ofList_toList
  | error breach => rfl

/-- What parts come to one after the other is what they come to together, if the arguments of the
first are as many as they take. -/
theorem expansion_append (o : TemplateOptions) (a b : List TemplatePart)
    (args more : List TemplateArg) (h : args.length = (takers a).length) :
    expansion o (a ++ b) (args ++ more) =
      (do return (← expansion o a args) ++ (← expansion o b more)) := by
  unfold expansion
  rw [takers_append, misfit?_append, misfit?_surplus (Nat.le_of_eq h.symm),
    rendered_append o a b args more h, List.drop_left' h]
  cases misfit? (takers a) args with
  | some breach => rfl
  | none => cases misfit? (takers b) more <;> rfl

end Template

namespace LineBuffer

open TemplatePart Template

theorem format_eq (b : LineBuffer) (o : TemplateOptions) (template : String)
    (args : List TemplateArg) :
    b.format o template args = (expansion o (parts template.toList) args).map b.pushText := by
  unfold format
  rw [expand_eq]

section Outcomes

variable {b b' : LineBuffer} {o : TemplateOptions} {template : String} {args : List TemplateArg}

theorem format_eq_error {breach : Breach} :
    b.format o template args = .error breach ↔
      misfit? (takers (parts template.toList)) args = some breach := by
  rw [format_eq, expansion]
  cases misfit? (takers (parts template.toList)) args <;> simp [Except.map]

theorem format_eq_ok :
    b.format o template args = .ok b' ↔
      misfit? (takers (parts template.toList)) args = none ∧
        b' = b.pushText (rendered o (parts template.toList) args) := by
  rw [format_eq, expansion]
  cases misfit? (takers (parts template.toList)) args <;> simp [Except.map, eq_comm]

theorem format_append {next : String} {more : List TemplateArg}
    (hwhole : (parts template.toList).flatMap chars = template.toList)
    (hargs : args.length = (takers (parts template.toList)).length) :
    (do (← b.format o template args).format o next more) =
      b.format o (template ++ next) (args ++ more) := by
  rw [format_eq b o (template ++ next), String.toList_append, parts_append _ _ hwhole,
    expansion_append o _ _ args more hargs, format_eq]
  cases expansion o (parts template.toList) args with
  | error breach => rfl
  | ok text =>
    show (b.pushText text).format o next more = _
    rw [format_eq]
    cases expansion o (parts next.toList) more with
    | error breach => rfl
    | ok appended => exact congrArg Except.ok (pushText_append b text appended)

end Outcomes

/-- Formatting is a breach if and only if some place does not hold an argument of the kind due
there, and the breach is that of the first such place. Otherwise what the parts of the template
stand for is appended, and nothing else, so a buffer that holds valid text goes on doing so. Two
templates formatted in turn come to one, if the first is nothing but its parts and is given as many
arguments as it takes. -/
theorem format_by_parts (b : LineBuffer) (o : TemplateOptions) (template : String)
    (args : List TemplateArg) :
    ((∃ breach, b.format o template args = .error breach) ↔
      ∃ (k : Nat) (kind : ArgKind), (takers (parts template.toList))[k]? = some kind ∧
        args[k]?.map TemplateArg.kind ≠ some kind) ∧
    (∀ breach, b.format o template args = .error breach →
      ∃ (k : Nat) (kind : ArgKind), (takers (parts template.toList))[k]? = some kind ∧
        args[k]?.map TemplateArg.kind ≠ some kind ∧
        (∀ j < k, args[j]?.map TemplateArg.kind = (takers (parts template.toList))[j]?) ∧
        breach = kind.breach args[k]?) ∧
    (∀ b', b.format o template args = .ok b' →
      b'.bytes = b.bytes ++ Utf8.encode (rendered o (parts template.toList) args) ∧
        (Utf8.IsValid b.bytes → Utf8.IsValid b'.bytes)) ∧
    ∀ next more, (parts template.toList).flatMap chars = template.toList →
      args.length = (takers (parts template.toList)).length →
      (do (← b.format o template args).format o next more) =
        b.format o (template ++ next) (args ++ more) := by
  refine ⟨⟨?_, ?_⟩, ?_, ?_, ?_⟩
  · rintro ⟨breach, hbreach⟩
    obtain ⟨k, kind, hdue, hmisfit, -, -⟩ := misfit?_eq_some (format_eq_error.mp hbreach)
    exact ⟨k, kind, hdue, hmisfit⟩
  · rintro ⟨k, kind, hdue, hmisfit⟩
    cases hfirst : misfit? (takers (parts template.toList)) args with
    | none => exact absurd ((misfit?_eq_none _ _).mp hfirst k kind hdue) hmisfit
    | some breach => exact ⟨breach, format_eq_error.mpr hfirst⟩
  · intro breach hbreach
    exact misfit?_eq_some (format_eq_error.mp hbreach)
  · intro b' hb'
    obtain ⟨-, rfl⟩ := format_eq_ok.mp hb'
    exact ⟨rfl, fun h => h.append (Utf8.isValid_encode _)⟩
  · intro next more hwhole hargs
    exact format_append hwhole hargs

/-- A template with quotes and a cut text, and one with a doubled and a final percent sign. -/
theorem format_by_parts_instance :
    let o : TemplateOptions := { level := .single .quote, limit := 3, quotes := .standard }
    (do (← empty.format o "%l%S%r" [.text "é%dx"]).format o "%%-%d%" [.int (-5), .text "surplus"]) =
        empty.format o "%l%S%r%%-%d%" [.text "é%dx", .int (-5), .text "surplus"] ∧
      empty.format o "%l%S%r%%-%d%" [.text "é%dx", .int (-5), .text "surplus"] =
        .ok (empty.pushText "`é%d...'--5") := by
  refine ⟨?_, ?_⟩
  · exact (format_by_parts empty _ "%l%S%r" [.text "é%dx"]).2.2.2 "%%-%d%"
      [.int (-5), .text "surplus"] (by decide) (by decide)
  · decide

example : parts "a%%d%".toList = [.literal 'a', .directive '%', .literal 'd'] := by decide

end LineBuffer

end MacroTrace
