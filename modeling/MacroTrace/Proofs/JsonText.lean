import Mathlib
import MacroTrace.Proofs.JsonScalars
/-!
# Texts in JSON

The grammar of JSON as a relation between what is written and the texts in which it may be written
(`Json.Spells`), with blanks between any two parts. The reader takes each text for what it spells,
unless it is nested too deep, and for nothing else (`Json.read?_of_spells`).
-/

namespace MacroTrace

/-! ## Reading with limits -/

/-- What is read is `a` or nothing at all, and it is `a` if there is enough room. -/
def Yields {α : Type} (x : Option α) (a : α) (enough : Prop) : Prop :=
  x = some a ∨ x = none ∧ ¬ enough

namespace Yields

variable {α β : Type} {x : Option α} {a b : α} {enough room : Prop}

theorem of_eq (h : x = some a) : Yields x a enough := .inl h

theorem nothing (h : ¬ enough) : Yields none a enough := .inr ⟨rfl, h⟩

theorem eq_some (h : Yields x a enough) (henough : enough) : x = some a :=
  h.resolve_right fun hnone => hnone.2 henough

theorem unique (h : Yields x a enough) (hx : x = some b) : b = a := by
  rcases h with hsome | ⟨hnone, -⟩
  · exact Option.some.inj (hx.symm.trans hsome)
  · rw [hnone] at hx
    cases hx

theorem imp (h : Yields x a enough) (hroom : room → enough) : Yields x a room :=
  h.imp_right fun hnone => ⟨hnone.1, fun henough => hnone.2 (hroom henough)⟩

theorem bind {f : α → Option β} {c : β} (h : Yields x a enough) (hf : Yields (f a) c enough) :
    Yields (x.bind f) c enough := by
  rcases h with rfl | ⟨rfl, hnot⟩
  · exact hf
  · exact .nothing hnot

end Yields

/-! ## Nesting -/

namespace Document

mutual

/-- How deep lists and tables are nested in a document. -/
def nesting : Document → Nat
  | .list items => nestingItems items + 1
  | .table entries => nestingEntries entries + 1
  | _ => 0

/-- The same for the items of a list. -/
def nestingItems : List Document → Nat
  | [] => 0
  | d :: ds => max d.nesting (nestingItems ds)

/-- The same for the entries of a table; its keys do not count. -/
def nestingEntries : List (Document × Document) → Nat
  | [] => 0
  | (_, d) :: entries => max d.nesting (nestingEntries entries)

end

theorem nestingItems_le {ds : List Document} {n : Nat} (h : ∀ d ∈ ds, d.nesting ≤ n) :
    nestingItems ds ≤ n := by
  induction ds with
  | nil => exact Nat.zero_le n
  | cons d ds ih =>
    obtain ⟨hd, hds⟩ := List.forall_mem_cons.mp h
    rw [nestingItems]
    exact Nat.max_le.mpr ⟨hd, ih hds⟩

theorem nestingEntries_le {entries : List (Document × Document)} {n : Nat}
    (h : ∀ entry ∈ entries, entry.2.nesting ≤ n) : nestingEntries entries ≤ n := by
  induction entries with
  | nil => exact Nat.zero_le n
  | cons entry entries ih =>
    obtain ⟨hentry, hentries⟩ := List.forall_mem_cons.mp h
    rw [nestingEntries]
    exact Nat.max_le.mpr ⟨hentry, ih hentries⟩

end Document

namespace Json

/-! ## Values -/

/-- The parts of a text in JSON. -/
inductive Part
  /-- A value. -/
  | value (d : Document)
  /-- A value with blanks around it. -/
  | item (d : Document)
  /-- The items of a list, of which there is at least one. -/
  | items (ds : List Document)
  /-- An entry of a table. -/
  | entry (key : String) (d : Document)
  /-- The entries of a table, of which there is at least one. -/
  | entries (entries : List (Document × Document))

/-- The texts in which a part may be written. -/
inductive Spells : Part → List Char → Prop
  | null : Spells (.value .null) ['n', 'u', 'l', 'l']
  | true : Spells (.value (.bool true)) ['t', 'r', 'u', 'e']
  | false : Spells (.value (.bool false)) ['f', 'a', 'l', 's', 'e']
  | number {t : NumberText} {d : Document} {text : List Char} (htext : SpellsNumber t text)
    (hvalue : t.value? = some d) : Spells (.value d) text
  | text {s : String} {body : List Char} (hbody : SpellsText s body) :
    Spells (.value (.text s)) ('"' :: (body ++ ['"']))
  | emptyList {blanks : List Char} (hblanks : AllBlank blanks) :
    Spells (.value (.list [])) ('[' :: (blanks ++ [']']))
  | list {ds : List Document} {body : List Char} (hbody : Spells (.items ds) body) :
    Spells (.value (.list ds)) ('[' :: (body ++ [']']))
  | emptyTable {blanks : List Char} (hblanks : AllBlank blanks) :
    Spells (.value (.table [])) ('\x7b' :: (blanks ++ ['\x7d']))
  | table {entries : List (Document × Document)} {body : List Char}
    (hbody : Spells (.entries entries) body) :
    Spells (.value (.table entries)) ('\x7b' :: (body ++ ['\x7d']))
  | item {d : Document} {before text after : List Char} (hbefore : AllBlank before)
    (htext : Spells (.value d) text) (hafter : AllBlank after) :
    Spells (.item d) (before ++ (text ++ after))
  | lastItem {d : Document} {text : List Char} (htext : Spells (.item d) text) :
    Spells (.items [d]) text
  | moreItems {d : Document} {ds : List Document} {text more : List Char}
    (htext : Spells (.item d) text) (hmore : Spells (.items ds) more) :
    Spells (.items (d :: ds)) (text ++ ',' :: more)
  | entry {key : String} {d : Document} {before body after text : List Char}
    (hbefore : AllBlank before) (hbody : SpellsText key body) (hafter : AllBlank after)
    (htext : Spells (.item d) text) :
    Spells (.entry key d) (before ++ '"' :: (body ++ '"' :: (after ++ ':' :: text)))
  | lastEntry {key : String} {d : Document} {text : List Char}
    (htext : Spells (.entry key d) text) : Spells (.entries [(.text key, d)]) text
  | moreEntries {key : String} {d : Document} {entries : List (Document × Document)}
    {text more : List Char} (htext : Spells (.entry key d) text)
    (hmore : Spells (.entries entries) more) :
    Spells (.entries ((.text key, d) :: entries)) (text ++ ',' :: more)

/-- Behind its blanks a text starts with something that closes nothing. -/
def Opens (text : List Char) : Prop :=
  ∃ c, c ≠ ']' ∧ c ≠ '\x7d' ∧ ∀ rest, ∃ more, skipBlanks (text ++ rest) = c :: more

theorem opens_cons {c : Char} (hblank : isBlank c = false) (hlist : c ≠ ']') (htable : c ≠ '\x7d')
    (text : List Char) : Opens (c :: text) :=
  ⟨c, hlist, htable, fun _ => ⟨_, skipBlanks_cons hblank _⟩⟩

theorem Opens.append {text : List Char} (h : Opens text) (more : List Char) :
    Opens (text ++ more) := by
  obtain ⟨c, hlist, htable, hskip⟩ := h
  refine ⟨c, hlist, htable, fun rest => ?_⟩
  rw [List.append_assoc]
  exact hskip _

theorem Opens.prepend {text : List Char} (h : Opens text) {before : List Char}
    (hbefore : AllBlank before) : Opens (before ++ text) := by
  obtain ⟨c, hlist, htable, hskip⟩ := h
  refine ⟨c, hlist, htable, fun rest => ?_⟩
  rw [List.append_assoc, skipBlanks_append hbefore]
  exact hskip _

theorem opens_number {t : NumberText} {text : List Char} (h : SpellsNumber t text) :
    Opens text := by
  obtain ⟨c, more, rfl, hc⟩ := h.start
  refine opens_cons hc.isBlank_eq ?_ ?_ more
  all_goals
    rintro rfl
    exact absurd hc (by unfold StartsNumber; decide)

theorem Spells.opens {part : Part} {text : List Char} (h : Spells part text) : Opens text := by
  induction h with
  | null | true | false | text | emptyList | list | emptyTable | table =>
    exact opens_cons (by decide) (by decide) (by decide) _
  | number htext => exact opens_number htext
  | item hbefore _ _ ih => exact (ih.append _).prepend hbefore
  | lastItem _ ih => exact ih
  | moreItems _ _ ih => exact ih.append _
  | entry hbefore =>
    exact (opens_cons (by decide) (by decide) (by decide) _).prepend hbefore
  | lastEntry _ ih => exact ih
  | moreEntries _ _ ih => exact ih.append _

/-! ## Reading what is spelled -/

/-- What may follow a value: nothing, a blank, or what separates and closes. -/
def Delimited (rest : List Char) : Prop :=
  ∀ c, rest.head? = some c → isBlank c = true ∨ c = ',' ∨ c = ']' ∨ c = '\x7d'

theorem Delimited.endsNumber {rest : List Char} (h : Delimited rest) : EndsNumber rest := by
  intro c hc
  rcases h c hc with hblank | rfl | rfl | rfl
  · simp only [isBlank, Bool.or_eq_true, decide_eq_true_eq] at hblank
    rcases hblank with ((rfl | rfl) | rfl) | rfl <;> decide
  all_goals decide

/-! Each part of the reader by itself, so that the equations below hold by computation. -/

/-- Goes on behind an opening bracket. -/
def inList (fuel depth : Nat) (text : List Char) : Option (Document × List Char) :=
  match text with
  | ']' :: rest => some (.list [], rest)
  | text => (elements fuel depth text).bind fun read => some (.list read.1, read.2)

/-- Goes on behind an opening brace. -/
def inTable (fuel depth : Nat) (text : List Char) : Option (Document × List Char) :=
  match text with
  | '\x7d' :: rest => some (.table [], rest)
  | text => (members fuel depth text).bind fun read => some (.table read.1, read.2)

/-- Goes on behind an item of a list. -/
def afterItem (fuel depth : Nat) (item : Document × List Char) :
    Option (List Document × List Char) :=
  match skipBlanks item.2 with
  | ',' :: rest => (elements fuel depth rest).bind fun read => some (item.1 :: read.1, read.2)
  | ']' :: rest => some ([item.1], rest)
  | _ => none

/-- Goes on behind an entry of a table. -/
def afterEntry (fuel depth : Nat) (key : String) (item : Document × List Char) :
    Option (List (Document × Document) × List Char) :=
  match skipBlanks item.2 with
  | ',' :: rest =>
    (members fuel depth rest).bind fun read => some ((.text key, item.1) :: read.1, read.2)
  | '\x7d' :: rest => some ([(.text key, item.1)], rest)
  | _ => none

/-- Goes on behind the key of an entry. -/
def afterKey (fuel depth : Nat) (key : List Char × List Char) :
    Option (List (Document × Document) × List Char) :=
  match skipBlanks key.2 with
  | ':' :: rest => (value fuel depth rest).bind (afterEntry fuel depth (String.ofList key.1))
  | _ => none

theorem value_zero (depth : Nat) (text : List Char) : value 0 depth text = none := rfl

theorem elements_zero (depth : Nat) (text : List Char) : elements 0 depth text = none := rfl

theorem members_zero (depth : Nat) (text : List Char) : members 0 depth text = none := rfl

theorem value_quote (fuel depth : Nat) (rest : List Char) :
    value (fuel + 1) depth ('"' :: rest) = (characters (rest.length + 1) rest).bind fun read =>
      some (.text (String.ofList read.1), read.2) := rfl

theorem value_bracket (fuel depth : Nat) (rest : List Char) :
    value (fuel + 1) (depth + 1) ('[' :: rest) = inList fuel depth (skipBlanks rest) := rfl

theorem value_brace (fuel depth : Nat) (rest : List Char) :
    value (fuel + 1) (depth + 1) ('\x7b' :: rest) = inTable fuel depth (skipBlanks rest) := rfl

theorem elements_succ (fuel depth : Nat) (text : List Char) :
    elements (fuel + 1) depth text = (value fuel depth text).bind (afterItem fuel depth) := rfl

theorem members_quote (fuel depth : Nat) (rest : List Char) :
    members (fuel + 1) depth ('"' :: rest) =
      (characters (rest.length + 1) rest).bind (afterKey fuel depth) := rfl

theorem value_number {c : Char} (h : StartsNumber c) (fuel depth : Nat) (more : List Char) :
    value (fuel + 1) depth (c :: more) = number (c :: more) := by
  rw [value.eq_def]
  simp only [skipBlanks_cons h.isBlank_eq]
  split
  case h_7 => rfl
  all_goals
    rename_i heq
    cases heq
    exact absurd h (by unfold StartsNumber; decide)

/-! The reader does not mind blanks in front. -/

theorem value_skipBlanks (fuel depth : Nat) (text : List Char) :
    value fuel depth (skipBlanks text) = value fuel depth text := by
  cases fuel with
  | zero => rfl
  | succ fuel => rw [value.eq_def, value.eq_def, skipBlanks_skipBlanks]

theorem value_append {before : List Char} (h : AllBlank before) (fuel depth : Nat)
    (text : List Char) : value fuel depth (before ++ text) = value fuel depth text := by
  rw [← value_skipBlanks, skipBlanks_append h, value_skipBlanks]

theorem elements_skipBlanks (fuel depth : Nat) (text : List Char) :
    elements fuel depth (skipBlanks text) = elements fuel depth text := by
  cases fuel with
  | zero => rfl
  | succ fuel => rw [elements_succ, elements_succ, value_skipBlanks]

theorem members_skipBlanks (fuel depth : Nat) (text : List Char) :
    members fuel depth (skipBlanks text) = members fuel depth text := by
  cases fuel with
  | zero => rfl
  | succ fuel => rw [members.eq_def, members.eq_def, skipBlanks_skipBlanks]

/-! Texts, lists, tables and entries. -/

theorem value_text {s : String} {body : List Char} (h : SpellsText s body) (fuel depth : Nat)
    (rest : List Char) :
    value (fuel + 1) depth ('"' :: (body ++ '"' :: rest)) = some (.text s, rest) := by
  rw [value_quote, characters_of_spells h, Option.bind_some, String.ofList_toList]

theorem value_list {text : List Char} (h : Opens text) (fuel depth : Nat) (rest : List Char) :
    value (fuel + 1) (depth + 1) ('[' :: (text ++ rest)) =
      (elements fuel depth (text ++ rest)).bind fun read => some (.list read.1, read.2) := by
  obtain ⟨c, hlist, -, hskip⟩ := h
  obtain ⟨more, hmore⟩ := hskip rest
  rw [value_bracket, ← elements_skipBlanks, hmore, inList.eq_def]
  split
  · rename_i heq
    cases heq
    exact absurd rfl hlist
  · rfl

theorem value_table {text : List Char} (h : Opens text) (fuel depth : Nat) (rest : List Char) :
    value (fuel + 1) (depth + 1) ('\x7b' :: (text ++ rest)) =
      (members fuel depth (text ++ rest)).bind fun read => some (.table read.1, read.2) := by
  obtain ⟨c, -, htable, hskip⟩ := h
  obtain ⟨more, hmore⟩ := hskip rest
  rw [value_brace, ← members_skipBlanks, hmore, inTable.eq_def]
  split
  · rename_i heq
    cases heq
    exact absurd rfl htable
  · rfl

/-- After the key of an entry comes its value, and then the other entries or the end. -/
theorem members_entry {key : String} {before body after : List Char} (hbefore : AllBlank before)
    (hbody : SpellsText key body) (hafter : AllBlank after) (fuel depth : Nat) (rest : List Char) :
    members (fuel + 1) depth (before ++ '"' :: (body ++ '"' :: (after ++ ':' :: rest))) =
      (value fuel depth rest).bind (afterEntry fuel depth key) := by
  rw [← members_skipBlanks, skipBlanks_append hbefore, skipBlanks_cons rfl, members_quote,
    characters_of_spells hbody, Option.bind_some]
  simp only [afterKey, skipBlanks_append hafter,
    skipBlanks_cons (show isBlank ':' = Bool.false from rfl), String.ofList_toList]

theorem word_append (w : List Char) (d : Document) (rest : List Char) :
    word w d (w ++ rest) = some (d, rest) := by
  simp [word]

/-- The reader, with room for a text that spells a part, takes it for that part and stops behind
it; with less room it may fail. Each list and table costs a level of nesting. -/
def Reads : Part → List Char → Prop
  | .value d, text => ∀ fuel depth rest, EndsNumber rest →
      Yields (value fuel depth (text ++ rest)) (d, rest)
        (2 * text.length ≤ fuel ∧ d.nesting ≤ depth)
  | .item d, text => ∀ rest, Delimited rest → ∃ after, AllBlank after ∧ ∀ fuel depth,
      Yields (value fuel depth (text ++ rest)) (d, after ++ rest)
        (2 * text.length ≤ fuel ∧ d.nesting ≤ depth)
  | .items ds, text => ∀ fuel depth rest,
      Yields (elements fuel depth (text ++ ']' :: rest)) (ds, rest)
        (2 * text.length < fuel ∧ Document.nestingItems ds ≤ depth)
  | .entry key d, text =>
      (∀ fuel depth rest, Yields (members (fuel + 1) depth (text ++ '\x7d' :: rest))
        ([(.text key, d)], rest) (2 * text.length ≤ fuel ∧ d.nesting ≤ depth)) ∧
      ∀ fuel depth rest entries rest' enough,
        Yields (members fuel depth rest) (entries, rest') enough →
        Yields (members (fuel + 1) depth (text ++ ',' :: rest)) ((.text key, d) :: entries, rest')
          (2 * text.length ≤ fuel ∧ d.nesting ≤ depth ∧ enough)
  | .entries entries, text => ∀ fuel depth rest,
      Yields (members fuel depth (text ++ '\x7d' :: rest)) (entries, rest)
        (2 * text.length < fuel ∧ Document.nestingEntries entries ≤ depth)

theorem delimited_cons {c : Char} (h : c = ',' ∨ c = ']' ∨ c = '\x7d') (rest : List Char) :
    Delimited (c :: rest) := by
  intro c' hc
  cases hc
  exact .inr h

theorem Delimited.append {rest : List Char} (h : Delimited rest) {before : List Char}
    (hbefore : AllBlank before) : Delimited (before ++ rest) := by
  intro c hc
  cases before with
  | nil => exact h c hc
  | cons b before =>
    cases hc
    exact .inl (hbefore _ List.mem_cons_self)

/-- A scalar needs room for itself only. -/
theorem reads_scalar {d : Document} {text : List Char} (hpos : 0 < text.length)
    (h : ∀ fuel depth rest, EndsNumber rest →
      value (fuel + 1) depth (text ++ rest) = some (d, rest)) : Reads (.value d) text := by
  intro fuel depth rest hrest
  cases fuel with
  | zero =>
    rw [value_zero]
    exact .nothing (by omega)
  | succ fuel => exact .of_eq (h fuel depth rest hrest)

/-- A list or a table needs a level of nesting. -/
theorem reads_nested {d : Document} {text : List Char} (levels : Nat)
    (hnesting : d.nesting = levels + 1) (hpos : 0 < text.length)
    (hflat : ∀ fuel rest, value (fuel + 1) 0 (text ++ rest) = none)
    (h : ∀ fuel depth rest, Yields (value (fuel + 1) (depth + 1) (text ++ rest)) (d, rest)
      (2 * text.length ≤ fuel + 1 ∧ levels ≤ depth)) : Reads (.value d) text := by
  intro fuel depth rest _
  rw [hnesting]
  cases fuel with
  | zero =>
    rw [value_zero]
    exact .nothing (by omega)
  | succ fuel =>
    cases depth with
    | zero =>
      rw [hflat]
      exact .nothing (by omega)
    | succ depth => exact (h fuel depth rest).imp (by omega)

theorem reads_emptyList {blanks : List Char} (h : AllBlank blanks) :
    Reads (.value (.list [])) ('[' :: (blanks ++ [']'])) := by
  refine reads_nested 0 rfl (Nat.succ_pos _) (fun _ _ => rfl) fun fuel depth rest => .of_eq ?_
  rw [List.cons_append, List.append_assoc, value_bracket, skipBlanks_append h]
  rfl

theorem reads_list {ds : List Document} {body : List Char} (hopens : Opens body)
    (h : Reads (.items ds) body) : Reads (.value (.list ds)) ('[' :: (body ++ [']'])) := by
  refine reads_nested (Document.nestingItems ds) (by rw [Document.nesting])
    (Nat.succ_pos _) (fun _ _ => rfl) fun fuel depth rest => ?_
  rw [List.cons_append, List.append_assoc, value_list hopens]
  refine ((h fuel depth rest).imp ?_).bind (.of_eq rfl)
  simp only [List.length_cons, List.length_append, List.length_nil]
  omega

theorem reads_emptyTable {blanks : List Char} (h : AllBlank blanks) :
    Reads (.value (.table [])) ('\x7b' :: (blanks ++ ['\x7d'])) := by
  refine reads_nested 0 rfl (Nat.succ_pos _) (fun _ _ => rfl) fun fuel depth rest => .of_eq ?_
  rw [List.cons_append, List.append_assoc, value_brace, skipBlanks_append h]
  rfl

theorem reads_table {entries : List (Document × Document)} {body : List Char} (hopens : Opens body)
    (h : Reads (.entries entries) body) :
    Reads (.value (.table entries)) ('\x7b' :: (body ++ ['\x7d'])) := by
  refine reads_nested (Document.nestingEntries entries) (by rw [Document.nesting])
    (Nat.succ_pos _) (fun _ _ => rfl) fun fuel depth rest => ?_
  rw [List.cons_append, List.append_assoc, value_table hopens]
  refine ((h fuel depth rest).imp ?_).bind (.of_eq rfl)
  simp only [List.length_cons, List.length_append, List.length_nil]
  omega

theorem reads_item {d : Document} {before text after : List Char} (hbefore : AllBlank before)
    (hafter : AllBlank after) (h : Reads (.value d) text) :
    Reads (.item d) (before ++ (text ++ after)) := by
  intro rest hrest
  refine ⟨after, hafter, fun fuel depth => ?_⟩
  rw [List.append_assoc, value_append hbefore, List.append_assoc]
  refine (h fuel depth _ (hrest.append hafter).endsNumber).imp ?_
  simp only [List.length_append]
  omega

theorem reads_lastItem {d : Document} {text : List Char} (h : Reads (.item d) text) :
    Reads (.items [d]) text := by
  intro fuel depth rest
  cases fuel with
  | zero =>
    rw [elements_zero]
    exact .nothing (by omega)
  | succ fuel =>
    obtain ⟨after, hafter, hvalue⟩ := h (']' :: rest) (delimited_cons (by decide) rest)
    rw [elements_succ]
    refine ((hvalue fuel depth).imp ?_).bind (.of_eq ?_)
    · simp only [Document.nestingItems]
      omega
    · simp only [afterItem, skipBlanks_append hafter,
        skipBlanks_cons (show isBlank ']' = Bool.false from rfl)]

theorem reads_moreItems {d : Document} {ds : List Document} {text more : List Char}
    (h : Reads (.item d) text) (hmore : Reads (.items ds) more) :
    Reads (.items (d :: ds)) (text ++ ',' :: more) := by
  intro fuel depth rest
  rw [List.append_assoc, List.cons_append, List.length_append, List.length_cons,
    Document.nestingItems]
  cases fuel with
  | zero =>
    rw [elements_zero]
    exact .nothing (by omega)
  | succ fuel =>
    obtain ⟨after, hafter, hvalue⟩ :=
      h (',' :: (more ++ ']' :: rest)) (delimited_cons (by decide) _)
    rw [elements_succ]
    refine ((hvalue fuel depth).imp (by omega)).bind ?_
    simp only [afterItem, skipBlanks_append hafter,
      skipBlanks_cons (show isBlank ',' = Bool.false from rfl)]
    exact ((hmore fuel depth rest).imp (by omega)).bind (.of_eq rfl)

theorem reads_entry {key : String} {d : Document} {before body after text : List Char}
    (hbefore : AllBlank before) (hbody : SpellsText key body) (hafter : AllBlank after)
    (h : Reads (.item d) text) :
    Reads (.entry key d) (before ++ '"' :: (body ++ '"' :: (after ++ ':' :: text))) := by
  have hroom : 2 * text.length ≤
      2 * (before ++ '"' :: (body ++ '"' :: (after ++ ':' :: text))).length := by
    simp only [List.length_append, List.length_cons]
    omega
  refine ⟨fun fuel depth rest => ?_, fun fuel depth rest entries rest' enough hentries => ?_⟩
  · obtain ⟨after', hafter', hvalue⟩ := h ('\x7d' :: rest) (delimited_cons (by decide) rest)
    simp only [List.append_assoc, List.cons_append]
    rw [members_entry hbefore hbody hafter]
    refine ((hvalue fuel depth).imp (by omega)).bind (.of_eq ?_)
    simp only [afterEntry, skipBlanks_append hafter',
      skipBlanks_cons (show isBlank '\x7d' = Bool.false from rfl)]
  · obtain ⟨after', hafter', hvalue⟩ := h (',' :: rest) (delimited_cons (by decide) rest)
    simp only [List.append_assoc, List.cons_append]
    rw [members_entry hbefore hbody hafter]
    refine ((hvalue fuel depth).imp (by omega)).bind ?_
    simp only [afterEntry, skipBlanks_append hafter',
      skipBlanks_cons (show isBlank ',' = Bool.false from rfl)]
    exact (hentries.imp fun h => h.2.2).bind (.of_eq rfl)

theorem reads_lastEntry {key : String} {d : Document} {text : List Char}
    (h : Reads (.entry key d) text) : Reads (.entries [(.text key, d)]) text := by
  intro fuel depth rest
  cases fuel with
  | zero =>
    rw [members_zero]
    exact .nothing (by omega)
  | succ fuel =>
    refine (h.1 fuel depth rest).imp ?_
    simp only [Document.nestingEntries]
    omega

theorem reads_moreEntries {key : String} {d : Document} {entries : List (Document × Document)}
    {text more : List Char} (h : Reads (.entry key d) text)
    (hmore : Reads (.entries entries) more) :
    Reads (.entries ((.text key, d) :: entries)) (text ++ ',' :: more) := by
  intro fuel depth rest
  rw [List.append_assoc, List.cons_append, List.length_append, List.length_cons,
    Document.nestingEntries]
  cases fuel with
  | zero =>
    rw [members_zero]
    exact .nothing (by omega)
  | succ fuel => exact (h.2 fuel depth _ _ _ _ (hmore fuel depth rest)).imp (by omega)

/-- Whatever a text spells, the reader takes it for that. -/
theorem Spells.reads {part : Part} {text : List Char} (h : Spells part text) : Reads part text := by
  induction h with
  | null =>
    refine reads_scalar (by decide) fun fuel depth rest _ => ?_
    exact word_append ['u', 'l', 'l'] .null rest
  | true =>
    refine reads_scalar (by decide) fun fuel depth rest _ => ?_
    exact word_append ['r', 'u', 'e'] (.bool Bool.true) rest
  | false =>
    refine reads_scalar (by decide) fun fuel depth rest _ => ?_
    exact word_append ['a', 'l', 's', 'e'] (.bool Bool.false) rest
  | @number t d text htext hvalue =>
    obtain ⟨c, more, rfl, hc⟩ := htext.start
    refine reads_scalar (Nat.succ_pos _) fun fuel depth rest hrest => ?_
    rw [List.cons_append, value_number hc, ← List.cons_append, number_of_spells htext hrest, hvalue]
    rfl
  | text hbody =>
    refine reads_scalar (Nat.succ_pos _) fun fuel depth rest _ => ?_
    rw [List.cons_append, List.append_assoc]
    exact value_text hbody fuel depth rest
  | emptyList hblanks => exact reads_emptyList hblanks
  | list hbody ih => exact reads_list hbody.opens ih
  | emptyTable hblanks => exact reads_emptyTable hblanks
  | table hbody ih => exact reads_table hbody.opens ih
  | item hbefore _ hafter ih => exact reads_item hbefore hafter ih
  | lastItem _ ih => exact reads_lastItem ih
  | moreItems _ _ ihtext ihmore => exact reads_moreItems ihtext ihmore
  | entry hbefore hbody hafter _ ih => exact reads_entry hbefore hbody hafter ih
  | lastEntry _ ih => exact reads_lastEntry ih
  | moreEntries _ _ ihtext ihmore => exact reads_moreEntries ihtext ihmore

/-- A text that spells a value, blanks around it, is read as that value, unless the value is nested
too deep; it is then not read at all. -/
theorem read?_of_spells {d : Document} {text : String} (h : Spells (.item d) text.toList) :
    Yields (read? text) d (d.nesting ≤ maxDepth) := by
  obtain ⟨after, hafter, hvalue⟩ := h.reads [] (fun c hc => nomatch hc)
  rw [List.append_nil, List.append_nil] at hvalue
  refine ((hvalue _ _).imp fun hnesting => ⟨?_, hnesting⟩).bind (.of_eq ?_)
  · rw [String.length_toList]
    exact Nat.le_add_right _ 2
  · simp only [skipBlanks_allBlank hafter]
    rfl

theorem Spells.item_bare {d : Document} {text : List Char} (h : Spells (.value d) text) :
    Spells (.item d) text := by
  have hitem := Spells.item allBlank_nil h allBlank_nil
  rwa [List.nil_append, List.append_nil] at hitem

end Json

end MacroTrace
