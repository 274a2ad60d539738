import Mathlib
import MacroTrace.Proofs.JsonText
/-!
# Numbers out of range

A number may be too large to be read at all. The reader stops at the first such number, wherever it
stands and whatever comes behind it (`Json.read?_of_exceeds`).
-/

namespace MacroTrace

theorem Yields.bind_eq_none {α β : Type} {x : Option α} {a : α} {enough : Prop} {f : α → Option β}
    (h : Yields x a enough) (hf : f a = none) : x.bind f = none := by
  rcases h with rfl | ⟨rfl, -⟩
  · exact hf
  · rfl

namespace Json

/-- Where a text may come to a number. -/
inductive Place
  /-- At a value. -/
  | value
  /-- At the items of a list. -/
  | items
  /-- At the entries of a table. -/
  | entries

/-- A text that comes to a number that is too large. What stands before the number is in order. -/
inductive Exceeds : Place → List Char → Prop
  | number {t : NumberText} {text rest : List Char} (htext : SpellsNumber t text)
    (hvalue : t.value? = none) (hrest : EndsNumber rest) : Exceeds .value (text ++ rest)
  | blanks {before text : List Char} (hbefore : AllBlank before) (h : Exceeds .value text) :
    Exceeds .value (before ++ text)
  | list {text : List Char} (h : Exceeds .items text) : Exceeds .value ('[' :: text)
  | table {text : List Char} (h : Exceeds .entries text) : Exceeds .value ('\x7b' :: text)
  | firstItem {text : List Char} (h : Exceeds .value text) : Exceeds .items text
  | laterItem {d : Document} {text more : List Char} (htext : Spells (.item d) text)
    (h : Exceeds .items more) : Exceeds .items (text ++ ',' :: more)
  | firstEntry {key : String} {before body after text : List Char} (hbefore : AllBlank before)
    (hbody : SpellsText key body) (hafter : AllBlank after) (h : Exceeds .value text) :
    Exceeds .entries (before ++ '"' :: (body ++ '"' :: (after ++ ':' :: text)))
  | laterEntry {key : String} {d : Document} {text more : List Char}
    (htext : Spells (.entry key d) text) (h : Exceeds .entries more) :
    Exceeds .entries (text ++ ',' :: more)

theorem Exceeds.opens {place : Place} {text : List Char} (h : Exceeds place text) : Opens text := by
  induction h with
  | number htext hvalue => exact (opens_number htext).append _
  | blanks hbefore _ ih => exact ih.prepend hbefore
  | list | table => exact opens_cons (by decide) (by decide) (by decide) _
  | firstItem _ ih => exact ih
  | laterItem htext => exact htext.opens.append _
  | firstEntry hbefore => exact (opens_cons (by decide) (by decide) (by decide) _).prepend hbefore
  | laterEntry htext => exact htext.opens.append _

/-- The reader fails at a place of a text, with whatever room it has. -/
def Unread (text : List Char) : Place → Prop
  | .value => ∀ fuel depth, value fuel depth text = none
  | .items => ∀ fuel depth, elements fuel depth text = none
  | .entries => ∀ fuel depth, members fuel depth text = none

theorem unread_number {t : NumberText} {text rest : List Char} (htext : SpellsNumber t text)
    (hvalue : t.value? = none) (hrest : EndsNumber rest) : Unread (text ++ rest) .value := by
  intro fuel depth
  cases fuel with
  | zero => rfl
  | succ fuel =>
    obtain ⟨c, more, rfl, hc⟩ := htext.start
    rw [List.cons_append, value_number hc, ← List.cons_append, number_of_spells htext hrest, hvalue]
    rfl

theorem unread_list {text : List Char} (hopens : Opens text) (h : Unread text .items) :
    Unread ('[' :: text) .value := by
  -- Where the room does not even suffice to come to the number, the reader has failed before.
  intro fuel depth
  cases fuel with
  | zero => rfl
  | succ fuel =>
    cases depth with
    | zero => rfl
    | succ depth =>
      have hvalue := value_list hopens fuel depth []
      rw [List.append_nil, h fuel depth] at hvalue
      exact hvalue

theorem unread_table {text : List Char} (hopens : Opens text) (h : Unread text .entries) :
    Unread ('\x7b' :: text) .value := by
  intro fuel depth
  cases fuel with
  | zero => rfl
  | succ fuel =>
    cases depth with
    | zero => rfl
    | succ depth =>
      have hvalue := value_table hopens fuel depth []
      rw [List.append_nil, h fuel depth] at hvalue
      exact hvalue

theorem unread_laterItem {d : Document} {text more : List Char} (htext : Spells (.item d) text)
    (h : Unread more .items) : Unread (text ++ ',' :: more) .items := by
  intro fuel depth
  cases fuel with
  | zero => rfl
  | succ fuel =>
    obtain ⟨after, hafter, hvalue⟩ := htext.reads (',' :: more) (delimited_cons (by decide) more)
    rw [elements_succ]
    refine (hvalue fuel depth).bind_eq_none ?_
    simp only [afterItem, skipBlanks_append hafter,
      skipBlanks_cons (show isBlank ',' = Bool.false from rfl), h fuel depth]
    rfl

theorem unread_laterEntry {key : String} {d : Document} {text more : List Char}
    (htext : Spells (.entry key d) text) (h : Unread more .entries) :
    Unread (text ++ ',' :: more) .entries := by
  intro fuel depth
  cases fuel with
  | zero => rfl
  | succ fuel =>
    cases htext with
    | entry hbefore hbody hafter hitem =>
      obtain ⟨after, hafter', hvalue⟩ :=
        hitem.reads (',' :: more) (delimited_cons (by decide) more)
      simp only [List.append_assoc, List.cons_append]
      rw [members_entry hbefore hbody hafter]
      refine (hvalue fuel depth).bind_eq_none ?_
      simp only [afterEntry, skipBlanks_append hafter',
        skipBlanks_cons (show isBlank ',' = Bool.false from rfl), h fuel depth]
      rfl

theorem Exceeds.unread {place : Place} {text : List Char} (h : Exceeds place text) :
    Unread text place := by
  induction h with
  | number htext hvalue hrest => exact unread_number htext hvalue hrest
  | blanks hbefore _ ih => exact fun fuel depth => (value_append hbefore fuel depth _).trans (ih _ _)
  | list h ih => exact unread_list h.opens ih
  | table h ih => exact unread_table h.opens ih
  | firstItem _ ih =>
    intro fuel depth
    cases fuel with
    | zero => rfl
    | succ fuel => rw [elements_succ, ih fuel depth, Option.bind_none]
  | laterItem htext _ ih => exact unread_laterItem htext ih
  | firstEntry hbefore hbody hafter _ ih =>
    intro fuel depth
    cases fuel with
    | zero => rfl
    | succ fuel => rw [members_entry hbefore hbody hafter, ih fuel depth, Option.bind_none]
  | laterEntry htext _ ih => exact unread_laterEntry htext ih

/-- A text that comes to a number that is too large is not read. -/
theorem read?_of_exceeds {text : String} (h : Exceeds .value text.toList) : read? text = none := by
  rw [read?, h.unread]
  rfl

end Json

end MacroTrace
