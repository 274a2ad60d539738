import MacroTrace.Text.Columns
/-!
# Escape sequences in text

A text for a screen may hold escape sequences, which are not shown: those that set a colour, for
instance. `pieces` tells them from what is shown, and `columns` is the room that a text takes up.
-/

namespace MacroTrace

/-- A part of a text for a screen. -/
inductive Piece
  /-- A character that is shown. -/
  | shown (c : Char)
  /-- An escape sequence. -/
  | escape (text : List Char)
deriving DecidableEq, Repr

namespace Piece

/-- The text of a piece. -/
def text : Piece → List Char
  | shown c => [c]
  | escape text => text

/-- The character of a piece, if it is shown. -/
def char? : Piece → Option Char
  | shown c => some c
  | escape _ => none

/-- How many columns a piece takes up. -/
def columns : Piece → Nat
  | shown c => Columns.ofChar c
  | escape _ => 0

/-- How many characters there are up to the end of an operating system command, which is a bell or
an escape character with a backslash. -/
def commandLength : List Char → Nat
  | [] => 0
  | '\x07' :: _ => 1
  | '\x1b' :: '\\' :: _ => 2
  | _ :: rest => commandLength rest + 1

/-- How many characters an escape sequence has behind the escape character; it may be more than
there are if the sequence is not complete. -/
def escapeLength : List Char → Nat
  | '[' :: rest => 2 + (rest.takeWhile fun c => !('@' ≤ c && c ≤ '~')).length
  | ']' :: rest => 1 + commandLength rest
  | _ => 1

/-- The pieces of a text. -/
def ofText : List Char → List Piece
  | [] => []
  | c :: rest =>
    if c = '\x1b' then
      escape (c :: rest.take (escapeLength rest)) :: ofText (rest.drop (escapeLength rest))
    else shown c :: ofText rest
termination_by text => text.length
decreasing_by
  all_goals simp only [List.length_drop, List.length_cons]
  all_goals omega

/-- Nothing of a text is lost in its pieces. -/
theorem flatMap_text_ofText (text : List Char) : (ofText text).flatMap Piece.text = text := by
  fun_induction ofText text with
  | case1 => rfl
  | case2 rest ih => simp [Piece.text, ih]
  | case3 c rest _ ih => simp [Piece.text, ih]

end Piece

/-- How many columns a text takes up on a screen. -/
def columns (text : List Char) : Nat := ((Piece.ofText text).map Piece.columns).foldl (· + ·) 0

end MacroTrace
