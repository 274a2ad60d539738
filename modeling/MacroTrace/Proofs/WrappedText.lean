import Mathlib.Data.List.TakeWhile
import MacroTrace.Text.Wrap
/-!
# Wrapping loses no text

A text that is laid out in lines is cut three times: into words, at the hyphens in them, and where a
word does not fit on a line. Every cut keeps the text, and so do the words on their lines. Only the
spaces at the end of a line go, so that the text can be told from its lines and how many spaces
stood behind each.
-/

namespace MacroTrace

namespace Word

/-- A word with the spaces behind it. -/
def whole (w : Word) : List Char := w.text ++ List.replicate w.spaces ' '

/-- Spaces taken off the end of a text are still there as a number. -/
theorem whole_ofText (text : List Char) : (ofText text).whole = text := by
  have hspaces : (text.reverse.takeWhile (· = ' ')) =
      List.replicate (text.reverse.takeWhile (· = ' ')).length ' ' := by
    refine List.eq_replicate_iff.mpr ⟨rfl, fun c hc => ?_⟩
    have hspace := List.mem_takeWhile_imp hc
    exact of_decide_eq_true hspace
  have hcut := List.takeWhile_append_dropWhile (p := (· = ' ')) (l := text.reverse)
  rw [hspaces] at hcut
  unfold whole ofText
  rw [← List.reverse_inj, List.reverse_append, List.reverse_replicate, List.reverse_reverse]
  exact hcut

theorem flatMap_whole_ofParts (parts : List (List Char)) (spaces : Nat) :
    (ofParts parts spaces).flatMap whole = parts.flatten ++ List.replicate spaces ' ' := by
  fun_induction ofParts parts spaces with
  | case1 => simp [whole]
  | case2 last => simp [whole]
  | case3 part rest hrest ih =>
    rw [List.flatMap_cons, ih, List.flatten_cons, List.append_assoc]
    simp [whole]

theorem flatten_cutHyphens (previous : Char) (text part : List Char) :
    (cutHyphens previous text part).flatten = part.reverse ++ text := by
  fun_induction cutHyphens previous text part with
  | case1 => simp
  | case2 previous c rest part _ ih => simp [ih]
  | case3 previous c rest part _ ih => simp [ih]

theorem flatMap_whole_hyphenated (w : Word) : w.hyphenated.flatMap whole = w.whole := by
  unfold hyphenated
  rw [flatMap_whole_ofParts, flatten_cutHyphens, List.reverse_nil, List.nil_append]
  rfl

theorem flatMap_whole_sliced (limit : Nat) (w : Word) :
    (w.sliced limit).flatMap whole = w.whole := by
  unfold sliced
  split
  · rw [flatMap_whole_ofParts, flatten_slices, List.reverse_nil, List.nil_append,
      Piece.flatMap_text_ofText]
    rfl
  · simp

end Word

/-- The words of a text with the spaces behind them are the text. -/
theorem flatMap_whole_wordsOf (limit : Nat) (text : List Char) :
    (wordsOf limit text).flatMap Word.whole = text := by
  have hwords (starts : List Bool) :
      ((cutWords (Piece.ofText text) starts []).map Word.ofText).flatMap Word.whole = text := by
    rw [List.flatMap_map]
    simp only [Word.whole_ofText]
    rw [List.flatMap_id', flatten_cutWords, List.reverse_nil, List.nil_append,
      Piece.flatMap_text_ofText]
  unfold wordsOf
  simp only [List.flatMap_assoc, Word.flatMap_whole_sliced, Word.flatMap_whole_hyphenated]
  exact hwords _

/-- The words on the lines are the words there are, in their order. -/
theorem flatten_fillLines (limit : Nat) (line : List Word) (used : Nat) (words : List Word) :
    (fillLines limit line used words).flatten = line ++ words := by
  fun_induction fillLines limit line used words with
  | case1 line => simp
  | case2 line used w rest _ ih => simp [ih]
  | case3 line used w rest _ ih => simp [ih]

/-- How many spaces a line would end in. -/
def endSpaces (line : List Word) : Nat := (line.getLast?.map Word.spaces).getD 0

theorem lineText_append_endSpaces (line : List Word) :
    lineText line ++ List.replicate (endSpaces line) ' ' = line.flatMap Word.whole := by
  fun_induction lineText line with
  | case1 => rfl
  | case2 last => simp [endSpaces, Word.whole]
  | case3 w rest hrest ih =>
    have hend : endSpaces (w :: rest) = endSpaces rest := by
      cases rest with
      | nil => exact absurd rfl hrest
      | cons next rest => rfl
    rw [hend, List.append_assoc, ih]
    rfl

/-- The lines that a line of text is laid out in, each with the number of spaces behind it. -/
def blockOf (limit : Nat) (line : List Char) : List (List Char × Nat) :=
  (fillLines limit [] 0 (wordsOf limit line)).map fun words => (lineText words, endSpaces words)

theorem wrap_eq (limit : Nat) (text : String) :
    wrap limit text = ((text.toList.splitOn '\n').flatMap (blockOf limit)).map
      fun (line, _) => String.ofList line := by
  unfold wrap blockOf
  rw [List.map_flatMap]
  simp only [List.map_map, Function.comp_def]

theorem whole_blockOf (limit : Nat) (line : List Char) :
    (blockOf limit line).flatMap (fun (text, spaces) => text ++ List.replicate spaces ' ') =
      line := by
  unfold blockOf
  rw [List.flatMap_map]
  simp only [lineText_append_endSpaces]
  have hline : (fillLines limit [] 0 (wordsOf limit line)).flatten.flatMap Word.whole = line := by
    rw [flatten_fillLines, List.nil_append, flatMap_whole_wordsOf]
  rw [← List.flatMap_id, List.flatMap_assoc] at hline
  exact hline

/-- Wrapping loses no text. Every line of the text becomes a block of lines, and it is those lines
with as many spaces behind each as stood there. -/
theorem wrap_loses_nothing (limit : Nat) (text : String) :
    ∃ blocks : List (List (List Char × Nat)),
      wrap limit text = blocks.flatten.map (fun (line, _) => String.ofList line) ∧
      blocks.map (·.flatMap fun (line, spaces) => line ++ List.replicate spaces ' ') =
        text.toList.splitOn '\n' := by
  refine ⟨(text.toList.splitOn '\n').map (blockOf limit), wrap_eq limit text, ?_⟩
  rw [List.map_map]
  exact List.map_id'' (whole_blockOf limit) _

end MacroTrace
