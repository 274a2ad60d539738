import MacroTrace.Text.Alphanumeric
import MacroTrace.Text.BreakPlace
import MacroTrace.Text.Escape
/-!
# Breaking text into lines

`wrap` lays a text out in lines of a given width. A line may end where `lineStarts` says, and at
hyphens inside words. As much as fits goes on every line, and a word that is too long for a whole
line is cut. Escape sequences take up no room. A line end in the text stays a line end.
-/

namespace MacroTrace

/-- Cuts a text into words. `starts` tells of every character that is shown, from the second one on,
whether a word starts with it; `word` is the word so far, last character first. Escape sequences in
front of a word belong to it. -/
def cutWords : List Piece → (starts : List Bool) → (word : List Char) → List (List Char)
  | [], _, word => if word.isEmpty then [] else [word.reverse]
  | .escape text :: rest, starts, word => cutWords rest starts (text.reverse ++ word)
  | .shown c :: rest, isStart :: starts, word =>
    if isStart then (c :: word).reverse :: cutWords rest starts []
    else cutWords rest starts (c :: word)
  | .shown c :: rest, [], word => cutWords rest [] (c :: word)

/-- The words are the text that was cut. -/
theorem flatten_cutWords (pieces : List Piece) (starts : List Bool) (word : List Char) :
    (cutWords pieces starts word).flatten = word.reverse ++ pieces.flatMap Piece.text := by
  fun_induction cutWords pieces starts word with
  | case1 | case2 => simp_all
  | case3 text rest starts word ih => simp [ih, Piece.text]
  | case4 c rest starts word ih => simp [ih, Piece.text]
  | case5 c rest isStart starts word _ ih => simp [ih, Piece.text]
  | case6 c rest word ih => simp [ih, Piece.text]

/-- A part of a line that is not broken, with the number of spaces behind it. -/
structure Word where
  /-- What is shown. -/
  text : List Char
  /-- How many spaces follow. -/
  spaces : Nat := 0
deriving DecidableEq, Repr

namespace Word

/-- The word that a text is, with the spaces at its end taken off. -/
def ofText (text : List Char) : Word where
  text := (text.reverse.dropWhile (· = ' ')).reverse
  spaces := (text.reverse.takeWhile (· = ' ')).length

/-- How wide the word is shown. -/
def width (w : Word) : Nat := columns w.text

/-- Gives the last of some parts of a word the spaces behind the word. -/
def ofParts (parts : List (List Char)) (spaces : Nat) : List Word :=
  match parts with
  | [] => [{ text := [], spaces }]
  | [last] => [{ text := last, spaces }]
  | part :: rest => { text := part } :: ofParts rest spaces

/-- Cuts a text behind every hyphen that joins two letters or digits. `previous` is the character in
front of the text, and `part` the part so far, last character first. -/
def cutHyphens (previous : Char) : List Char → (part : List Char) → List (List Char)
  | [], part => [part.reverse]
  | c :: rest, part =>
    if c = '-' && isAlphanumeric previous && rest.head?.any isAlphanumeric then
      (c :: part).reverse :: cutHyphens c rest []
    else cutHyphens c rest (c :: part)

/-- Cuts a word behind every hyphen that joins two letters or digits. -/
def hyphenated (w : Word) : List Word := ofParts (cutHyphens ' ' w.text []) w.spaces

/-- Cuts a text into parts that are no wider than `limit`. `part` is the part so far, last character
first, and `used` its width. -/
def slices (limit : Nat) : List Piece → (part : List Char) → (used : Nat) → List (List Char)
  | [], part, _ => if part.isEmpty then [] else [part.reverse]
  | .escape text :: rest, part, used => slices limit rest (text.reverse ++ part) used
  | .shown c :: rest, part, used =>
    let w := Columns.ofChar c
    if 0 < used && limit < used + w then part.reverse :: slices limit rest [c] w
    else slices limit rest (c :: part) (used + w)

/-- The parts are the text that was cut. -/
theorem flatten_slices (limit : Nat) (pieces : List Piece) (part : List Char) (used : Nat) :
    (slices limit pieces part used).flatten = part.reverse ++ pieces.flatMap Piece.text := by
  fun_induction slices limit pieces part used with
  | case1 | case2 => simp_all
  | case3 part used text rest ih => simp [ih, Piece.text]
  | case4 part used c rest w _ ih => simp [ih, Piece.text]
  | case5 part used c rest w _ ih => simp [ih, Piece.text]

/-- Cuts a word that is wider than `limit`. -/
def sliced (limit : Nat) (w : Word) : List Word :=
  if limit < w.width then ofParts (slices limit (Piece.ofText w.text) [] 0) w.spaces else [w]

end Word

/-- The words of a text without line ends, none wider than `limit`. -/
def wordsOf (limit : Nat) (text : List Char) : List Word :=
  let pieces := Piece.ofText text
  let starts := lineStarts (pieces.filterMap Piece.char?)
  (((cutWords pieces starts.tail []).map Word.ofText).flatMap Word.hyphenated).flatMap
    (Word.sliced limit)

/-- Puts words on lines, as many as fit on each. `line` is the line so far, and `used` its width
with the spaces at its end. -/
def fillLines (limit : Nat) (line : List Word) (used : Nat) : List Word → List (List Word)
  | [] => [line]
  | w :: rest =>
    if limit < used + w.width && !line.isEmpty then
      line :: fillLines limit [w] (w.width + w.spaces) rest
    else fillLines limit (line ++ [w]) (used + w.width + w.spaces) rest

/-- The text of a line, without the spaces at its end. -/
def lineText : List Word → List Char
  | [] => []
  | [last] => last.text
  | w :: rest => w.text ++ List.replicate w.spaces ' ' ++ lineText rest

/-- Lays a text out in lines of at most `limit` columns. -/
def wrap (limit : Nat) (text : String) : List String :=
  (text.toList.splitOn '\n').flatMap fun line =>
    (fillLines limit [] 0 (wordsOf limit line)).map (String.ofList ∘ lineText)

end MacroTrace
