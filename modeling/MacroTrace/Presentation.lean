import MacroTrace.Failure
import MacroTrace.Text.Wrap
/-!
# Failures on the screen

A failure that keeps the program from its work is shown over several lines: its code, what failed,
what lies behind it, and advice. Each of the last three has a mark of its own in front, and is laid
out in lines behind that mark.
-/

namespace MacroTrace

/-- A colour of text. -/
inductive Colour
  /-- For what is wrong. -/
  | red
  /-- For advice. -/
  | cyan
deriving DecidableEq, Repr

/-- Puts text in a colour, if there are colours. -/
def Colour.paint (colour : Colour) (isColoured : Bool) (text : String) : String :=
  if isColoured then
    (match colour with | red => "\x1b[31m" | cyan => "\x1b[36m") ++ text ++ "\x1b[0m"
  else text

/-- The number of columns that a failure is shown in. -/
def screenWidth : Nat := 198

/-- Lays a text out behind `mark`, and behind `filler` on every later line; both are `indent`
columns wide. -/
def layOut (mark filler : String) (indent : Nat) (text : String) : String :=
  match wrap (screenWidth - indent) text with
  | [] => ""
  | first :: rest => String.join ((mark ++ first ++ "\n") :: rest.map (filler ++ · ++ "\n"))

/-- A failure as it is shown. -/
def Failure.presentation (f : Failure) (isColoured : Bool) : String :=
  let red := Colour.red.paint isColoured
  let cyan := Colour.cyan.paint isColoured
  red f.code ++ "\n\n"
    ++ layOut ("  " ++ red "×" ++ " ") ("  " ++ red "│" ++ " ") 4 f.message
    ++ (f.cause?.elim "" fun cause => layOut (red "  ╰─▶ ") (red "      ") 6 cause.text)
    ++ (f.help?.elim "" (layOut (cyan "  help: ") "        " 8))

end MacroTrace
