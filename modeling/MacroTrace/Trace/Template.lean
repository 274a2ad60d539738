import MacroTrace.Failure
import MacroTrace.Level
import MacroTrace.LineBuffer
import MacroTrace.Quotes
import MacroTrace.Text.Quoted
/-!
# Templates

The pieces of a trace line are written as templates, texts in which a percent sign and the character
behind it are a directive:

* `%S` is the next argument, a text, cut to the length limit;
* `%s` is the next argument, a text, in full;
* `%d` is the next argument, an integer;
* `%l` and `%r` are the left and the right quote if the level asks for quotes, else nothing;
* any other directive is nothing.

A percent sign at the very end is nothing either. `Template.expand` reads a template once from left
to right, taking arguments as it goes. Handing it an argument of the wrong kind is a breach.
-/

namespace MacroTrace

/-- An argument of a template. -/
inductive TemplateArg
  /-- A text. -/
  | text (value : String)
  /-- An integer. -/
  | int (value : Int64)
deriving DecidableEq, Repr

namespace TemplateArg

/-- A count as an argument; a count beyond the largest integer becomes that integer. -/
def ofCount (n : UInt64) : TemplateArg := .int (Int64.ofNat (min n.toNat 0x7FFFFFFFFFFFFFFF))

/-- A number of a call or of a line as an argument. -/
def ofNumber (n : UInt32) : TemplateArg := .int (Int64.ofNat n.toNat)

/-- How a breach names what came instead of the argument that was due. -/
def describe : Option TemplateArg → String
  | none => "None"
  | some (.text value) => s!"Some(Str({quoted value}))"
  | some (.int value) => s!"Some(Int({value.toInt}))"

end TemplateArg

/-- The settings that directives depend on. -/
structure TemplateOptions where
  /-- The debug level. -/
  level : Level := .none
  /-- The largest number of characters that `%S` shows; zero for no limit. -/
  limit : UInt64 := 0
  /-- The quotes. -/
  quotes : Quotes := .standard
deriving DecidableEq, Repr

/-- What follows a text that was cut. -/
def cutMarker : String := "..."

/-- A text, cut to `limit` characters and marked if it has more. A limit of zero cuts nothing. -/
def cut (limit : UInt64) (text : String) : String :=
  if limit = 0 || text.length ≤ limit.toNat then text
  else String.ofList (text.toList.take limit.toNat) ++ cutMarker

namespace TemplateOptions

/-- The left quote, if the level asks for quotes. -/
def leftQuote (o : TemplateOptions) : String := if o.level.has .quote then o.quotes.left else ""

/-- The right quote, if the level asks for quotes. -/
def rightQuote (o : TemplateOptions) : String := if o.level.has .quote then o.quotes.right else ""

end TemplateOptions

namespace Template

/-- Expands a template, given as characters. -/
def expandChars (o : TemplateOptions) : List Char → List TemplateArg → Except Breach (List Char)
  | [], _ => .ok []
  | ['%'], _ => .ok []
  | '%' :: 'S' :: rest, .text value :: args =>
    return (cut o.limit value).toList ++ (← expandChars o rest args)
  | '%' :: 's' :: rest, .text value :: args =>
    return value.toList ++ (← expandChars o rest args)
  | '%' :: 'd' :: rest, .int value :: args =>
    return (toString value.toInt).toList ++ (← expandChars o rest args)
  | '%' :: 'l' :: rest, args => return o.leftQuote.toList ++ (← expandChars o rest args)
  | '%' :: 'r' :: rest, args => return o.rightQuote.toList ++ (← expandChars o rest args)
  | '%' :: directive :: rest, args =>
    if directive = 'd' then .error (.notAnInteger (TemplateArg.describe args.head?))
    else if directive = 's' || directive = 'S' then
      .error (.notAString (TemplateArg.describe args.head?))
    else expandChars o rest args
  | c :: rest, args => return c :: (← expandChars o rest args)

/-- Expands a template with its arguments; those that no directive takes are ignored. -/
def expand (o : TemplateOptions) (template : String) (args : List TemplateArg) :
    Except Breach String :=
  (expandChars o template.toList args).map String.ofList

end Template

/-- Appends a template's expansion to a line. -/
def LineBuffer.format (b : LineBuffer) (o : TemplateOptions) (template : String)
    (args : List TemplateArg) : Except Breach LineBuffer :=
  (Template.expand o template args).map b.pushText

end MacroTrace
