import Handheld.Text.Printable

/-!
Text in quotes, as messages show it: single quotes unless the text holds a single quote and no
double quote, with escapes for what cannot be printed.
-/

namespace Handheld.Text

/-- The last `width` hexadecimal digits of a number, in lower case. -/
def hexTail (width n : Nat) : List Char :=
  (List.range width).reverse.map fun place => Nat.digitChar (n >>> (4 * place) % 16)

/-- The escape for a code point that cannot be printed. -/
def escapeNumber (number : Nat) : List Char :=
  if number < 0x100 then '\\' :: 'x' :: hexTail 2 number
  else if number < 0x10000 then '\\' :: 'u' :: hexTail 4 number
  else '\\' :: 'U' :: hexTail 8 number

/-- A code point between quotes of the given kind. -/
def quotePoint (mark : Char) (point : CodePoint) : List Char :=
  match point with
  | .surrogate _ => escapeNumber point.number
  | .char c =>
    if c = mark ∨ c = '\\' then ['\\', c]
    else if c = '\n' then ['\\', 'n']
    else if c = '\r' then ['\\', 'r']
    else if c = '\t' then ['\\', 't']
    else if isPrintable point then [c]
    else escapeNumber point.number

/-- The quotation mark for a text. -/
def quoteMark (text : Text) : Char :=
  if text.points.contains (.char '\x27') ∧ !text.points.contains (.char '\x22') then '\x22'
  else '\x27'

/-- A text in quotes. -/
def quoted (text : Text) : String :=
  let mark := quoteMark text
  String.ofList (mark :: text.points.flatMap (quotePoint mark) ++ [mark])

end Handheld.Text
