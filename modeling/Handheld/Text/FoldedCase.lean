/-!
Case folding towards ASCII. A character whose folded form is not plain ASCII can never become part
of an ASCII word, so it stays as it is.
-/

namespace Handheld.Text

/-- The folded form of a character, where that form is ASCII; any other character itself. -/
def foldChar (c : Char) : List Char :=
  match c with
  | '\u017f' => ['s']
  | '\u212a' => ['k']
  | '\u00df' | '\u1e9e' => ['s', 's']
  | '\ufb00' => ['f', 'f']
  | '\ufb01' => ['f', 'i']
  | '\ufb02' => ['f', 'l']
  | '\ufb03' => ['f', 'f', 'i']
  | '\ufb04' => ['f', 'f', 'l']
  | '\ufb05' | '\ufb06' => ['s', 't']
  | c => [c.toLower]

/-- Folds every character of a text. -/
def foldCase (text : List Char) : List Char :=
  text.flatMap foldChar

end Handheld.Text
