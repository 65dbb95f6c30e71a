import CardQuery.Text.Category
import CardQuery.Text.GraphemeExtend

/-!
# Quoted text

A text between quotation marks in which every character can be seen: what
does not print, and what would combine with the character before it, is
written as its code point.
-/

namespace CardQuery.Text

/-- A code point between braces. -/
def codePoint (c : Char) : List Char :=
  ['\\', 'u', '{'] ++ Nat.toDigits 16 c.toNat ++ ['}']

/-- A character as it is written between quotation marks. -/
def escape : Char → List Char
  | '"' => ['\\', '"']
  | '\\' => ['\\', '\\']
  | '\n' => ['\\', 'n']
  | '\r' => ['\\', 'r']
  | '\t' => ['\\', 't']
  | '\x00' => ['\\', '0']
  | c => if extendsGrapheme c || !isPrintable c then codePoint c else [c]

/-- **A text between quotation marks.** -/
def quoted (s : String) : String := .ofList ('"' :: s.toList.flatMap escape ++ ['"'])

end CardQuery.Text
