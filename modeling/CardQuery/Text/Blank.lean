import CardQuery.Text.CodeRange

/-!
# Blanks and words

A blank is a character with the Unicode property White_Space, of which there
are twenty-five. Words are the longest pieces of a text without blanks, and
trimming drops the blanks at both ends.
-/

namespace CardQuery.Text

/-- The characters with the property White_Space. -/
def blankTable : List CodeRange := [
  ⟨0x0009, 0x000D, 1⟩, ⟨0x0020, 0x0020, 1⟩, ⟨0x0085, 0x0085, 1⟩, ⟨0x00A0, 0x00A0, 1⟩,
  ⟨0x1680, 0x1680, 1⟩, ⟨0x2000, 0x200A, 1⟩, ⟨0x2028, 0x2029, 1⟩, ⟨0x202F, 0x202F, 1⟩,
  ⟨0x205F, 0x205F, 1⟩, ⟨0x3000, 0x3000, 1⟩]

/-- **Blanks.** -/
def isBlank (c : Char) : Bool := inTable blankTable c

/-- A text without the blanks at its end. -/
def trimEnd (cs : List Char) : List Char := (cs.reverse.dropWhile isBlank).reverse

/-- **A text without the blanks at its ends.** -/
def trimChars (cs : List Char) : List Char := trimEnd (cs.dropWhile isBlank)

/-- **A string without the blanks at its ends.** -/
def trim (s : String) : String := .ofList (trimChars s.toList)

/-- The words of a text that follows on `word`, which is given backwards. -/
def wordsAfter (word : List Char) : List Char → List (List Char)
  | [] => if word.isEmpty then [] else [word.reverse]
  | c :: rest =>
    if isBlank c then
      if word.isEmpty then wordsAfter [] rest else word.reverse :: wordsAfter [] rest
    else wordsAfter (c :: word) rest

/-- **The words of a text**, in order. -/
def words (cs : List Char) : List (List Char) := wordsAfter [] cs

example : words "  a\tbc  d ".toList = [['a'], ['b', 'c'], ['d']] := by decide

end CardQuery.Text
