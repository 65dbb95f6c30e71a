import CardQuery.Pattern.Compiler
import CardQuery.Text.Blank
import CardQuery.Text.Folding
import CardQuery.Text.Unmarked

/-!
# Needles

A needle is looked for in a longer text word by word: its words have to stand
there in order, each exactly but for case and diacritics, with at most so
many characters between one and the next, all of them on one line.
-/

namespace CardQuery

/-- **What is looked for.** -/
structure Needle where
  /-- The words, in order. -/
  words : List (List Char)
  /-- How many characters may stand between two words. -/
  gap : Nat

namespace Needle

/-- How many characters may stand between two words unless something else is
asked for. -/
def defaultGap : Nat := 20

/-- A text as it is compared: without diacritics and without blanks around
it. -/
def prepare (s : String) : List Char := Text.trimChars (Text.stripMarks s).toList

/-! ## As a regular expression -/

/-- Whether a character has a meaning in regular expressions. -/
def isMeta (c : Char) : Bool :=
  ['\\', '.', '+', '*', '?', '(', ')', '|', '[', ']', '{', '}', '^', '$', '#', '&', '-',
    '~'].contains c

/-- A character that stands for itself in a regular expression. -/
def escape (c : Char) : List Char := if isMeta c then ['\\', c] else [c]

/-- The regular expression of a gap. -/
def gapSource (gap : Nat) : List Char := ['.', '{', '0', ','] ++ Nat.toDigits 10 gap ++ ['}']

/-- **The regular expression that finds a needle.** -/
def source (n : Needle) : String :=
  .ofList ((gapSource n.gap).intercalate (n.words.map (·.flatMap escape)))

/-! ## As a pattern -/

/-- The pattern of a word. -/
def wordPattern (word : List Char) : Pattern :=
  .sequence (word.map fun c => .char (Text.sameCase c))

/-- The pattern of a gap. -/
def gapPattern (gap : Nat) : Pattern := .iterate (.char (· != '\n')) 0 (some gap)

/-- The pattern of some words. -/
def wordsPattern (gap : Nat) : List (List Char) → Pattern
  | [] => .empty
  | [word] => wordPattern word
  | word :: rest => .seq (wordPattern word) (.seq (gapPattern gap) (wordsPattern gap rest))

/-- **The pattern that finds a needle.** -/
def pattern (n : Needle) : Pattern := wordsPattern n.gap n.words

/-! ## Making needles -/

section Compiler

variable [PatternCompiler]

/-- **Whether a needle is compiled.** The number of its gap has to fit in 32
bits, where it has a gap, and the compiler has to accept its pattern. -/
def compiles (n : Needle) : Bool :=
  (n.words.length ≤ 1 || n.gap < Nat.pow 2 32) && PatternCompiler.accepts n.pattern

/-- **The needle of a text.** A text without words makes none, and neither does
one whose needle is not compiled. -/
def ofText? (text : String) (gap : Nat) : Option Needle :=
  match Text.words (prepare text) with
  | [] => none
  | words => if compiles ⟨words, gap⟩ then some ⟨words, gap⟩ else none

end Compiler

/-! ## Searching -/

/-- Whether a pattern finds something in a text as it is compared. -/
def foundBy (p : Pattern) (text : String) : Bool := p.isMatch (prepare text)

/-- **Whether a needle is in one of some texts.** -/
def isIn (n : Needle) (texts : List String) : Bool := texts.any (foundBy n.pattern)

end Needle

end CardQuery
