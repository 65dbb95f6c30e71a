import CardQuery.Text.Blank
import CardQuery.Text.Folding
import CardQuery.Text.Letter
import CardQuery.Text.Property

/-!
# Sets of characters

The sets that a regular expression may name, and the algebra of sets. A set
is closed under case by putting in every character that is the same up to
case as one of its members; that is done before a set is complemented, so a
complement never matches a letter whose other case was excluded.
-/

namespace CardQuery

/-- A set of characters. -/
abbrev CharSet := Char → Bool

namespace CharSet

/-- No character. -/
def none : CharSet := fun _ => false

/-- The characters between two, both included. -/
def range (first last : Char) : CharSet := fun c => first ≤ c && c ≤ last

/-- The characters of a list. -/
def ofList (cs : List Char) : CharSet := fun c => cs.contains c

/-- The characters of either set. -/
def union (a b : CharSet) : CharSet := fun c => a c || b c

/-- The characters that are not in a set. -/
def complement (a : CharSet) : CharSet := fun c => !a c

/-- **The ways to combine two sets.** -/
inductive Operation where
  | intersection
  | difference
  /-- What is in exactly one of the sets. -/
  | symmetricDifference
deriving DecidableEq, Repr

/-- The combination of two sets. -/
def Operation.apply : Operation → CharSet → CharSet → CharSet
  | intersection, a, b => fun c => a c && b c
  | difference, a, b => fun c => a c && !b c
  | symmetricDifference, a, b => fun c => a c != b c

/-- **A set with all characters that are the same up to case** as one of
it. -/
def closeCase (a : CharSet) : CharSet := fun c => a c || (Text.caseVariants c).any a

/-- The other case of a basic letter. -/
def otherCase (c : Char) : Char := if c.isUpper then c.toLower else c.toUpper

/-- A set of basic characters with the other case of its letters. -/
def closeBasicCase (a : CharSet) : CharSet := fun c => a c || (c.toNat < 0x80 && a (otherCase c))

/-! ## Sets with names -/

/-- The digits of all scripts. -/
def digit : CharSet := Text.isDecimalDigit

/-- The blanks. -/
def blank : CharSet := Text.isBlank

/-- **The characters of words**: letters, marks, digits, connecting
punctuation and the joiners. -/
def word : CharSet := fun c =>
  Text.isLetter c || Text.isMark c || Text.isDecimalDigit c ||
    Text.GeneralCategory.connectorPunctuation.holds c || c == '\u200c' || c == '\u200d'

/-- The basic digits. -/
def basicDigit : CharSet := range '0' '9'

/-- The basic small letters. -/
def basicLower : CharSet := range 'a' 'z'

/-- The basic capital letters. -/
def basicUpper : CharSet := range 'A' 'Z'

/-- The basic letters. -/
def basicLetter : CharSet := basicLower.union basicUpper

/-- The basic blanks. -/
def basicBlank : CharSet := (ofList ['\t', '\n', '\x0b', '\x0c', '\r', ' '])

/-- The basic characters of words. -/
def basicWord : CharSet := basicLetter.union (basicDigit.union (ofList ['_']))

/-- The basic sets by the names that they have between colons. -/
def basicNamed : List (String × CharSet) := [
  ("alnum", basicLetter.union basicDigit),
  ("alpha", basicLetter),
  ("ascii", range '\x00' '\x7f'),
  ("blank", ofList ['\t', ' ']),
  ("cntrl", (range '\x00' '\x1f').union (ofList ['\x7f'])),
  ("digit", basicDigit),
  ("graph", range '!' '~'),
  ("lower", basicLower),
  ("print", range ' ' '~'),
  ("punct", (range '!' '/').union
    ((range ':' '@').union ((range '[' '\x60').union (range '{' '~')))),
  ("space", basicBlank),
  ("upper", basicUpper),
  ("word", basicWord),
  ("xdigit", basicDigit.union ((range 'a' 'f').union (range 'A' 'F')))]

/-- The basic set of a name. -/
def basic? (name : List Char) : Option CharSet :=
  (basicNamed.find? (·.1.toList == name)).map (·.2)

end CharSet

end CardQuery
