import CardQuery.Card.FieldType
import CardQuery.Evaluation.Cache
import CardQuery.Evaluation.Coercion

/-!
# Equality of values

Whether two values are equal depends on the mode of equality and on the type
of the field they belong to. Several values are equal to something if any of
them is, on either side. Then, in this order:

* a number or a truth value next to a string is compared as a number, if the
  string is one; a truth value is equal to no number;
* a blank is equal to what counts as false, and to nothing else;
* a truth value is equal to what counts as the same;
* numbers are compared as numbers, and strings as texts.

Texts are compared in lowercase and without blanks around them. The shorter
one is looked for in the longer one: word by word in loose equality, as it
stands on text fields. On all other fields strict equality takes the whole
text.
-/

namespace CardQuery

/-- How many characters may stand between two words of a needle, and how many
patterns are remembered. -/
structure SearchOptions where
  /-- The greatest gap between two words. -/
  gap : Nat
  /-- How many patterns of one kind are remembered before all are
  forgotten. -/
  capacity : Nat
deriving DecidableEq, Repr

/-- The options unless others are asked for. -/
def SearchOptions.standard : SearchOptions := ⟨Needle.defaultGap, 1000⟩

/-- A computation that may look patterns up. -/
abbrev Searching := StateM Cache

namespace Equality

variable [PatternCompiler]

/-! ## Texts -/

/-- A text as texts are compared. -/
def normalize (s : String) : String := Text.trim (Text.lowercase s)

/-- Whether a text is a piece of another. -/
def isPieceOf (piece : List Char) : List Char → Bool
  | [] => piece.isEmpty
  | c :: rest => piece.isPrefixOf (c :: rest) || isPieceOf piece rest

/-- Whether a needle is found in a text. -/
def finds (options : SearchOptions) (needle text : String) : Searching Bool := do
  match ← Cache.needle? options.gap options.capacity needle with
  | some p => return Needle.foundBy p text
  | none => return false

/-- Whether a text is a piece of another but for diacritics. -/
def contains (needle text : String) : Bool :=
  isPieceOf (Text.stripMarks needle).toList (Text.stripMarks text).toList

/-- **Whether two texts are equal.** -/
def texts (options : SearchOptions) (mode : EqualityMode) (type : Option FieldType)
    (left right : String) : Searching Bool := do
  let l := normalize left
  let r := normalize right
  if l.isEmpty || r.isEmpty then return l == r
  else
    let (needle, text) := if r.length < l.length then (r, l) else (l, r)
    match mode with
    | .loose => finds options needle text
    | .strict => return if type = some .text then contains needle text else l == r

/-! ## Values -/

/-- A number or a truth value compared with a string as numbers are, if the
string is a number. -/
def asNumbers? : Value → Value → Option Bool
  | .number x, .string s =>
    match Value.numberOfText s with
    | .ok (some y) => some (x == y)
    | .ok none => some false
    | .error _ => none
  | .boolean _, .string s =>
    match Value.numberOfText s with
    | .ok _ => some false
    | .error _ => none
  | _, _ => none

/-- Whether two values neither of which is an array are equal. -/
def scalars (options : SearchOptions) (mode : EqualityMode) (type : Option FieldType)
    (left right : Value) : Searching Bool :=
  match asNumbers? left right <|> asNumbers? right left with
  | some answer => pure answer
  | none =>
    if left.isBlank || right.isBlank then pure (!left.isTruthy && !right.isTruthy)
    else
      match left, right with
      | .boolean _, _ | _, .boolean _ => pure (left.isTruthy == right.isTruthy)
      | .number x, .number y => pure (x == y)
      | .string s, .string t => texts options mode type s t
      | _, _ => pure false

mutual

/-- Whether a value that is no array is equal to a value. -/
def scalarWith (options : SearchOptions) (mode : EqualityMode) (type : Option FieldType)
    (left : Value) : Value → Searching Bool
  | .array items => scalarWithAny options mode type left items
  | .null => scalars options mode type left .null
  | .boolean b => scalars options mode type left (.boolean b)
  | .number x => scalars options mode type left (.number x)
  | .string s => scalars options mode type left (.string s)

/-- Whether a value that is no array is equal to one of some values. -/
def scalarWithAny (options : SearchOptions) (mode : EqualityMode) (type : Option FieldType)
    (left : Value) : List Value → Searching Bool
  | [] => return false
  | v :: rest => do
    if ← scalarWith options mode type left v then return true
    else scalarWithAny options mode type left rest

end

mutual

/-- **Whether two values are equal.** -/
def values (options : SearchOptions) (mode : EqualityMode) (type : Option FieldType)
    (right : Value) : Value → Searching Bool
  | .array items => anyWith options mode type right items
  | .null => scalarWith options mode type .null right
  | .boolean b => scalarWith options mode type (.boolean b) right
  | .number x => scalarWith options mode type (.number x) right
  | .string s => scalarWith options mode type (.string s) right

/-- Whether one of some values is equal to a value. -/
def anyWith (options : SearchOptions) (mode : EqualityMode) (type : Option FieldType)
    (right : Value) : List Value → Searching Bool
  | [] => return false
  | v :: rest => do
    if ← values options mode type right v then return true
    else anyWith options mode type right rest

end

end Equality

/-! ## Patterns -/

mutual

/-- **Whether a value fits a pattern.** No value fits none, and several values
fit if any of them does. -/
def Pattern.fits (p : Pattern) : Value → Bool
  | .null => false
  | .array items => p.fitsAny items
  | .boolean b => p.isMatch (Value.boolean b).display.toList
  | .number x => p.isMatch (Value.number x).display.toList
  | .string s => p.isMatch s.toList

/-- Whether one of some values fits a pattern. -/
def Pattern.fitsAny (p : Pattern) : List Value → Bool
  | [] => false
  | v :: rest => p.fits v || p.fitsAny rest

end

end CardQuery
