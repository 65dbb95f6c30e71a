import CardQuery.Number.Reading
import CardQuery.Pattern.Basic
import CardQuery.Pattern.CharSet

/-!
# Regular expressions

Reads a regular expression into a pattern. The text is read once, from left
to right. Groups that are still open wait in a list with what was read of
them, and so do the brackets of a set of characters.

Seven flags change what follows up to the end of the group: case is ignored,
`^` and `$` hold at every line, `.` takes newlines, lines may end in a
carriage return, blanks and comments are skipped, characters outside the
basic ones count, and repetition prefers few rounds. The last one changes
nothing here, because a search only asks whether there is a match.

Where characters outside the basic ones do not count, everything that would
match one of them without naming it is refused.
-/

namespace CardQuery

namespace PatternReader

/-! ## Flags -/

/-- **The flags.** -/
structure Flags where
  /-- Case is ignored. -/
  ignoreCase : Bool
  /-- Anchors hold at every line. -/
  multiLine : Bool
  /-- A dot takes newlines. -/
  dotAll : Bool
  /-- Lines may end in a carriage return. -/
  carriageReturns : Bool
  /-- Characters outside the basic ones count. -/
  unicode : Bool
  /-- Blanks and comments are skipped. -/
  spaced : Bool
deriving Repr

/-- The flags at the start. -/
def Flags.start : Flags := ⟨true, false, false, false, true, false⟩

/-- A flag set or cleared. -/
def Flags.set (f : Flags) (on : Bool) : Char → Option Flags
  | 'i' => some { f with ignoreCase := on }
  | 'm' => some { f with multiLine := on }
  | 's' => some { f with dotAll := on }
  | 'R' => some { f with carriageReturns := on }
  | 'u' => some { f with unicode := on }
  | 'x' => some { f with spaced := on }
  | 'U' => some f
  | _ => none

/-- Sets flags, and clears those after a minus. No flag may stand twice, no
second minus, and no minus at the end. -/
def Flags.setAll (f : Flags) (on : Bool) (seen : List Char) : List Char → Option Flags
  | [] => if seen.head? = some '-' then none else some f
  | c :: rest =>
    if seen.contains c then none
    else if c = '-' then f.setAll false (c :: seen) rest
    else do (← f.set on c).setAll on (c :: seen) rest

/-! ## Blanks and comments -/

/-- The text past the rest of a comment, and past blanks and comments after
it. -/
def skipSpace (inComment : Bool) : List Char → List Char
  | [] => []
  | c :: rest =>
    if inComment then skipSpace (c != '\n') rest
    else if Text.isBlank c then skipSpace false rest
    else if c = '#' then skipSpace true rest
    else c :: rest

/-- The text past what the flags let be skipped. -/
def Flags.skip (f : Flags) (cs : List Char) : List Char :=
  if f.spaced then skipSpace false cs else cs

theorem length_skipSpace_le (inComment : Bool) (cs : List Char) :
    (skipSpace inComment cs).length ≤ cs.length := by
  fun_induction skipSpace inComment cs with
  | case1 => exact Nat.le_refl _
  | case2 _ _ ih => exact Nat.le_succ_of_le ih
  | case3 _ _ _ _ _ ih => exact Nat.le_succ_of_le ih
  | case4 _ _ _ _ ih => exact Nat.le_succ_of_le ih
  | case5 => exact Nat.le_refl _

theorem Flags.length_skip_le (f : Flags) (cs : List Char) : (f.skip cs).length ≤ cs.length := by
  unfold Flags.skip
  split
  · exact length_skipSpace_le false cs
  · exact Nat.le_refl _

/-- The characters up to a closing brace without what may be skipped, and
the text after the brace. -/
def untilBrace (f : Flags) (inComment : Bool) : List Char → Option (List Char × List Char)
  | [] => none
  | c :: rest =>
    if inComment then untilBrace f (c != '\n') rest
    else if f.spaced && Text.isBlank c then untilBrace f false rest
    else if f.spaced && c == '#' then untilBrace f true rest
    else if c = '}' then some ([], rest)
    else (untilBrace f false rest).map fun (content, after) => (c :: content, after)

/-- The digits at the front of a text without what may be skipped, and the
text after them. -/
def cutDigits (f : Flags) (inComment : Bool) : List Char → List Char × List Char
  | [] => ([], [])
  | c :: rest =>
    if inComment then cutDigits f (c != '\n') rest
    else if Number.isDigit c then
      let (digits, after) := cutDigits f false rest
      (c :: digits, after)
    else if f.spaced && Text.isBlank c then cutDigits f false rest
    else if f.spaced && c == '#' then cutDigits f true rest
    else ([], c :: rest)

/-! ## Escapes -/

/-- **What an escape or a plain character stands for.** -/
inductive Primitive where
  /-- A character, and whether it was written as the number of a byte. -/
  | literal (c : Char) (isByte : Bool)
  | set (s : CharSet)
  | look (l : Look)

/-- A set that may be complemented. The complement of a basic set is refused
where only basic characters count. -/
def Flags.negate (f : Flags) (negated : Bool) (s : CharSet) : Option CharSet :=
  if !negated then some s
  else if f.unicode then some s.complement
  else none

/-- A set closed under case if case is ignored. -/
def Flags.close (f : Flags) (s : CharSet) : CharSet :=
  if !f.ignoreCase then s
  else if f.unicode then s.closeCase
  else s.closeBasicCase

/-- The characters of words. -/
def Flags.word (f : Flags) : CharSet := if f.unicode then .word else .basicWord

/-- The value of a hexadecimal digit. -/
def hexValue? (c : Char) : Option Nat :=
  if CharSet.basicDigit c then some (c.toNat - '0'.toNat)
  else if CharSet.range 'a' 'f' c then some (c.toNat - 'a'.toNat + 10)
  else if CharSet.range 'A' 'F' c then some (c.toNat - 'A'.toNat + 10)
  else none

/-- The number that hexadecimal digits write. -/
def hexNumber? (digits : List Char) : Option Nat :=
  digits.foldlM (fun n c => (hexValue? c).map (16 * n + ·)) 0

/-- The character of a code point, if it is one. -/
def charOfCode? (n : Nat) : Option Char := if n.isValidChar then some (Char.ofNat n) else none

/-- A number of characters, between which what may be skipped is skipped. -/
def cutSignificant (f : Flags) : Nat → List Char → Option (List Char × List Char)
  | 0, cs => some ([], cs)
  | n + 1, cs =>
    match f.skip cs with
    | [] => none
    | c :: rest => (cutSignificant f n rest).map fun (content, after) => (c :: content, after)

/-- A character by its number, in braces or with a fixed number of digits. -/
def readHex (f : Flags) (digits : Nat) (cs : List Char) : Option (Primitive × List Char) := do
  match f.skip cs with
  | '{' :: rest =>
    let (content, after) ← untilBrace f false rest
    if content.isEmpty then none
    else return (.literal (← charOfCode? (← hexNumber? content)) false, after)
  | cs =>
    let (content, after) ← cutSignificant f digits cs
    return (.literal (← charOfCode? (← hexNumber? content)) (digits == 2), after)

/-- Splits a text at a sign, which may have two characters. -/
def splitAtSign (sign : List Char) : List Char → Option (List Char × List Char)
  | [] => none
  | c :: rest =>
    if sign.isPrefixOf (c :: rest) then some ([], (c :: rest).drop sign.length)
    else (splitAtSign sign rest).map fun (before, after) => (c :: before, after)

/-- The set of a property that stands between braces: its name, or a name and
a value. All three signs between name and value mean the same. -/
def propertySet? (content : List Char) : Option CharSet :=
  match splitAtSign ['!', '='] content <|> splitAtSign [':'] content <|>
      splitAtSign ['='] content with
  | some (name, value) => Text.propertyWithValue name value
  | none => Text.propertyNamed content

/-- A set given by a property. -/
def readProperty (f : Flags) (negated : Bool) (cs : List Char) :
    Option (Primitive × List Char) := do
  let (content, after) ← match f.skip cs with
    | '{' :: rest => untilBrace f false rest
    | c :: rest => if c = '\\' then none else some ([c], rest)
    | [] => none
  if !f.unicode then none
  else
    let s ← propertySet? content
    return (.set (← f.negate negated (f.close s)), after)

/-- The names of the looks that go with words. -/
def wordLook? (w : CharSet) (name : List Char) : Option Look :=
  match String.ofList name with
  | "start" => some (.wordStart w)
  | "end" => some (.wordEnd w)
  | "start-half" => some (.noWordBefore w)
  | "end-half" => some (.noWordAfter w)
  | _ => none

/-- Whether a character may stand in the name of a look. -/
def inLookName (c : Char) : Bool := CharSet.basicLetter c || c == '-'

/-- What follows the letter of a word boundary: the name of a look in braces,
if the braces open with a letter, or nothing. -/
def readBoundary (f : Flags) (cs : List Char) : Option (Primitive × List Char) := do
  match cs with
  | '{' :: rest =>
    match f.skip rest with
    | [] => none
    | c :: rest =>
      if inLookName c then
        let (content, after) ← untilBrace f false (c :: rest)
        return (.look (← wordLook? f.word content), after)
      else return (.look (.boundary f.word), cs)
  | cs => return (.look (.boundary f.word), cs)

/-- A set with a letter of its own, which is closed under case already. -/
def namedSet (f : Flags) (negated : Bool) (s basic : CharSet) (rest : List Char) :
    Option (Primitive × List Char) := do
  return (.set (← f.negate negated (if f.unicode then s else basic)), rest)

/-- Whether a character stands for itself after a backslash: every basic one
but letters, digits and the two signs of word boundaries. -/
def isEscapable (c : Char) : Bool :=
  c.toNat < 0x80 && !CharSet.basicLetter c && !CharSet.basicDigit c && c != '<' && c != '>'

/-- **Reads what follows a backslash.** -/
def readEscape (f : Flags) : List Char → Option (Primitive × List Char)
  | [] => none
  | 'x' :: rest => readHex f 2 rest
  | 'u' :: rest => readHex f 4 rest
  | 'U' :: rest => readHex f 8 rest
  | 'p' :: rest => readProperty f false rest
  | 'P' :: rest => readProperty f true rest
  | 'd' :: rest => namedSet f false .digit .basicDigit rest
  | 'D' :: rest => namedSet f true .digit .basicDigit rest
  | 's' :: rest => namedSet f false .blank .basicBlank rest
  | 'S' :: rest => namedSet f true .blank .basicBlank rest
  | 'w' :: rest => namedSet f false .word .basicWord rest
  | 'W' :: rest => namedSet f true .word .basicWord rest
  | 'a' :: rest => some (.literal '\x07' false, rest)
  | 'f' :: rest => some (.literal '\x0c' false, rest)
  | 't' :: rest => some (.literal '\t' false, rest)
  | 'n' :: rest => some (.literal '\n' false, rest)
  | 'r' :: rest => some (.literal '\r' false, rest)
  | 'v' :: rest => some (.literal '\x0b' false, rest)
  | 'A' :: rest => some (.look .textStart, rest)
  | 'z' :: rest => some (.look .textEnd, rest)
  | 'b' :: rest => readBoundary f rest
  | 'B' :: rest => some (.look (.noBoundary f.word), rest)
  | '<' :: rest => some (.look (.wordStart f.word), rest)
  | '>' :: rest => some (.look (.wordEnd f.word), rest)
  | c :: rest => if isEscapable c then some (.literal c false, rest) else none

/-! ## Sets in brackets -/

/-- What has been read of the items of a set: their union, how many there
are, and how deeply the deepest nests. -/
structure Items where
  /-- The union. -/
  members : CharSet
  /-- How many items there are. -/
  count : Nat
  /-- How deeply they nest. -/
  height : Nat

namespace Items

/-- No items. -/
def empty : Items := ⟨.none, 0, 0⟩

/-- One item more. -/
def add (items : Items) (s : CharSet) (height : Nat) : Items :=
  ⟨items.members.union s, items.count + 1, max items.height height⟩

/-- How deeply the union of the items nests. -/
def unionHeight (items : Items) : Nat :=
  if items.count ≤ 1 then items.height else items.height + 1

end Items

/-- **A bracket that is still open.** -/
structure Bracket where
  /-- Whether the set is complemented. -/
  negated : Bool
  /-- An operation that waits for its second operand, its first, and how
  deeply that nests. -/
  pending : Option (CharSet.Operation × CharSet × Nat)
  /-- The items read since. -/
  items : Items

namespace Bracket

/-- The set of a bracket so far, and how deeply it nests. The operands of an
operation are closed under case first. -/
def settle (f : Flags) (b : Bracket) : CharSet × Nat :=
  match b.pending with
  | none => (b.items.members, b.items.unionHeight)
  | some (op, left, height) =>
    (op.apply (f.close left) (f.close b.items.members), max height b.items.unionHeight + 1)

/-- A bracket after the sign of an operation. -/
def operate (f : Flags) (b : Bracket) (op : CharSet.Operation) : Bracket :=
  let (s, height) := b.settle f
  { b with pending := some (op, s, height), items := .empty }

/-- **The set of a complete bracket.** -/
def close (f : Flags) (b : Bracket) : Option (CharSet × Nat) := do
  let (s, height) := b.settle f
  return (← f.negate b.negated (f.close s), height + 1)

/-- A bracket with one item more. -/
def add (b : Bracket) (s : CharSet) (height : Nat) : Bracket :=
  { b with items := b.items.add s height }

end Bracket

/-- The dashes at the front of a bracket, which are items. -/
def cutDashes (f : Flags) (items : Items) (cs : List Char) : Items × List Char :=
  match h : f.skip cs with
  | '-' :: rest =>
    have : rest.length < cs.length := by
      have := f.length_skip_le cs
      rw [h] at this
      simp only [List.length_cons] at this
      omega
    cutDashes f (items.add (CharSet.ofList ['-']) 0) rest
  | cs => (items, cs)
termination_by cs.length

/-- **Opens a bracket.** A closing bracket at its front is an item. -/
def openBracket (f : Flags) (cs : List Char) : Bracket × List Char :=
  let (negated, cs) := match f.skip cs with
    | '^' :: rest => (true, rest)
    | cs => (false, cs)
  let (items, cs) := cutDashes f .empty cs
  match cs with
  | ']' :: rest =>
    if items.count = 0 then (⟨negated, none, items.add (CharSet.ofList [']']) 0⟩, rest)
    else (⟨negated, none, items⟩, cs)
  | cs => (⟨negated, none, items⟩, cs)

/-- The basic set that stands between colons in brackets of its own, if there
is one at the front of a text that follows a bracket. -/
def basicSet? (f : Flags) : List Char → Option (Option CharSet × List Char)
  | ':' :: rest =>
    let (negated, rest) := match rest with
      | '^' :: rest => (true, rest)
      | rest => (false, rest)
    match rest.dropWhile (· != ':') with
    | ':' :: ']' :: after =>
      (CharSet.basic? (rest.takeWhile (· != ':'))).map fun s =>
        (f.negate negated (f.close s), after)
    | _ => none
  | _ => none

/-- One item of a set, or one end of a range. -/
def readItem (f : Flags) : List Char → Option (Primitive × List Char)
  | '\\' :: rest => readEscape f rest
  | c :: rest => some (.literal c false, rest)
  | [] => none

/-- A character as a member of a set. Where only basic characters count, no
other may be named. -/
def memberChar? (f : Flags) : Primitive → Option Char
  | .literal c _ => if f.unicode || c.toNat < 0x80 then some c else none
  | _ => none

/-- A primitive as an item of a set. -/
def itemSet? (f : Flags) : Primitive → Option CharSet
  | .set s => some s
  | p => (memberChar? f p).map fun c => CharSet.ofList [c]

/-- The character after a dash that decides whether the dash makes a range. A
comment hides nothing but its sign. -/
def peekPastDash (f : Flags) (cs : List Char) : Option Char :=
  if !f.spaced then cs.head?
  else
    match cs.dropWhile Text.isBlank with
    | '#' :: rest => (rest.dropWhile Text.isBlank).head?
    | cs => cs.head?

/-- **Reads one item of a set or a range.** -/
def readRange (f : Flags) (cs : List Char) : Option (CharSet × List Char) := do
  let (first, after) ← readItem f cs
  match f.skip after with
  | [] => none
  | '-' :: rest =>
    let next := peekPastDash f rest
    if next = some ']' ∨ next = some '-' then return (← itemSet? f first, '-' :: rest)
    else
      let (last, after) ← readItem f (f.skip rest)
      let a ← memberChar? f first
      let b ← memberChar? f last
      if a ≤ b then return (CharSet.range a b, after) else none
  | after => return (← itemSet? f first, after)

/-- One step of reading a set: the brackets that are open after it, and the
rest of the text, or the set itself once the last bracket is closed. -/
inductive SetStep where
  | more (b : Bracket) (outer : List Bracket) (rest : List Char)
  | complete (s : CharSet) (height : Nat) (rest : List Char)

/-- **One step of reading a set in brackets.** -/
def stepSet (f : Flags) (b : Bracket) (outer : List Bracket) : List Char → Option SetStep
  | [] => none
  | '[' :: rest =>
    match basicSet? f rest with
    | some (s, after) => do return .more (b.add (← s) 0) outer after
    | none =>
      let (inner, after) := openBracket f rest
      some (.more inner (b :: outer) after)
  | ']' :: rest => do
    let (s, height) ← b.close f
    match outer with
    | [] => return .complete s height rest
    | b :: outer => return .more (b.add s height) outer rest
  | '&' :: '&' :: rest => some (.more (b.operate f .intersection) outer rest)
  | '-' :: '-' :: rest => some (.more (b.operate f .difference) outer rest)
  | '~' :: '~' :: rest => some (.more (b.operate f .symmetricDifference) outer rest)
  | cs => do
    let (s, after) ← readRange f cs
    return .more (b.add s 0) outer after

/-- **Reads a set in brackets** whose first bracket is open. A step that would
take nothing ends the reading. -/
def readSet (f : Flags) (b : Bracket) (outer : List Bracket) (cs : List Char) :
    Option (CharSet × Nat × List Char) :=
  match stepSet f b outer (f.skip cs) with
  | some (.complete s height rest) => some (s, height, rest)
  | some (.more b outer rest) =>
    if rest.length < cs.length then readSet f b outer rest else none
  | none => none
termination_by cs.length

/-! ## Pieces -/

/-- **A part of a regular expression**: its pattern, how deeply its text
nests, and whether it may be repeated. -/
structure Piece where
  /-- The pattern. -/
  pattern : Pattern
  /-- How deeply its text nests. -/
  height : Nat
  /-- Whether it may be repeated. Only a setting of flags may not. -/
  repeatable : Bool

namespace Piece

/-- The piece of a leaf. -/
def leaf (p : Pattern) : Piece := ⟨p, 0, true⟩

/-- The piece that some pieces in a row make; they are given backwards. -/
def inRow (pieces : List Piece) : Piece :=
  match pieces with
  | [] => leaf .empty
  | [p] => p
  | ps => ⟨.sequence (ps.reverse.map (·.pattern)), (ps.map (·.height)).foldl max 0 + 1, true⟩

/-- The piece that a choice makes; the alternatives before the last are given
backwards. -/
def choice (before : List Piece) (last : Piece) : Piece :=
  match before.reverse with
  | [] => last
  | p :: ps =>
    ⟨.choice p.pattern ((ps ++ [last]).map (·.pattern)),
      ((last :: before).map (·.height)).foldl max 0 + 1, true⟩

/-- A piece repeated. -/
def iterate (p : Piece) (min : Nat) (max : Option Nat) : Piece :=
  ⟨.iterate p.pattern min max, p.height + 1, true⟩

end Piece

/-- The set of the characters that a character stands for. -/
def literalSet? (f : Flags) (c : Char) (isByte : Bool) : Option CharSet :=
  if f.unicode then
    some (if f.ignoreCase then Text.sameCase c else CharSet.ofList [c])
  else if isByte ∧ c.toNat ≥ 0x80 then none
  else if f.ignoreCase then some (CharSet.closeBasicCase (CharSet.ofList [c]))
  else some (CharSet.ofList [c])

/-- The piece of a primitive. -/
def primitivePiece? (f : Flags) : Primitive → Option Piece
  | .literal c isByte => (literalSet? f c isByte).map fun s => .leaf (.char s)
  | .set s => some (.leaf (.char s))
  | .look l => some (.leaf (.look l))

/-- The set of a dot. -/
def dotSet? (f : Flags) : Option CharSet :=
  if !f.unicode then none
  else if f.dotAll then some fun _ => true
  else if f.carriageReturns then some fun c => c != '\n' && c != '\r'
  else some fun c => c != '\n'

/-- The look of the sign for a start. -/
def startLook (f : Flags) : Look :=
  if !f.multiLine then .textStart
  else if f.carriageReturns then .anyLineStart
  else .lineStart

/-- The look of the sign for an end. -/
def endLook (f : Flags) : Look :=
  if !f.multiLine then .textEnd
  else if f.carriageReturns then .anyLineEnd
  else .lineEnd

/-! ## Repetition -/

/-- A number in braces, which blanks may surround. -/
def readCount (f : Flags) (cs : List Char) : Option (Nat × List Char) :=
  let (digits, after) := cutDigits f false (cs.dropWhile Text.isBlank)
  let n := Number.digitsValue digits
  if digits.isEmpty || n ≥ Nat.pow 2 32 then none
  else some (n, f.skip (after.dropWhile Text.isBlank))

/-- The bounds in braces. -/
def readBounds (f : Flags) (cs : List Char) : Option (Nat × Option Nat × List Char) := do
  let (min, cs) ← readCount f (f.skip cs)
  match cs with
  | '}' :: rest => return (min, some min, rest)
  | ',' :: rest =>
    match f.skip rest with
    | '}' :: rest => return (min, none, rest)
    | cs =>
      let (max, cs) ← readCount f cs
      match cs with
      | '}' :: rest => if min ≤ max then return (min, some max, rest) else none
      | _ => none
  | _ => none

/-- The text past the sign that makes a repetition prefer few rounds. -/
def skipLazy : List Char → List Char
  | '?' :: rest => rest
  | cs => cs

/-! ## Groups -/

/-- **A group that is still open**: the flags outside it, and what was read
there. -/
structure OpenGroup where
  /-- The flags outside the group. -/
  flags : Flags
  /-- The alternatives before the current one, backwards. -/
  before : List Piece
  /-- The pieces of the current alternative, backwards. -/
  pieces : List Piece

/-- **What has been read of a regular expression.** -/
structure State where
  /-- The flags. -/
  flags : Flags
  /-- The names of groups. -/
  names : List (List Char)
  /-- The alternatives before the current one, backwards. -/
  before : List Piece
  /-- The pieces of the current alternative, backwards. -/
  pieces : List Piece
  /-- The groups that are still open, the innermost first. -/
  outer : List OpenGroup

namespace State

/-- Nothing read. -/
def start : State := ⟨.start, [], [], [], []⟩

/-- One piece more. -/
def add (st : State) (p : Piece) : State := { st with pieces := p :: st.pieces }

/-- The piece of the innermost group. -/
def group (st : State) : Piece := .choice st.before (.inRow st.pieces)

/-- Opens a group. -/
def openGroup (st : State) (flags : Flags) : State :=
  { st with
    flags := flags
    before := []
    pieces := []
    outer := ⟨st.flags, st.before, st.pieces⟩ :: st.outer }

/-- Closes the innermost group. -/
def closeGroup? (st : State) : Option State :=
  match st.outer with
  | [] => none
  | g :: outer =>
    let p := st.group
    some { st with
      flags := g.flags
      before := g.before
      pieces := ⟨p.pattern, p.height + 1, true⟩ :: g.pieces
      outer := outer }

/-- Repeats the last piece. -/
def iterate? (st : State) (min : Nat) (max : Option Nat) : Option State :=
  match st.pieces with
  | p :: pieces =>
    if p.repeatable then some { st with pieces := p.iterate min max :: pieces } else none
  | [] => none

end State

/-- Whether a character may start the name of a group. -/
def startsGroupName (c : Char) : Bool := c == '_' || Text.isLetter c

/-- Whether a character may stand in the name of a group. -/
def inGroupName (c : Char) : Bool :=
  startsGroupName c || Text.isNumeral c || c == '.' || c == '[' || c == ']'

/-- Opens a group with a name, which no other group may have. -/
def openNamed (st : State) (cs : List Char) : Option (State × List Char) :=
  let name := cs.takeWhile (· != '>')
  match cs.dropWhile (· != '>') with
  | '>' :: rest =>
    if name.head?.any startsGroupName && name.all inGroupName && !st.names.contains name then
      some ({ st.openGroup st.flags with names := name :: st.names }, rest)
    else none
  | _ => none

/-- Opens a group with flags, or sets flags for the rest of this one. -/
def openWithFlags (st : State) (cs : List Char) : Option (State × List Char) := do
  let isEnd (c : Char) : Bool := c == ':' || c == ')'
  let content := cs.takeWhile (!isEnd ·)
  let flags ← st.flags.setAll true [] content
  match cs.dropWhile (!isEnd ·) with
  | ':' :: rest => return (st.openGroup flags, rest)
  | ')' :: rest =>
    if content.isEmpty then none
    else return ({ st.add ⟨.empty, 0, false⟩ with flags := flags }, rest)
  | _ => none

/-- **Reads what follows an opening parenthesis.** Looking around is not
supported. -/
def readGroupStart (st : State) (cs : List Char) : Option (State × List Char) :=
  match st.flags.skip cs with
  | '?' :: '=' :: _ | '?' :: '!' :: _ => none
  | '?' :: '<' :: '=' :: _ | '?' :: '<' :: '!' :: _ => none
  | '?' :: 'P' :: '<' :: rest | '?' :: '<' :: rest => openNamed st rest
  | '?' :: rest => openWithFlags st rest
  | cs => some (st.openGroup st.flags, cs)

/-- A repetition by a sign. -/
def readSign (st : State) (min : Nat) (max : Option Nat) (rest : List Char) :
    Option (State × List Char) :=
  (st.iterate? min max).map (·, skipLazy rest)

/-- Adds the piece of a set of characters. -/
def addSet (st : State) (s : CharSet) (height : Nat) (rest : List Char) : State × List Char :=
  (st.add ⟨.char s, height, true⟩, rest)

/-- **One step of reading.** -/
def step (st : State) : List Char → Option (State × List Char)
  | [] => none
  | '(' :: rest => readGroupStart st rest
  | ')' :: rest => st.closeGroup?.map (·, rest)
  | '|' :: rest => some ({ st with before := .inRow st.pieces :: st.before, pieces := [] }, rest)
  | '[' :: rest => do
    let (b, after) := openBracket st.flags rest
    let (s, height, after) ← readSet st.flags b [] after
    return addSet st s height after
  | '?' :: rest => readSign st 0 (some 1) rest
  | '*' :: rest => readSign st 0 none rest
  | '+' :: rest => readSign st 1 none rest
  | '{' :: rest => do
    let (min, max, after) ← readBounds st.flags rest
    readSign st min max (st.flags.skip after)
  | '\\' :: rest => do
    let (p, after) ← readEscape st.flags rest
    return (st.add (← primitivePiece? st.flags p), after)
  | '.' :: rest => do return addSet st (← dotSet? st.flags) 0 rest
  | '^' :: rest => some (st.add (.leaf (.look (startLook st.flags))), rest)
  | '$' :: rest => some (st.add (.leaf (.look (endLook st.flags))), rest)
  | c :: rest => do return (st.add (← primitivePiece? st.flags (.literal c false)), rest)

/-- How deeply a regular expression may nest. -/
def deepest : Nat := 250

/-- The pattern of a regular expression that has been read. -/
def finish? (st : State) : Option Pattern :=
  if st.outer.isEmpty && st.group.height ≤ deepest then some st.group.pattern else none

/-- **Reads the rest of a regular expression.** A step that would take nothing
ends the reading. -/
def readRest (st : State) (cs : List Char) : Option Pattern :=
  match st.flags.skip cs with
  | [] => finish? st
  | c :: rest =>
    match step st (c :: rest) with
    | some (st, after) => if after.length < cs.length then readRest st after else none
    | none => none
termination_by cs.length

end PatternReader

/-- **The pattern of a regular expression.** Case is ignored unless it says
otherwise. -/
def Pattern.ofRegex? (source : List Char) : Option Pattern :=
  PatternReader.readRest .start source

/-- **A regular expression without the backslashes before its slashes**, which
only keep a slash from ending the literal. -/
def Pattern.unescapeSlashes : List Char → List Char
  | '\\' :: '/' :: rest => '/' :: unescapeSlashes rest
  | '\\' :: c :: rest => '\\' :: c :: unescapeSlashes rest
  | c :: rest => c :: unescapeSlashes rest
  | [] => []

end CardQuery
