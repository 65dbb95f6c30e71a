/-!
# Patterns

A pattern describes pieces of text. It is built from single characters,
given by the property they must have, and from *looks*, which take no
character and only ask what stands on both sides of a place.

To search a text, a pattern is laid over it. What was a property of
characters is then a set of places, written as the bits of a natural number,
and so is what the pattern computes: from the places where it may start, the
places where it can end. Nothing is ever tried twice, so no text makes a
search slow.
-/

namespace CardQuery

/-! ## Looks -/

/-- **What may be asked about a place in a text.** -/
inductive Look where
  /-- The text starts here. -/
  | textStart
  /-- The text ends here. -/
  | textEnd
  /-- A line starts here, after a newline. -/
  | lineStart
  /-- A line ends here, before a newline. -/
  | lineEnd
  /-- A line starts here, after a newline or a lone carriage return. -/
  | anyLineStart
  /-- A line ends here, before a carriage return or a lone newline. -/
  | anyLineEnd
  /-- A word starts or ends here. -/
  | boundary (inWord : Char → Bool)
  /-- No word starts or ends here. -/
  | noBoundary (inWord : Char → Bool)
  /-- A word starts here. -/
  | wordStart (inWord : Char → Bool)
  /-- A word ends here. -/
  | wordEnd (inWord : Char → Bool)
  /-- No character of a word stands before. -/
  | noWordBefore (inWord : Char → Bool)
  /-- No character of a word stands after. -/
  | noWordAfter (inWord : Char → Bool)

/-- **Whether a look holds** between two characters, either of which may be
missing. -/
def Look.holds (before after : Option Char) : Look → Bool
  | textStart => before.isNone
  | textEnd => after.isNone
  | lineStart => before.all (· == '\n')
  | lineEnd => after.all (· == '\n')
  | anyLineStart => before.all (· == '\n') || (before == some '\r' && after != some '\n')
  | anyLineEnd => after.all (· == '\r') || (after == some '\n' && before != some '\r')
  | boundary w => before.any w != after.any w
  | noBoundary w => before.any w == after.any w
  | wordStart w => !before.any w && after.any w
  | wordEnd w => before.any w && !after.any w
  | noWordBefore w => !before.any w
  | noWordAfter w => !after.any w

/-! ## Patterns -/

/-- **Patterns.** -/
inductive Pattern where
  /-- No text. -/
  | empty
  /-- One character with a property. -/
  | char (accepts : Char → Bool)
  /-- No text, where a look holds. -/
  | look (l : Look)
  /-- One pattern, then another. -/
  | seq (p q : Pattern)
  /-- One pattern or another. -/
  | alt (p q : Pattern)
  /-- A pattern a number of times, at least `min` and at most `max`. -/
  | iterate (p : Pattern) (min : Nat) (max : Option Nat)

/-- A pattern laid over a text: the places where it can start, at its
leaves. -/
inductive Route where
  /-- Stays at a place, where that is allowed. -/
  | stay (places : Nat)
  /-- Goes one place on, where that is allowed. -/
  | step (places : Nat)
  | seq (p q : Route)
  | alt (p q : Route)
  | iterate (p : Route) (min : Nat) (max : Option Nat)

namespace Pattern

/-- The number whose lowest bit is given, with the other bits above it. -/
def withBit (b : Bool) (higher : Nat) : Nat := 2 * higher + b.toNat

/-- The places before a character with a property. -/
def placesBefore (accepts : Char → Bool) : List Char → Nat
  | [] => 0
  | c :: rest => withBit (accepts c) (placesBefore accepts rest)

/-- The places of a text where a look holds, if a character stands before the
text. -/
def placesOf (l : Look) (before : Option Char) : List Char → Nat
  | [] => withBit (l.holds before none) 0
  | c :: rest => withBit (l.holds before (some c)) (placesOf l (some c) rest)

/-- All places of a text, of which there is one more than characters. -/
def allPlaces (text : List Char) : Nat := Nat.pow 2 (text.length + 1) - 1

/-- **Lays a pattern over a text.** -/
def layOver (text : List Char) : Pattern → Route
  | empty => .stay (allPlaces text)
  | char accepts => .step (placesBefore accepts text)
  | look l => .stay (placesOf l none text)
  | seq p q => .seq (p.layOver text) (q.layOver text)
  | alt p q => .alt (p.layOver text) (q.layOver text)
  | iterate p min max => .iterate (p.layOver text) min max

end Pattern

namespace Route

/-- A map of places, applied a number of times. -/
def times (f : Nat → Nat) : Nat → Nat → Nat
  | 0, s => s
  | k + 1, s => times f k (f s)

/-- The places that up to a number of applications reach. Once nothing new
comes, nothing new will come. -/
def reach (f : Nat → Nat) : Nat → Nat → Nat
  | 0, s => s
  | k + 1, s =>
    let t := s ||| f s
    if t = s then s else reach f k t

/-- **The places where a route can end** if it starts at one of some places
of a text of length `n`. A route of more than `n + 1` rounds stays somewhere
for a round, so more rounds reach nothing else. -/
def ends (n : Nat) : Route → Nat → Nat
  | stay places, s => s &&& places
  | step places, s => (s &&& places) <<< 1
  | seq p q, s => q.ends n (p.ends n s)
  | alt p q, s => p.ends n s ||| q.ends n s
  | iterate p least most, s =>
    let optional := match most with
      | none => n
      | some m => min n (m - least)
    reach (p.ends n) optional (times (p.ends n) (min least (n + 1)) s)

end Route

namespace Pattern

/-- **Whether a pattern describes some piece of a text.** -/
def isMatch (p : Pattern) (text : List Char) : Bool :=
  (p.layOver text).ends text.length (allPlaces text) != 0

/-- A sequence of patterns. -/
def sequence : List Pattern → Pattern
  | [] => empty
  | [p] => p
  | p :: rest => seq p (sequence rest)

/-- A choice of patterns. -/
def choice (first : Pattern) : List Pattern → Pattern
  | [] => first
  | p :: rest => alt first (choice p rest)

end Pattern

end CardQuery
