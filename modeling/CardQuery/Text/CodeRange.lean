/-!
# Tables of characters

A property of characters is a table of ranges of code points, ascending and
apart. Alphabets that alternate capital and small letters have ranges of
step two, which keeps their tables short. A case mapping is a table of the
same shape in which every range also carries the distance to the image.
-/

namespace CardQuery.Text

/-- The code points `first`, `first + step`, and so on up to `last`. -/
structure CodeRange where
  /-- The least code point of the range. -/
  first : Nat
  /-- The greatest one. -/
  last : Nat
  /-- The distance between neighbours. -/
  step : Nat
deriving Repr, DecidableEq

/-- Whether a range that reaches as far as a code point holds it. -/
def CodeRange.holds (r : CodeRange) (n : Nat) : Bool :=
  r.first ≤ n && (n - r.first) % r.step == 0

/-- Whether a table holds a code point: the first range that reaches as far
decides. -/
def tableHolds : List CodeRange → Nat → Bool
  | [], _ => false
  | r :: rest, n => if n ≤ r.last then r.holds n else tableHolds rest n

/-- **Whether a character is in a table.** -/
def inTable (table : List CodeRange) (c : Char) : Bool := tableHolds table c.toNat

/-- A range of characters that all lie the same distance from their image. -/
structure CodeShift where
  /-- The characters. -/
  range : CodeRange
  /-- How far each of them moves. -/
  distance : Int
deriving Repr, DecidableEq

/-- The code point a table of shifts sends a code point to. What is in no
range stays. -/
def shiftCode : List CodeShift → Nat → Nat
  | [], n => n
  | s :: rest, n =>
    if n ≤ s.range.last then
      if s.range.holds n then ((n : Int) + s.distance).toNat else n
    else shiftCode rest n

/-- **The image of a character under a table of shifts.** -/
def shiftChar (shifts : List CodeShift) (c : Char) : Char :=
  Char.ofNat (shiftCode shifts c.toNat)

/-- The characters that a table of shifts moves to a given one. -/
def shiftedTo (shifts : List CodeShift) (target : Char) : List Char :=
  shifts.filterMap fun s =>
    let source := (target.toNat : Int) - s.distance
    if 0 ≤ source ∧ source.toNat ≤ s.range.last ∧ s.range.holds source.toNat then
      some (Char.ofNat source.toNat)
    else none

end CardQuery.Text
