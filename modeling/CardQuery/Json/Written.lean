import CardQuery.Json.Basic
import CardQuery.Number.Reading

/-!
# JSON as written

The tree of a JSON text before anything is decided about its values. The
members of an object keep their order and their repetitions. A number that
no double can hold, or a string whose escapes make no text, is well formed
and still has no value; a reader that has no use for it may pass it over.

`Written.toJson?` is the strict reading: every value has to exist, the last
of several members of one name counts, and nesting is limited.
-/

namespace CardQuery

/-! ## Numbers -/

/-- **A number as written.** -/
structure Numeral where
  /-- Whether a minus stands in front. -/
  negative : Bool
  /-- The digits before the point. -/
  whole : List Char
  /-- The digits after the point, if there is one. -/
  fraction : Option (List Char)
  /-- The exponent, if there is one. -/
  exponent : Option Int

namespace Numeral

/-- **Appends digits to a significand while it fits into 64 bits**, and gives
the digits left over. -/
def extend (n : Nat) : List Char → Nat × List Char
  | [] => (n, [])
  | d :: ds =>
    let m := 10 * n + Number.digitValue d
    if m < Nat.pow 2 64 then extend m ds else (n, d :: ds)

/-- The double of a power of ten. -/
def powerOfTen (k : Nat) : Float := Number.ofNat (Nat.pow 10 k)

/-- The greatest exponent of a power of ten that a double can hold. -/
def greatestPower : Nat := 308

/-- **Scales a double by a power of ten**: one multiplication or division, and
further divisions by the greatest power if one is not enough. What exceeds
all doubles has no value. -/
def scale (x : Float) (e : Int) : Option Float :=
  if e.natAbs ≤ greatestPower then
    if e < 0 then some (x / powerOfTen e.natAbs)
    else
      let y := x * powerOfTen e.natAbs
      if y.isInf then none else some y
  else if x == 0 then some x
  else if e < 0 then scale (x / powerOfTen greatestPower) (e + greatestPower)
  else none
termination_by e.natAbs
decreasing_by simp only [greatestPower] at *; omega

/-- The integer of a numeral that has neither fraction nor exponent. Zero
with a minus is no integer. -/
def integer? (negative : Bool) (n : Nat) : Option Int :=
  if !negative then some n
  else if n = 0 ∨ n > Nat.pow 2 63 then none
  else some (-n)

/-- The double of a numeral: the digits that fit into 64 bits, scaled by the
exponent and by the digits that did not fit. -/
def float? (num : Numeral) : Option Float :=
  let (n, excess) := extend 0 num.whole
  let digits := num.fraction.getD []
  let (m, rest) := extend n digits
  let e := (excess.length : Int) - (digits.length - rest.length : Nat) + num.exponent.getD 0
  (scale (Number.ofNat m) e).map (Number.withSign num.negative)

/-- **The value of a numeral**, if there is one. -/
def value? (num : Numeral) : Option JsonNumber :=
  let (n, excess) := extend 0 num.whole
  if num.fraction.isNone ∧ num.exponent.isNone ∧ excess = [] then
    match integer? num.negative n with
    | some i => some (.integer i)
    | none => some (.float (Number.withSign num.negative (Number.ofNat n)))
  else num.float?.map .float

end Numeral

/-! ## Trees -/

/-- **The tree of a JSON text.** -/
inductive Written where
  | null
  | boolean (b : Bool)
  /-- A number, if it has a value. -/
  | number (n : Option JsonNumber)
  /-- A string, if its escapes make a text. -/
  | string (s : Option String)
  | array (items : List Written)
  /-- The members in the order in which they were written. -/
  | object (members : List (Option String × Written))

namespace Written

mutual

/-- The JSON value of a tree that nests no deeper than a limit. -/
def within (limit : Nat) : Written → Option Json
  | null => some .null
  | boolean b => some (.boolean b)
  | number n => n.map .number
  | string s => s.map .string
  | array items =>
    match limit with
    | 0 => none
    | limit + 1 => (itemsWithin limit items).map .array
  | object members =>
    match limit with
    | 0 => none
    | limit + 1 => (membersWithin limit members).map fun ms => .object (Catalog.ofList ms)

/-- The JSON values of some trees. -/
def itemsWithin (limit : Nat) : List Written → Option (List Json)
  | [] => some []
  | v :: rest => do return (← within limit v) :: (← itemsWithin limit rest)

/-- The members of an object. -/
def membersWithin (limit : Nat) :
    List (Option String × Written) → Option (List (String × Json))
  | [] => some []
  | (name, v) :: rest => do
    return (← name, ← within limit v) :: (← membersWithin limit rest)

end

/-- How deeply the values of a text may nest. -/
def deepest : Nat := 127

/-- **The JSON value of a tree**, if all of it has a value. -/
def toJson? (w : Written) : Option Json := w.within deepest

end Written

end CardQuery
