import CardQuery.Number.Binary

/-!
# The shortest decimal of a double

Between a double and its neighbours lies an interval of numbers that round to
it. Among the decimals in that interval `shortest` picks one with the fewest
digits, and of those the nearest. The search goes through the grids of one,
two, … seventeen digits; on each grid only the two neighbours of the double
can be the answer, because if any point of the grid lies in the interval,
one of these does.

Where two shortest decimals are equally near, `Tie` says which is taken.
`plainText` writes the decimal out in full, whatever its size.
-/

namespace CardQuery.Number

/-- The number `digits * 10 ^ exponent`. -/
structure Decimal where
  /-- The digits, read as one number. -/
  digits : Nat
  /-- The power of ten. -/
  exponent : Int
deriving Repr, DecidableEq

/-- What becomes of a decimal that two candidates are equally near to. -/
inductive Tie where
  /-- The candidate with an even last digit. -/
  | toEven
  /-- The greater candidate. -/
  | up
deriving Repr, DecidableEq

/-- Drops the zeros at the end of the digits. -/
def Decimal.stripZeros (d : Decimal) : Decimal :=
  if d.digits ≠ 0 ∧ d.digits % 10 = 0 then
    Decimal.stripZeros ⟨d.digits / 10, d.exponent + 1⟩
  else d
termination_by d.digits
decreasing_by omega

/-- The decimal that equals a binary number. -/
def Binary.toDecimal (b : Binary) : Decimal :=
  if b.exponent ≥ 0 then ⟨b.significand * Nat.pow 2 b.exponent.toNat, 0⟩
  else ⟨b.significand * Nat.pow 5 (-b.exponent).toNat, b.exponent⟩

/-- The quotient of `n * 2 ^ e` by `10 ^ g`, as a numerator and a
denominator. -/
def scaledBy (n : Nat) (e g : Int) : Nat × Nat :=
  (n * Nat.pow 2 e.toNat * Nat.pow 10 (-g).toNat, Nat.pow 2 (-e).toNat * Nat.pow 10 g.toNat)

/-- The least power of ten above a number other than zero. The logarithm
tells it up to two. -/
def Binary.decimalExponent (b : Binary) : Int :=
  let below (k : Int) : Bool :=
    let (n, d) := scaledBy b.significand b.exponent k
    n < d
  let guess := ((b.significand.log2 : Int) + b.exponent) * 30103 / 100000
  if below guess then guess else if below (guess + 1) then guess + 1 else guess + 2

/-- **The decimal on a grid that rounds to a binary number**, if the grid has
one: of the two neighbours the one that lies in the interval, or the nearer
of both. -/
def Binary.onGrid (b : Binary) (tie : Tie) (g : Int) : Option Nat :=
  let (n, d) := scaledBy (4 * b.significand) (b.exponent - 2) g
  let quarter := Nat.pow 2 (b.exponent - 2).toNat * Nat.pow 10 (-g).toNat
  let low := if b.isNarrow then n - quarter else n - 2 * quarter
  let high := n + 2 * quarter
  let closed := b.significand % 2 == 0
  let k := n / d
  let lower := low < k * d || (closed && low == k * d)
  let upper := (k + 1) * d < high || (closed && (k + 1) * d == high)
  match lower, upper with
  | false, false => none
  | true, false => some k
  | false, true => some (k + 1)
  | true, true =>
    match compare (2 * n) ((2 * k + 1) * d), tie with
    | .lt, _ => some k
    | .gt, _ => some (k + 1)
    | .eq, .up => some (k + 1)
    | .eq, .toEven => some (if k % 2 = 0 then k else k + 1)

/-- **The shortest decimal that rounds to a binary number.** Seventeen digits
always suffice; the equal decimal stands behind the search all the same. -/
def Binary.shortest (b : Binary) (tie : Tie) : Decimal :=
  if b.significand = 0 then ⟨0, 0⟩
  else
    let k := b.decimalExponent
    let found := (List.range' 1 17).findSome? fun (n : Nat) =>
      let g := k - (n : Int)
      (b.onGrid tie g).map fun digits => (⟨digits, g⟩ : Decimal)
    (found.getD b.toDecimal).stripZeros

/-- The characters of a natural number in base ten. -/
def digitChars (n : Nat) : List Char := Nat.toDigits 10 n

/-- A decimal written in full, without an exponent and without a fraction
that is zero. -/
def Decimal.plain (d : Decimal) : List Char :=
  let ds := digitChars d.digits
  if d.exponent ≥ 0 then ds ++ List.replicate d.exponent.toNat '0'
  else
    let places := (-d.exponent).toNat
    if places < ds.length then
      ds.take (ds.length - places) ++ '.' :: ds.drop (ds.length - places)
    else '0' :: '.' :: List.replicate (places - ds.length) '0' ++ ds

/-- **The text of a double**: the shortest decimal, written in full. The sign
of zero is kept. -/
def plainText (x : Float) : String :=
  if x.isNaN then "NaN"
  else if x.isInf then (if isNegative x then "-inf" else "inf")
  else
    let text := String.ofList ((magnitude x).shortest .up).plain
    if isNegative x && (magnitude x).significand == 0 then "-0"
    else if isNegative x then "-" ++ text
    else text

end CardQuery.Number
