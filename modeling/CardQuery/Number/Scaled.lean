import CardQuery.Number.Nearest

/-!
# Scaled decimals

Sums of money-like numbers should come out as people expect: `0.1 + 0.2` is
`0.3`. For that a double is taken for the decimal it was most likely written
as, namely a mantissa of at most 96 bits with at most 28 places, and the
arithmetic is done on such decimals.

A double becomes a decimal in two movements. Its power of two is traded for
powers of five and ten, which costs digits only where the mantissa would
outgrow its 96 bits; then places beyond the 28th and digits beyond the
precision of a double are rounded off. The way back takes the whole part and
the fraction apart and rounds the sum to the places of the decimal.
-/

namespace CardQuery.Number

/-- **The number `mantissa / 10 ^ scale`**, with a sign. -/
structure Scaled where
  /-- Whether the sign is negative. Zero may have that sign. -/
  negative : Bool
  /-- All digits, read as one number. -/
  mantissa : Nat
  /-- How many of them are places after the point. -/
  scale : Nat
deriving Repr, DecidableEq

namespace Scaled

/-- The greatest mantissa. -/
def maxMantissa : Nat := Nat.pow 2 96 - 1

/-- The greatest number of places. -/
def maxScale : Nat := 28

/-- Zero. -/
def zero : Scaled := ⟨false, 0, 0⟩

/-- Whether a decimal is zero, with either sign. -/
def isZero (a : Scaled) : Bool := a.mantissa == 0

/-- The mantissa with its sign. -/
def signed (a : Scaled) : Int := if a.negative then -(a.mantissa : Int) else a.mantissa

/-! ## From doubles -/

/-- A number on the way from base two to base ten: the mantissa and the power
of ten it is multiplied by. -/
structure Partial where
  /-- The mantissa. -/
  mantissa : Nat
  /-- The power of ten. -/
  exponent : Int

/-- **Trades divisions by five for divisions by ten**, as many as given. An
even mantissa gives up a factor two instead, and one that is too large to
take a factor five gives up its last bit. -/
def Partial.divideByFive : Nat → Partial → Partial
  | 0, p => p
  | n + 1, ⟨m, e⟩ =>
    if m % 2 = 0 then divideByFive n ⟨m / 2, e + 1⟩
    else if 5 * m ≤ maxMantissa then divideByFive n ⟨5 * m, e⟩
    else divideByFive n ⟨m / 2, e + 1⟩

/-- **Trades multiplications by five for multiplications by ten**, as many as
given. A mantissa that is too large to take a factor two loses a factor five;
that fails where the number is too large altogether. -/
def Partial.multiplyByFive : Nat → Partial → Option Partial
  | 0, p => some p
  | n + 1, ⟨m, e⟩ =>
    if m < Nat.pow 2 95 then multiplyByFive n ⟨2 * m, e - 1⟩
    else if 2 * e > n + 1 then none
    else multiplyByFive n ⟨m / 5, e⟩

/-- Multiplies by ten, as many times as given, if the mantissa can hold
that. -/
def Partial.multiplyByTen : Nat → Partial → Option Partial
  | 0, p => some p
  | n + 1, ⟨m, e⟩ =>
    if 10 * m ≤ maxMantissa then multiplyByTen n ⟨10 * m, e - 1⟩ else none

/-- A mantissa without its last digit, rounded half up. -/
def roundOff (m : Nat) : Nat := if m % 10 ≥ 5 then m / 10 + 1 else m / 10

/-- Rounds off as many places as given. A number that vanishes has no
places. -/
def Partial.roundPlaces : Nat → Partial → Partial
  | 0, p => p
  | n + 1, ⟨m, e⟩ =>
    if m / 10 = 0 then ⟨0, 0⟩ else roundPlaces n ⟨roundOff m, e + 1⟩

/-- The precision of a double. -/
def precision : Nat := Nat.pow 2 52

/-- Rounds off digits beyond the precision of a double, of as many places as
given. -/
def Partial.roundDigits : Nat → Partial → Partial
  | 0, p => p
  | n + 1, ⟨m, e⟩ => if m ≥ precision then roundDigits n ⟨roundOff m, e + 1⟩ else ⟨m, e⟩

/-- Drops zeros at the end, of as many places as given. -/
def Partial.dropZeros : Nat → Partial → Partial
  | 0, p => p
  | n + 1, ⟨m, e⟩ => if m % 10 = 0 then dropZeros n ⟨m / 10, e + 1⟩ else ⟨m, e⟩

/-- The decimal of a positive number `m * 2 ^ e`. -/
def ofBinary? (negative : Bool) (b : Binary) : Option Scaled := do
  let p := Partial.divideByFive (-b.exponent).toNat ⟨b.significand, b.exponent⟩
  let p ← p.multiplyByFive b.exponent.toNat
  let p ← p.multiplyByTen p.exponent.toNat
  let p := p.roundPlaces (-p.exponent - maxScale).toNat
  let p := p.roundDigits (-p.exponent).toNat
  let p := p.dropZeros (-p.exponent).toNat
  return ⟨negative, p.mantissa, (-p.exponent).toNat⟩

/-- **The decimal that a double stands for**, if there is one that holds
it. -/
def ofFloat? (x : Float) : Option Scaled :=
  if !x.isFinite then none
  else if x == 0 then some zero
  else ofBinary? (isNegative x) (magnitude x)

/-! ## To doubles -/

/-- A power, computed by squaring the base once for every bit of the
exponent. -/
def powerBySquaring (result base : Float) (n : Nat) : Float :=
  let result := if n % 2 = 1 then result * base else result
  if n / 2 = 0 then result else powerBySquaring result (base * base) (n / 2)
termination_by n
decreasing_by omega

/-- **The double of a decimal.** A whole number is rounded once. Otherwise
whole part and fraction are rounded by themselves, and their sum is rounded
to the places of the decimal. -/
def toFloat (a : Scaled) : Float :=
  if a.scale = 0 then withSign (a.negative && !a.isZero) (ofNat a.mantissa)
  else
    let unit := Nat.pow 10 a.scale
    let whole := ofNat (a.mantissa / unit)
    let fraction := ofNat (a.mantissa % unit) / ofNat unit
    if fraction == 0 then withSign a.negative whole
    else
      let p := powerBySquaring 1 10 a.scale
      withSign a.negative (roundHalfAway ((whole + fraction) * p) / p)

end Scaled

end CardQuery.Number
