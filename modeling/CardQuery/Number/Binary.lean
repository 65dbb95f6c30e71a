/-!
# Doubles as integers

A finite double is a natural number times a power of two. Everything the
library does to doubles beyond the operations of the hardware — writing them,
taking remainders, turning them into decimals — is exact arithmetic on that
pair.
-/

namespace CardQuery.Number

/-- The number `significand * 2 ^ exponent`. -/
structure Binary where
  /-- The significand. -/
  significand : Nat
  /-- The power of two. -/
  exponent : Int
deriving Repr, DecidableEq

/-- Whether the sign of a double is negative. Zero has a sign too. -/
def isNegative (x : Float) : Bool := x.toBits >>> 63 == 1

/-- **The absolute value of a finite double.** -/
def magnitude (x : Float) : Binary :=
  let biased := ((x.toBits >>> 52) &&& 0x7FF).toNat
  let fraction := (x.toBits &&& 0xFFFFFFFFFFFFF).toNat
  if biased = 0 then ⟨fraction, -1074⟩ else ⟨Nat.pow 2 52 + fraction, (biased : Int) - 1075⟩

/-- Whether the next double towards zero is only half as far away as the next
one away from zero. That is so at the powers of two, except at the least
exponent. -/
def Binary.isNarrow (b : Binary) : Bool :=
  b.significand == Nat.pow 2 52 && b.exponent > -1074

/-- A double with a sign put on. -/
def withSign (negative : Bool) (x : Float) : Float := if negative then -x else x

/-- The infinite double. -/
def infinity : Float := .ofBits 0x7FF0000000000000

/-- What is not a number. -/
def notANumber : Float := .ofBits 0x7FF8000000000000

end CardQuery.Number
