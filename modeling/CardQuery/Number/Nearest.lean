import CardQuery.Number.Binary

/-!
# The nearest double

Every fraction of natural numbers has a nearest double, which is found in
exact arithmetic: the fraction is scaled by a power of two until its whole
part is a significand, and that part is rounded, a half going to the even
neighbour. The bits of the double are then a sum, because a significand that
rounds up to the next power of two carries into the exponent by itself.
-/

namespace CardQuery.Number

/-- **The integer nearest to `n / d`**, a half going to the even one. -/
def roundHalfEven (n d : Nat) : Nat :=
  let k := n / d
  match compare (2 * (n % d)) d with
  | .lt => k
  | .gt => k + 1
  | .eq => if k % 2 = 0 then k else k + 1

/-- The greatest power of two up to `n / d`, for a fraction other than
zero. -/
def floorLog (n d : Nat) : Int :=
  let k := (n.log2 : Int) - d.log2
  if n * Nat.pow 2 (-k).toNat < d * Nat.pow 2 k.toNat then k - 1 else k

/-- The bits of an infinite double. -/
def infinityBits : Nat := 0x7FF0000000000000

/-- The bits of the double nearest to `n / d`. -/
def nearestBits (n d : Nat) : Nat :=
  if n = 0 then 0
  else
    let e := max (floorLog n d - 52) (-1074)
    let m := roundHalfEven (n * Nat.pow 2 (-e).toNat) (d * Nat.pow 2 e.toNat)
    min ((e + 1074).toNat * Nat.pow 2 52 + m) infinityBits

/-- **The double nearest to `n / d`**, infinite if that exceeds all
doubles. -/
def nearestTo (n d : Nat) : Float := .ofBits (nearestBits n d).toUInt64

/-- The double nearest to a natural number. -/
def ofNat (n : Nat) : Float := nearestTo n 1

/-! ## Operations that need no rounding, or one -/

/-- The double with a given absolute value, for one that a double has. -/
def Binary.toFloat (b : Binary) : Float :=
  nearestTo (b.significand * Nat.pow 2 b.exponent.toNat) (Nat.pow 2 (-b.exponent).toNat)

/-- **The nearest integer**, a half going away from zero. -/
def roundHalfAway (x : Float) : Float :=
  if !x.isFinite then x
  else
    let b := magnitude x
    if b.exponent ≥ 0 then x
    else
      let unit := Nat.pow 2 (-b.exponent).toNat
      withSign (isNegative x) (ofNat ((2 * b.significand + unit) / (2 * unit)))

/-- **The remainder of a quotient that is cut off towards zero.** It is exact,
takes the sign of the dividend, and is not a number where there is no
quotient. -/
def remainder (x y : Float) : Float :=
  if x.isNaN || y.isNaN || x.isInf || y == 0 then notANumber
  else if y.isInf then x
  else
    let a := magnitude x
    let b := magnitude y
    let e := min a.exponent b.exponent
    let m := a.significand * Nat.pow 2 (a.exponent - e).toNat
    let n := b.significand * Nat.pow 2 (b.exponent - e).toNat
    withSign (isNegative x) (Binary.toFloat ⟨m % n, e⟩)

end CardQuery.Number
