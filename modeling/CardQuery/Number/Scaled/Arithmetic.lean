import CardQuery.Number.Scaled

/-!
# Arithmetic on scaled decimals

Sums, products and remainders are computed exactly and then *fitted*: digits
are dropped from the end, rounding once, until 96 bits and 28 places hold the
rest. A quotient is developed nine digits at a time until it is exact or no
further digit fits. Every operation gives nothing where no decimal can hold
the result.
-/

namespace CardQuery.Number.Scaled

/-! ## Fitting -/

/-- The least number of digits to drop, from `k` on and at most `n` more, so
that the rest of a mantissa fits. -/
def dropCount (m k : Nat) : Nat → Option Nat
  | 0 => if roundHalfEven m (Nat.pow 10 k) ≤ maxMantissa then some k else none
  | n + 1 => if roundHalfEven m (Nat.pow 10 k) ≤ maxMantissa then some k else dropCount m (k + 1) n

/-- **Fits an exact number into a decimal**: as few digits as possible are
dropped, all of them places, and what is left is rounded once, a half going
to the even neighbour. -/
def fit? (m scale : Nat) : Option (Nat × Nat) := do
  let least := scale - maxScale
  let k ← dropCount m least (scale - least)
  return (roundHalfEven m (Nat.pow 10 k), scale - k)

/-- An exact signed number fitted into a decimal. A zero has no sign. -/
def fitSigned? (m : Int) (scale : Nat) : Option Scaled := do
  let (n, s) ← fit? m.natAbs scale
  return ⟨m < 0 && n != 0, n, s⟩

/-! ## Sums and products -/

/-- The signed mantissa of a decimal at a scale that is not smaller. -/
def atScale (a : Scaled) (scale : Nat) : Int := a.signed * Nat.pow 10 (scale - a.scale)

/-- The decimal with the other sign. -/
def negate (a : Scaled) : Scaled := { a with negative := !a.negative }

/-- **The sum.** -/
def add? (a b : Scaled) : Option Scaled :=
  if a.isZero then some b
  else if b.isZero then some a
  else
    let s := max a.scale b.scale
    fitSigned? (a.atScale s + b.atScale s) s

/-- **The difference.** -/
def subtract? (a b : Scaled) : Option Scaled := add? a b.negate

/-- The least mantissa whose product keeps its sign even if it is rounded to
zero. -/
def wordSize : Nat := Nat.pow 2 32

/-- **The product.** -/
def multiply? (a b : Scaled) : Option Scaled :=
  if a.isZero || b.isZero then some zero
  else do
    let (m, s) ← fit? (a.mantissa * b.mantissa) (a.scale + b.scale)
    let keepsSign := m != 0 || a.mantissa ≥ wordSize || b.mantissa ≥ wordSize
    return ⟨(a.negative != b.negative) && keepsSign, m, s⟩

/-! ## Quotients -/

/-- A quotient with the places it has so far. -/
structure Quotient where
  /-- The digits so far. -/
  digits : Nat
  /-- The number of places among them, negative while whole digits are
  missing. -/
  places : Int
  /-- Whether a remainder was developed. -/
  developed : Bool

/-- How many digits are developed at once. -/
def digitsAtOnce : Nat := 9

/-- The greatest number of digits, up to a bound, by which a quotient may
grow. -/
def growth (q : Nat) : Nat → Nat
  | 0 => 0
  | p + 1 => if q * Nat.pow 10 (p + 1) ≤ maxMantissa then p + 1 else growth q p

theorem growth_le (q p : Nat) : growth q p ≤ p := by
  induction p with
  | zero => exact Nat.le_refl 0
  | succ p ih =>
    unfold growth
    split
    · exact Nat.le_refl _
    · exact Nat.le_succ_of_le ih

/-- Drops the last digit of a quotient that does not fit, rounding half to
even; a remainder counts as more than half. Without places nothing can be
dropped. -/
def dropDigit? (q : Nat) (places : Int) (inexact : Bool) : Option Quotient :=
  if places = 0 then none
  else
    let k := q / 10
    let up := q % 10 > 5 || (q % 10 == 5 && (inexact || k % 2 == 1))
    some ⟨if up then k + 1 else k, places - 1, true⟩

/-- Rounds a quotient that can take no further digit. -/
def closeQuotient? (q r d : Nat) (places : Int) : Option Quotient :=
  let up := 2 * r > d || (2 * r == d && q % 2 == 1)
  let q := if up then q + 1 else q
  if q > maxMantissa then dropDigit? q places false else some ⟨q, places, true⟩

/-- **Develops a quotient** from its digits so far and the remainder: no
further if it is exact, else by as many digits as fit. -/
def develop? (q r d : Nat) (places : Int) (developed : Bool) : Option Quotient :=
  if r = 0 then
    if _ : places ≥ 0 then some ⟨q, places, developed⟩
    else
      let p := min digitsAtOnce (-places).toNat
      if q * Nat.pow 10 p > maxMantissa then none
      else develop? (q * Nat.pow 10 p) 0 d (places + p) developed
  else
    let p := growth q (min digitsAtOnce (maxScale - places).toNat)
    if p < digitsAtOnce ∧ places + p < 0 then none
    else if _ : p = 0 then closeQuotient? q r d places
    else
      let dividend := r * Nat.pow 10 p
      let grown := q * Nat.pow 10 p + dividend / d
      if grown > maxMantissa then dropDigit? grown (places + p) (dividend % d != 0)
      else develop? grown (dividend % d) d (places + p) true
termination_by (maxScale - places).toNat
decreasing_by
  · simp only [digitsAtOnce, maxScale]
    omega
  · have hle : p ≤ min digitsAtOnce (maxScale - places).toNat := growth_le q _
    change (maxScale - (places + p)).toNat < (maxScale - places).toNat
    clear_value p
    simp only [digitsAtOnce, maxScale] at hle ⊢
    omega

/-- Drops eight zeros at the end of a quotient as long as there are eight,
and the digits show it in their last 32 bits. -/
def dropEightZeros (q scale : Nat) : Nat × Nat :=
  if q % wordSize = 0 ∧ scale ≥ 8 ∧ q % Nat.pow 10 8 = 0 then
    dropEightZeros (q / Nat.pow 10 8) (scale - 8)
  else (q, scale)
termination_by scale

/-- Drops a number of zeros at the end of a quotient, once, if they are
there. -/
def dropZerosOnce (count : Nat) : Nat × Nat → Nat × Nat
  | (q, scale) =>
    if q % Nat.pow 2 count = 0 ∧ scale ≥ count ∧ q % Nat.pow 10 count = 0 then
      (q / Nat.pow 10 count, scale - count)
    else (q, scale)

/-- Drops zeros at the end of a quotient. -/
def dropQuotientZeros (q scale : Nat) : Nat × Nat :=
  dropZerosOnce 1 (dropZerosOnce 2 (dropZerosOnce 4 (dropEightZeros q scale)))

/-- **The quotient.** There is none by zero. -/
def divide? (a b : Scaled) : Option Scaled :=
  if b.isZero then none
  else if a.isZero then some zero
  else do
    let q ← develop? (a.mantissa / b.mantissa) (a.mantissa % b.mantissa) b.mantissa
      ((a.scale : Int) - b.scale) false
    let (m, s) :=
      if q.developed then dropQuotientZeros q.digits q.places.toNat
      else (q.digits, q.places.toNat)
    return ⟨a.negative != b.negative, m, s⟩

/-! ## Remainders -/

/-- **The remainder**, which has the sign of the dividend. There is none by
zero. -/
def remainder? (a b : Scaled) : Option Scaled :=
  if b.isZero then none
  else if a.isZero then some zero
  else
    let s := max a.scale b.scale
    let m := (a.atScale s).natAbs
    let n := (b.atScale s).natAbs
    if m = n then some zero
    else if m < n then some a
    else some ⟨a.negative && m % n != 0, m % n, s⟩

end CardQuery.Number.Scaled
