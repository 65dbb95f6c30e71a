import CardQuery.Number.Nearest

/-!
# Reading decimals

A decimal is read to the nearest double, a tie going to the even one.
Exponents beyond all doubles are cut off before any arithmetic, so that the
length of the text alone bounds the work.
-/

namespace CardQuery.Number

/-- Whether a character is one of the ten basic digits. -/
def isDigit (c : Char) : Bool := '0' ≤ c && c ≤ '9'

/-- The value of a basic digit. -/
def digitValue (c : Char) : Nat := c.toNat - '0'.toNat

/-- The number that some digits write in base ten. -/
def digitsValue (cs : List Char) : Nat := cs.foldl (fun n c => 10 * n + digitValue c) 0

/-- **The double nearest to `digits * 10 ^ exponent`**, infinite if that
exceeds all doubles. -/
def nearest (digits : Nat) (exponent : Int) : Float :=
  let size := (Nat.toDigits 10 digits).length + exponent
  if digits = 0 then 0
  else if size > 310 then infinity
  else if size < -330 then 0
  else nearestTo (digits * Nat.pow 10 exponent.toNat) (Nat.pow 10 (-exponent).toNat)

/-- The number of an exponent, with its sign. -/
def signedValue (negative : Bool) (digits : List Char) : Int :=
  if negative then -(digitsValue digits : Int) else digitsValue digits

/-- The digits of an optional fraction, and what follows them. -/
def splitFraction : List Char → List Char × List Char
  | '.' :: rest => (rest.takeWhile isDigit, rest.dropWhile isDigit)
  | cs => ([], cs)

/-- The value of an optional exponent that ends the text. An exponent has at
least one digit. -/
def exponentValue? : List Char → Option Int
  | [] => some 0
  | 'e' :: rest =>
    let (negative, digits) := match rest with
      | '-' :: digits => (true, digits)
      | '+' :: digits => (false, digits)
      | digits => (false, digits)
    if digits ≠ [] ∧ digits.all isDigit then some (signedValue negative digits) else none
  | _ => none

/-- The double of an unsigned decimal: digits, an optional fraction with at
least one digit in all, and an optional exponent. -/
def unsigned? (cs : List Char) : Option Float :=
  let whole := cs.takeWhile isDigit
  let (fraction, rest) := splitFraction (cs.dropWhile isDigit)
  if whole.isEmpty && fraction.isEmpty then none
  else (exponentValue? rest).map fun e =>
    nearest (digitsValue (whole ++ fraction)) (e - fraction.length)

/-- **The double of a decimal text**, which may carry a sign. -/
def decimal? : List Char → Option Float
  | '-' :: cs => (unsigned? cs).map (- ·)
  | '+' :: cs => unsigned? cs
  | cs => unsigned? cs

end CardQuery.Number
