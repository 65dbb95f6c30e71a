import CardQuery.Evaluation.Error
import CardQuery.Number.Reading
import CardQuery.Text.Blank
import CardQuery.Text.Lowercase

/-!
# Numbers out of values

Card data write numbers in many ways. A string is a number if, without the
blanks around it and in lowercase, it is a decimal or an integer in one of
three other bases; the empty string is zero. Four signs stand for costs that
are no amounts: a dash for no cost at all, and `x`, a star and a question
mark for three amounts below every real one.
-/

namespace CardQuery

namespace Number

/-- The value of a digit in a base up to sixteen. -/
def digitIn? (base : Nat) (c : Char) : Option Nat :=
  let n :=
    if isDigit c then digitValue c
    else if 'a' ≤ c ∧ c ≤ 'f' then c.toNat - 'a'.toNat + 10
    else base
  if n < base then some n else none

/-- Appends digits of a base to a number that stays below `2 ^ 64`. -/
def extendIn? (base n : Nat) : List Char → Option Nat
  | [] => some n
  | c :: rest => do
    let m := base * n + (← digitIn? base c)
    if m < Nat.pow 2 64 then extendIn? base m rest else none

/-- An unsigned number in a base: at least one digit after an optional plus,
below `2 ^ 64`. -/
def inBase? (base : Nat) : List Char → Option Nat
  | '+' :: c :: rest => extendIn? base 0 (c :: rest)
  | c :: rest => extendIn? base 0 (c :: rest)
  | [] => none

/-- **The number that a lowercase text without blanks around it writes.** -/
def ofText? : List Char → Option Float
  | [] => some 0
  | '0' :: 'x' :: digits => (inBase? 16 digits).map ofNat
  | '0' :: 'o' :: digits => (inBase? 8 digits).map ofNat
  | '0' :: 'b' :: digits => (inBase? 2 digits).map ofNat
  | cs => decimal? cs

end Number

namespace Value

/-- The number of a string: nothing for a dash, an amount below zero for the
three other signs. -/
def numberOfText (s : String) : Except EvalError (Option Float) :=
  match (Text.lowercase (Text.trim s)).toList with
  | ['-'] => .ok none
  | ['x'] => .ok (some (-2))
  | ['*'] => .ok (some (-3))
  | ['?'] => .ok (some (-4))
  | cs =>
    match Number.ofText? cs with
    | some x => .ok (some x)
    | none => .error (.notNumeric s)

/-- **The number of a value.** No value has no number, which is no error;
booleans and several values are no numbers at all. -/
def toNumber : Value → Except EvalError (Option Float)
  | number x => .ok (some x)
  | null => .ok none
  | string s => numberOfText s
  | boolean _ => .error (.invalidNumericOperand .boolean)
  | array _ => .error (.invalidNumericOperand .array)

end Value

end CardQuery
