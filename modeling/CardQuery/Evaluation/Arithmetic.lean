import CardQuery.Evaluation.Error
import CardQuery.Number.Scaled.Arithmetic

/-!
# Arithmetic in queries

Numbers are added and multiplied as decimals wherever both operands and the
result are decimals of a reasonable size, and as doubles otherwise. To divide
by zero is an error in either case.
-/

namespace CardQuery

namespace Arithmetic

/-- The operation on decimals. -/
def onScaled : Arithmetic → Number.Scaled → Number.Scaled → Option Number.Scaled
  | .add => Number.Scaled.add?
  | .subtract => Number.Scaled.subtract?
  | .multiply => Number.Scaled.multiply?
  | .divide => Number.Scaled.divide?
  | .modulo => Number.Scaled.remainder?

/-- The operation on doubles. -/
def onFloats : Arithmetic → Float → Float → Float
  | .add => (· + ·)
  | .subtract => (· - ·)
  | .multiply => (· * ·)
  | .divide => (· / ·)
  | .modulo => Number.remainder

/-- The error that an operation makes of a second operand that is zero. -/
def zeroError? : Arithmetic → Option EvalError
  | .divide => some .divisionByZero
  | .modulo => some .moduloByZero
  | _ => none

/-- The result by way of decimals, if there is one. -/
def asDecimals? (op : Arithmetic) (x y : Float) : Option Float := do
  let a ← Number.Scaled.ofFloat? x
  let b ← Number.Scaled.ofFloat? y
  let c ← op.onScaled a b
  return c.toFloat

/-- The result of an operation that has one. -/
def compute (op : Arithmetic) (x y : Float) : Float :=
  (op.asDecimals? x y).getD (op.onFloats x y)

/-- **The result of an operation.** -/
def apply (op : Arithmetic) (x y : Float) : Except EvalError Float :=
  match op.zeroError? with
  | some e => if y == 0 then .error e else .ok (op.compute x y)
  | none => .ok (op.compute x y)

end Arithmetic

/-- **The number that an operator computes.** Only arithmetic operators
do. -/
def Operator.applyNumbers : Operator → Float → Float → Except EvalError Float
  | .arithmetic op, x, y => op.apply x y
  | op, _, _ => .error (.notAValue op)

end CardQuery
