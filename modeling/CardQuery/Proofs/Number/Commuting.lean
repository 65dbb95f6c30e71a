import CardQuery.Proofs.Number.Difference

/-!
# Sums and products from both sides

To add or multiply, two doubles are turned into decimals, each by itself, and the
result is turned back; where there is no decimal for one of them or for the result,
the doubles are added or multiplied as they are. The order of the operands shows up
at one place only. A sum with a zero is the other operand, so of two zeros it is the
second one, with the sign and the places of that (`Scaled.add?_comm` leaves this
case out). As doubles they are equal again, so whichever order the operands stand
in, the result comes on the same path and is the same number, or not a number
(`Arithmetic.apply_comm`).
-/

namespace CardQuery.Number

open Float.Model Float.Model.UnpackedFloat

/-! ## Sums and products of doubles -/

theorem sign_mul_comm (s t : Sign) : s * t = t * s := by
  cases s <;> cases t <;> rfl

theorem unpackedMul_comm (u v : UnpackedFloat) :
    UnpackedFloat.mul Format.binary64 u v = UnpackedFloat.mul Format.binary64 v u := by
  cases u with
  | notANumber => cases v <;> rfl
  | infinity s | zero s =>
    cases v <;> simp only [UnpackedFloat.mul, sign_mul_comm s]
  | finite s m e hm =>
    cases v with
    | finite t n f hn =>
      simp only [UnpackedFloat.mul, sign_mul_comm s, Nat.mul_comm m, Int.add_comm e]
    | _ => simp only [UnpackedFloat.mul, sign_mul_comm s]

theorem unpackedAdd_comm (u v : UnpackedFloat) :
    UnpackedFloat.add Format.binary64 u v = UnpackedFloat.add Format.binary64 v u := by
  cases u with
  | notANumber => cases v <;> rfl
  | infinity s | zero s =>
    cases v with
    | infinity t | zero t => cases s <;> cases t <;> rfl
    | _ => rfl
  | finite s m e hm =>
    cases v with
    | finite t n f hn =>
      simp only [UnpackedFloat.add, min_comm e f, decreaseExponent, Int.add_comm (s.apply _)]
    | _ => rfl

/-- **Doubles are added in either order.** -/
theorem float_add_comm (x y : Float) : x + y = y + x := by
  show (⟨Float.Model.add x.toModel y.toModel⟩ : Float) = ⟨Float.Model.add y.toModel x.toModel⟩
  rw [Float.Model.add, Float.Model.add, unpackedAdd_comm]

/-- **Doubles are multiplied in either order.** -/
theorem float_mul_comm (x y : Float) : x * y = y * x := by
  show (⟨Float.Model.mul x.toModel y.toModel⟩ : Float) = ⟨Float.Model.mul y.toModel x.toModel⟩
  rw [Float.Model.mul, Float.Model.mul, unpackedMul_comm]

/-! ## Numbers that are alike -/

/-- **Whether two results are alike**: the same number, also where they are zeros of
two signs, or both not a number. -/
def Alike (x y : Float) : Prop := x.isNaN = true ∧ y.isNaN = true ∨ (x == y) = true

theorem Alike.refl (x : Float) : Alike x x := by
  cases h : x.isNaN with
  | true => exact .inl ⟨h, h⟩
  | false => exact .inr (beq_self_of_isNaN h)

theorem beq_of_beq_zero {x y : Float} (hx : (x == 0) = true) (hy : (y == 0) = true) :
    (x == y) = true := by
  rw [beq_zero_eq] at hx hy
  rw [beq_eq]
  cases hu : unpacked x with
  | zero s =>
    cases hv : unpacked y with
    | zero t => rfl
    | _ => rw [hv] at hy; cases hy
  | _ => rw [hu] at hx; cases hx

/-! ## Sums and products of decimals -/

namespace Scaled

theorem withSign_zero_beq_zero (negative : Bool) : (withSign negative (ofNat 0) == 0) = true := by
  cases negative <;> rfl

/-- The double of a decimal that is zero is zero, whatever sign and places the decimal
has. -/
theorem toFloat_beq_zero {a : Scaled} (hscale : a.scale ≤ maxScale) (h : a.isZero = true) :
    (a.toFloat == 0) = true := by
  obtain ⟨negative, m, scale⟩ := a
  obtain rfl : m = 0 := beq_iff_eq.mp h
  have hunit : Nat.pow 10 scale = 10 ^ scale := rfl
  unfold toFloat
  split
  · exact withSign_zero_beq_zero _
  · dsimp only
    rw [hunit, Nat.zero_mod, Nat.zero_div, if_pos (fraction_zero hscale)]
    exact withSign_zero_beq_zero _

variable (a b : Scaled)

/-- **The sum does not depend on the order**, unless both decimals are zero. -/
theorem add?_comm (h : ¬ (a.isZero = true ∧ b.isZero = true)) : a.add? b = b.add? a := by
  rw [add?, add?]
  by_cases ha : a.isZero = true
  · have hb : ¬ b.isZero = true := fun hb => h ⟨ha, hb⟩
    rw [if_pos ha, if_neg hb, if_pos ha]
  by_cases hb : b.isZero = true
  · rw [if_neg ha, if_pos hb, if_pos hb]
  · rw [if_neg ha, if_neg hb, if_neg hb, if_neg ha]
    simp only [max_comm a.scale, Int.add_comm (a.atScale _)]

/-- **The product does not depend on the order.** -/
theorem multiply?_comm : a.multiply? b = b.multiply? a := by
  rw [multiply?, multiply?]
  simp only [Bool.or_comm a.isZero, Nat.mul_comm a.mantissa, Nat.add_comm a.scale,
    bne_comm (a := a.negative), Bool.or_right_comm _ (decide (a.mantissa ≥ wordSize))]

end Scaled

end CardQuery.Number

namespace CardQuery.Arithmetic

open CardQuery.Number

/-! ## Sums and products of numbers -/

/-- **Whether an operation does not mind the order of its operands**: on decimals of
doubles, as far as their doubles are concerned, and on doubles. -/
structure Commutes (op : Arithmetic) : Prop where
  decimals : ∀ a b : Scaled, a.scale ≤ Scaled.maxScale → b.scale ≤ Scaled.maxScale →
    Option.Rel Alike ((op.onScaled a b).map Scaled.toFloat) ((op.onScaled b a).map Scaled.toFloat)
  floats : ∀ x y, op.onFloats x y = op.onFloats y x

theorem rel_alike_of_eq {r r' : Option Float} (h : r = r') : Option.Rel Alike r r' := by
  subst h
  cases r with
  | none => exact .none
  | some x => exact .some (.refl x)

theorem commutes_add : Commutes .add where
  decimals a b ha hb := by
    by_cases hzero : a.isZero = true ∧ b.isZero = true
    · -- of two zeros either is the sum
      have hab : a.add? b = some b := if_pos hzero.1
      have hba : b.add? a = some a := if_pos hzero.2
      simp only [onScaled, hab, hba]
      exact .some (.inr (beq_of_beq_zero (Scaled.toFloat_beq_zero hb hzero.2)
        (Scaled.toFloat_beq_zero ha hzero.1)))
    · exact rel_alike_of_eq (congrArg _ (a.add?_comm b hzero))
  floats := float_add_comm

theorem commutes_multiply : Commutes .multiply where
  decimals a b _ _ := rel_alike_of_eq (congrArg _ (a.multiply?_comm b))
  floats := float_mul_comm

variable {op : Arithmetic}

/-- **From both sides the result comes on the same path**, and is alike if that is the
one by way of decimals. -/
theorem Commutes.asDecimals? (h : op.Commutes) (x y : Float) :
    Option.Rel Alike (op.asDecimals? x y) (op.asDecimals? y x) := by
  unfold Arithmetic.asDecimals?
  cases hx : Scaled.ofFloat? x with
  | none => cases Scaled.ofFloat? y <;> exact .none
  | some a =>
    cases hy : Scaled.ofFloat? y with
    | none => exact .none
    | some b =>
      have hdecimals := h.decimals a b (Scaled.scale_le_of_ofFloat? hx)
        (Scaled.scale_le_of_ofFloat? hy)
      rwa [Option.map_eq_bind, Option.map_eq_bind] at hdecimals

theorem Commutes.compute (h : op.Commutes) (x y : Float) :
    Alike (op.compute x y) (op.compute y x) := by
  have hdecimals := h.asDecimals? x y
  rw [Arithmetic.compute, Arithmetic.compute, h.floats x y]
  generalize op.asDecimals? x y = r at hdecimals
  generalize op.asDecimals? y x = r' at hdecimals
  cases hdecimals with
  | none => exact .refl _
  | some halike => exact halike

/-- **Sums and products are the same from both sides.** Two doubles have a sum and a
product in either order, and what comes out in one order is the number that comes out
in the other, or both are not a number. -/
theorem apply_comm (x y : Float) :
    (∃ r r', add.apply x y = .ok r ∧ add.apply y x = .ok r' ∧ Alike r r') ∧
      ∃ r r', multiply.apply x y = .ok r ∧ multiply.apply y x = .ok r' ∧ Alike r r' :=
  ⟨⟨_, _, rfl, rfl, commutes_add.compute x y⟩, ⟨_, _, rfl, rfl, commutes_multiply.compute x y⟩⟩

end CardQuery.Arithmetic
