import CardQuery.Proofs.Number.Nearest
import CardQuery.Proofs.Number.Difference

/-!
# Arithmetic on integers

Arithmetic turns doubles into decimals and the result back into a double, and either way may
round. On integers nothing is rounded as long as the exact result has at most 53 digits: an
integer that is a double has a decimal without places (`ofFloat?_of_holds`), an operation on
such decimals has the exact result without places (`Arithmetic.onScaled_of_gives`), and a
decimal without places becomes the double that is that integer (`Scaled.Whole.holds_toFloat`).
So every operator is exact on integers (`Arithmetic.apply_integers`).
-/

namespace CardQuery.Number

open Float.Model Float.Model.UnpackedFloat

/-! ## Integers as doubles -/

/-- **Whether a double is an integer.** Zero is one with either sign. -/
def Holds (x : Float) (a : ℤ) : Prop := x.isFinite = true ∧ toRat x = a

/-- A number that is a multiple of the power at which it is rounded stays what it is. -/
theorem RoundsTo.eq_of_multiple {q : ℚ} {e : Int} {s k : ℕ} (h : RoundsTo q e s)
    (hk : q = k * 2 ^ e) : s = k := by
  have hpos : (2 : ℚ) ^ e ≠ 0 := zpow_ne_zero _ two_ne_zero
  have hnear := h.near
  rw [hk, mul_div_cancel_right₀ _ hpos, abs_le] at hnear
  have hlow : (k : ℚ) < s + 1 := by linarith
  have hhigh : (s : ℚ) < k + 1 := by linarith
  have hlow : k < s + 1 := by exact_mod_cast hlow
  have hhigh : s < k + 1 := by exact_mod_cast hhigh
  omega

/-- A natural number of 53 digits is a multiple of the power at which it is rounded. -/
theorem RoundsTo.exists_multiple {n : ℕ} {e : Int} {s : ℕ} (h : RoundsTo n e s)
    (hn : n ≤ 2 ^ 53) : ∃ k : ℕ, (n : ℚ) = k * 2 ^ e := by
  by_cases he : e ≤ 0
  · obtain ⟨j, rfl⟩ : ∃ j : ℕ, e = -j := ⟨(-e).toNat, by omega⟩
    refine ⟨n * 2 ^ j, ?_⟩
    rw [zpow_neg, zpow_natCast]
    push_cast
    field_simp
  · -- only the greatest number is rounded at a power above the ones
    obtain ⟨j, rfl⟩ : ∃ j : ℕ, e = (j + 1 : ℕ) := ⟨(e - 1).toNat, by omega⟩
    have hfull := h.full.resolve_right (by omega)
    rw [zpow_natCast] at hfull ⊢
    have hfull : 2 ^ 52 * 2 ^ (j + 1) ≤ n := by exact_mod_cast hfull
    have hone := Nat.one_le_two_pow (n := j)
    rw [Nat.pow_succ] at hfull
    obtain rfl : n = 2 ^ 53 := by omega
    obtain rfl : j = 0 := by
      refine Nat.eq_zero_of_not_pos fun hj => ?_
      have htwo := Nat.pow_le_pow_right Nat.two_pos hj
      omega
    exact ⟨2 ^ 52, by norm_num⟩

/-- **A natural number of 53 digits and a sign** make a double that is this integer. -/
theorem holds_withSign_ofNat {n : ℕ} (hn : n ≤ 2 ^ 53) (negative : Bool) :
    Holds (withSign negative (ofNat n)) (if negative then -n else n) := by
  obtain ⟨e, s, h, hbits⟩ := exists_roundsTo n one_ne_zero
  rw [Nat.cast_one, div_one] at h
  obtain ⟨k, hk⟩ := h.exists_multiple hn
  obtain rfl := h.eq_of_multiple hk
  have hfinite : (e + 1074).toNat * 2 ^ 52 + s < infinityBits := by
    refine Nat.lt_of_not_le fun hle => ?_
    have habove := h.infinityBits_le_iff.mp hle
    have hpow : (2 : ℚ) ^ (1 : Int) ≤ 2 ^ (971 : Int) :=
      zpow_le_zpow_right₀ one_le_two (by decide)
    have hsmall : (n : ℚ) ≤ 2 ^ 53 := by exact_mod_cast hn
    rw [overflow_eq] at habove
    generalize (2 : ℚ) ^ (971 : Int) = top at habove hpow
    norm_num at hpow
    linarith
  rw [Nat.min_eq_left hfinite.le] at hbits
  have hofNat : ofNat n = .ofBits ((e + 1074).toNat * 2 ^ 52 + s).toUInt64 := by
    rw [ofNat, nearestTo, hbits]
  obtain ⟨-, -, hvalue, -⟩ := h.double_of_bits hfinite hofNat
  -- the sign changes neither the exponent nor the significand
  obtain ⟨hexp, hmant, hsign⟩ := fields_withSign hfinite.le negative
  obtain ⟨hexp', hmant', -⟩ := fields_withSign hfinite.le false
  rw [← hofNat] at hexp hmant hsign hexp' hmant'
  change exponentBits (ofNat n) = _ at hexp'
  change mantissaBits (ofNat n) = _ at hmant'
  have hmagnitude : magnitude (withSign negative (ofNat n)) = magnitude (ofNat n) := by
    rw [magnitude_eq, magnitude_eq, hexp, hmant, hexp', hmant']
  have hmax : infinityBits = 2047 * 2 ^ 52 := rfl
  refine ⟨(finite_of_exponentBits (by omega)).1, ?_⟩
  rw [toRat, hsign, hmagnitude, hvalue, ← hk]
  cases negative <;> simp

theorem magnitude_of_unpacked_zero {x : Float} {s : Sign}
    (h : unpacked x = .zero s) : magnitude x = ⟨0, -1074⟩ := by
  rw [unpacked, unpack_eq] at h
  rw [magnitude_eq]
  split at h
  · split at h <;> cases h
  split at h
  · next hzero =>
    split at h
    · next hmant =>
      rw [if_pos ((exponentOf_toBits x 0 (by decide)).mp hzero), (mantissaOf_toBits x).mp hmant]
    · cases h
  · cases h

/-- A finite double equals zero exactly where it is the number zero. -/
theorem beq_zero_iff {x : Float} (h : x.isFinite = true) : (x == 0) = true ↔ toRat x = 0 := by
  have hzero : toRat x = 0 ↔ (magnitude x).significand = 0 := by
    have hpow : (2 : ℚ) ^ (magnitude x).exponent ≠ 0 := zpow_ne_zero _ two_ne_zero
    have hvalue : (magnitude x).toRat = 0 ↔ (magnitude x).significand = 0 := by
      rw [Binary.toRat, mul_eq_zero, or_iff_left hpow, Nat.cast_eq_zero]
    unfold toRat
    split
    · rw [neg_eq_zero, hvalue]
    · exact hvalue
  rw [hzero, beq_zero_eq]
  rcases shape_of_isFinite h with ⟨s, hu⟩ | ⟨s, m, e, hm, hu⟩
  · rw [hu, magnitude_of_unpacked_zero hu]
    exact iff_of_true rfl rfl
  · rw [hu, magnitude_of_unpacked hu]
    exact iff_of_false Bool.false_ne_true hm.ne'

namespace Scaled

/-! ## Integers as decimals -/

/-- **A decimal without places**, and the integer that it is. -/
structure Whole (c : Scaled) (a : ℤ) : Prop where
  scale : c.scale = 0
  signed : c.signed = a

namespace Whole

variable {c d : Scaled} {a b : ℤ}

theorem mantissa (h : Whole c a) : c.mantissa = a.natAbs := by
  have hsigned := h.signed
  unfold Scaled.signed at hsigned
  split at hsigned <;> omega

theorem isZero_iff (h : Whole c a) : c.isZero = true ↔ a = 0 := by
  rw [isZero, beq_iff_eq, h.mantissa, Int.natAbs_eq_zero]

theorem atScale (h : Whole c a) : c.atScale 0 = a := by
  rw [Scaled.atScale, h.scale, h.signed]
  exact mul_one a

theorem zero : Whole Scaled.zero 0 := ⟨rfl, rfl⟩

theorem negate (h : Whole c a) : Whole c.negate (-a) := by
  refine ⟨h.scale, ?_⟩
  rw [← h.signed]
  obtain ⟨negative, m, s⟩ := c
  cases negative <;> simp [Scaled.negate, Scaled.signed]

/-- **A decimal without places becomes the double that is the same integer.** -/
theorem holds_toFloat (h : Whole c a) (ha : a.natAbs ≤ 2 ^ 53) : Holds c.toFloat a := by
  have hm : c.mantissa ≤ 2 ^ 53 := h.mantissa.trans_le ha
  have hsigned := h.signed
  rw [toFloat, if_pos h.scale]
  have hsame :
      (if (c.negative && !c.isZero) = true then -(c.mantissa : ℤ) else c.mantissa) = a := by
    rw [← hsigned, Scaled.signed]
    by_cases hzero : c.mantissa = 0
    · simp [hzero]
    · have hnonzero : c.isZero = false := beq_eq_false_iff_ne.mpr hzero
      rw [hnonzero, Bool.not_false, Bool.and_true]
  rw [← hsame]
  exact holds_withSign_ofNat hm _

end Whole

/-! ## Decimals of integers -/

/-- Halves all the way where the mantissa is even all the way. -/
theorem Partial.divideByFive_mul_two_pow (n k : ℕ) (e : Int) :
    divideByFive k ⟨n * 2 ^ k, e⟩ = ⟨n, e + k⟩ := by
  induction k generalizing e with
  | zero => simp [divideByFive]
  | succ k ih =>
    have heven : n * 2 ^ (k + 1) = 2 * (n * 2 ^ k) := by ring
    rw [divideByFive, heven, if_pos (Nat.mul_mod_right 2 _), Nat.mul_div_cancel_left _ Nat.two_pos,
      ih]
    congr 1
    push_cast
    ring

/-- Doubles all the way where the mantissa stays small. -/
theorem Partial.multiplyByFive_of_small {m k : ℕ} (e : Int) (h : m * 2 ^ k ≤ 2 ^ 95) :
    multiplyByFive k ⟨m, e⟩ = some ⟨m * 2 ^ k, e - k⟩ := by
  induction k generalizing m e with
  | zero => simp [multiplyByFive]
  | succ k ih =>
    have hdouble : m * 2 ^ (k + 1) = 2 * m * 2 ^ k := by ring
    have hpos := Nat.two_pow_pos k
    have hlt : m < Nat.pow 2 95 := by
      show m < 2 ^ 95
      nlinarith
    rw [hdouble] at h
    rw [multiplyByFive, if_pos hlt, ih _ h, hdouble]
    congr 2
    push_cast
    ring

/-- **An integer loses nothing** on the way from a power of two to a decimal. -/
theorem ofBinary?_whole {m n : ℕ} {e : Int} (negative : Bool)
    (h : m * 2 ^ e.toNat = n * 2 ^ (-e).toNat) (hn : n ≤ 2 ^ 95) :
    ofBinary? negative ⟨m, e⟩ = some ⟨negative, n, 0⟩ := by
  have hways : (do
      let p := Partial.divideByFive (-e).toNat ⟨m, e⟩
      p.multiplyByFive e.toNat) = some ⟨n, 0⟩ := by
    by_cases he : 0 ≤ e
    · have hnone : (-e).toNat = 0 := by omega
      rw [hnone, Nat.pow_zero, Nat.mul_one] at h
      rw [hnone, Partial.divideByFive, Partial.multiplyByFive_of_small e (h ▸ hn), h,
        Int.toNat_of_nonneg he, sub_self]
    · have hnone : e.toNat = 0 := by omega
      rw [hnone, Nat.pow_zero, Nat.mul_one] at h
      rw [hnone, h, Partial.divideByFive_mul_two_pow, Partial.multiplyByFive]
      congr 2
      omega
  simp only [ofBinary?]
  dsimp only at hways
  rw [hways]
  rfl

end Scaled

/-- **An integer has a decimal without places.** -/
theorem ofFloat?_of_holds {x : Float} {a : ℤ} (h : Holds x a) (ha : a.natAbs ≤ 2 ^ 53) :
    ∃ c, Scaled.ofFloat? x = some c ∧ c.Whole a := by
  obtain ⟨hfinite, hvalue⟩ := h
  have hbeq := beq_zero_iff hfinite
  rw [hvalue, Int.cast_eq_zero] at hbeq
  rw [Scaled.ofFloat?, hfinite]
  by_cases hzero : a = 0
  · rw [hbeq.mpr hzero, hzero]
    exact ⟨.zero, rfl, .zero⟩
  rw [Bool.eq_false_iff.mpr (mt hbeq.mp hzero)]
  -- the magnitude is the absolute value of the integer
  have hnonneg := (magnitude x).toRat_nonneg
  have habs : (magnitude x).toRat = a.natAbs ∧
      (if isNegative x then -(a.natAbs : ℤ) else a.natAbs) = a := by
    unfold toRat at hvalue
    split at hvalue
    · next hneg =>
      have hle : (a : ℚ) ≤ 0 := by linarith
      have hle : a ≤ 0 := by exact_mod_cast hle
      refine ⟨?_, by rw [if_pos hneg]; omega⟩
      rw [Nat.cast_natAbs, abs_of_nonpos hle]
      push_cast
      linarith
    · next hpos =>
      have hle : (0 : ℚ) ≤ a := by linarith
      have hle : 0 ≤ a := by exact_mod_cast hle
      refine ⟨?_, by rw [if_neg hpos]; omega⟩
      rw [Nat.cast_natAbs, abs_of_nonneg hle]
      exact hvalue
  obtain ⟨hmagnitude, hsigned⟩ := habs
  generalize magnitude x = b at hmagnitude
  obtain ⟨m, e⟩ := b
  have hscaled : m * 2 ^ e.toNat = a.natAbs * 2 ^ (-e).toNat := by
    have hrat : (m * 2 ^ e.toNat : ℚ) = a.natAbs * 2 ^ (-e).toNat := by
      rw [← hmagnitude, Binary.toRat, mul_assoc, two_zpow_mul]
    exact_mod_cast hrat
  have hsmall : a.natAbs ≤ 2 ^ 95 := ha.trans (by decide)
  exact ⟨_, Scaled.ofBinary?_whole (isNegative x) hscaled hsmall, rfl, hsigned⟩

/-! ## Operations on decimals -/

/-- When a remainder is negative. -/
theorem tmod_neg_iff (a b : ℤ) : a.tmod b < 0 ↔ a < 0 ∧ a.natAbs % b.natAbs ≠ 0 := by
  have hmod : a.natAbs % b.natAbs = 0 ↔ b ∣ a := by
    rw [← Int.natAbs_dvd_natAbs, Nat.dvd_iff_mod_eq_zero]
  rw [← Int.sign_eq_neg_one_iff_neg, Int.sign_tmod, ne_eq, hmod, ← Int.sign_eq_neg_one_iff_neg]
  split
  · next h => exact iff_of_false (by decide) fun hand => hand.2 h
  · next h => exact (and_iff_left h).symm

namespace Scaled

/-- A mantissa that is small enough is fitted as it is. -/
theorem fit?_of_le {m : ℕ} (h : m ≤ maxMantissa) : fit? m 0 = some (m, 0) := by
  have hround : roundHalfEven m 1 = m :=
    roundHalfEven_eq Nat.one_pos (by omega) (by omega) fun _ => by omega
  have hdrop : dropCount m 0 0 = some 0 := if_pos (hround.trans_le h)
  show (dropCount m 0 0).bind (fun k => some (roundHalfEven m (Nat.pow 10 k), 0 - k)) = _
  rw [hdrop]
  exact congrArg (fun n => some (n, 0)) hround

namespace Whole

/-- An absolute value and the sign that belongs to it. -/
theorem of_sign {negative : Bool} {a : ℤ} (h : negative = true ↔ a < 0) :
    Whole ⟨negative, a.natAbs, 0⟩ a := by
  refine ⟨rfl, ?_⟩
  show (if negative = true then -(a.natAbs : ℤ) else a.natAbs) = a
  split
  · next hneg =>
    have := h.mp hneg
    omega
  · next hpos =>
    have := mt h.mpr hpos
    omega

variable {c d : Scaled} {a b : ℤ} (hc : Whole c a) (hd : Whole d b)
include hc

theorem eq_mk : c = ⟨c.negative, a.natAbs, 0⟩ := by
  rw [← hc.mantissa, ← hc.scale]

theorem negative_iff (ha : a ≠ 0) : c.negative = true ↔ a < 0 := by
  have hsigned := hc.signed
  have hmantissa := hc.mantissa
  unfold Scaled.signed at hsigned
  split at hsigned
  · next h => exact iff_of_true h (by omega)
  · next h => exact iff_of_false h (by omega)

include hd

/-- The sign of a product, and of a quotient. -/
theorem negative_bne_iff (ha : a ≠ 0) (hb : b ≠ 0) :
    (c.negative != d.negative) = true ↔ a * b < 0 := by
  have hca := hc.negative_iff ha
  have hdb := hd.negative_iff hb
  rw [mul_neg_iff, bne_iff_ne, ne_eq, Bool.eq_iff_iff, hca, hdb]
  omega

/-- **The sum of integers**, if a decimal can hold it. -/
theorem add (h : (a + b).natAbs ≤ maxMantissa) : ∃ r, c.add? d = some r ∧ Whole r (a + b) := by
  rw [add?]
  by_cases hczero : c.isZero = true
  · rw [if_pos hczero, hc.isZero_iff.mp hczero, zero_add]
    exact ⟨d, rfl, hd⟩
  by_cases hdzero : d.isZero = true
  · rw [if_neg hczero, if_pos hdzero, hd.isZero_iff.mp hdzero, add_zero]
    exact ⟨c, rfl, hc⟩
  rw [if_neg hczero, if_neg hdzero, hc.scale, hd.scale]
  dsimp only
  rw [max_self, hc.atScale, hd.atScale, fitSigned?, fit?_of_le h]
  refine ⟨_, rfl, of_sign ?_⟩
  rw [Bool.and_eq_true, decide_eq_true_iff, bne_iff_ne]
  omega

/-- **The product of integers**, if a decimal can hold it. -/
theorem multiply (h : (a * b).natAbs ≤ maxMantissa) :
    ∃ r, c.multiply? d = some r ∧ Whole r (a * b) := by
  rw [multiply?]
  by_cases hzero : (c.isZero || d.isZero) = true
  · have hproduct : a * b = 0 := by
      rwa [Bool.or_eq_true, hc.isZero_iff, hd.isZero_iff, ← mul_eq_zero] at hzero
    rw [if_pos hzero, hproduct]
    exact ⟨_, rfl, zero⟩
  rw [if_neg hzero]
  rw [Bool.or_eq_true, hc.isZero_iff, hd.isZero_iff, not_or] at hzero
  obtain ⟨ha, hb⟩ := hzero
  have hne : (a * b).natAbs ≠ 0 := Int.natAbs_ne_zero.mpr (mul_ne_zero ha hb)
  rw [hc.mantissa, hd.mantissa, hc.scale, hd.scale, ← Int.natAbs_mul, fit?_of_le h]
  refine ⟨_, rfl, of_sign ?_⟩
  rw [bne_iff_ne.mpr hne, Bool.true_or, Bool.true_or, Bool.and_true, hc.negative_bne_iff hd ha hb]

/-- **The quotient of integers** where the division leaves nothing. -/
theorem divide {q : ℤ} (hb : b ≠ 0) (h : a = q * b) :
    ∃ r, c.divide? d = some r ∧ Whole r q := by
  have hbpos : 0 < b.natAbs := Int.natAbs_pos.mpr hb
  rw [divide?, if_neg (mt hd.isZero_iff.mp hb)]
  by_cases hczero : c.isZero = true
  · have hq : q = 0 := by
      rw [hc.isZero_iff, h, mul_eq_zero] at hczero
      exact hczero.resolve_right hb
    rw [if_pos hczero, hq]
    exact ⟨_, rfl, zero⟩
  have ha : a ≠ 0 := mt hc.isZero_iff.mpr hczero
  have hq : q ≠ 0 := by
    rintro rfl
    exact ha (h.trans (zero_mul b))
  -- no remainder is left to be developed
  have hdevelop : develop? q.natAbs 0 b.natAbs 0 false = some ⟨q.natAbs, 0, false⟩ := by
    rw [develop?, if_pos rfl, dif_pos (le_refl 0)]
  rw [if_neg hczero, hc.mantissa, hd.mantissa, hc.scale, hd.scale, h, Int.natAbs_mul,
    Nat.mul_div_cancel _ hbpos, Nat.mul_mod_left, sub_self, hdevelop]
  refine ⟨_, rfl, of_sign ?_⟩
  rw [hc.negative_bne_iff hd ha hb, h, mul_assoc]
  have hsquare : 0 < b * b := mul_self_pos.mpr hb
  rw [mul_neg_iff, or_iff_right fun hand => hand.2.not_gt hsquare, and_iff_left hsquare]

/-- **The remainder of integers.** -/
theorem remainder (hb : b ≠ 0) : ∃ r, c.remainder? d = some r ∧ Whole r (a.tmod b) := by
  have habs := Int.natAbs_tmod a b
  have hneg := tmod_neg_iff a b
  rw [remainder?, if_neg (mt hd.isZero_iff.mp hb)]
  by_cases hczero : c.isZero = true
  · rw [if_pos hczero, hc.isZero_iff.mp hczero, Int.zero_tmod]
    exact ⟨_, rfl, zero⟩
  have ha : a ≠ 0 := mt hc.isZero_iff.mpr hczero
  rw [if_neg hczero, hc.scale, hd.scale]
  dsimp only
  rw [max_self, hc.atScale, hd.atScale]
  by_cases hsame : a.natAbs = b.natAbs
  · have hnone : a.tmod b = 0 := by
      rw [← Int.natAbs_eq_zero, habs, hsame, Nat.mod_self]
    rw [if_pos hsame, hnone]
    exact ⟨_, rfl, zero⟩
  by_cases hlt : a.natAbs < b.natAbs
  · rw [Nat.mod_eq_of_lt hlt] at habs hneg
    rw [if_neg hsame, if_pos hlt]
    refine ⟨c, rfl, ?_⟩
    rw [hc.eq_mk, ← habs]
    refine of_sign ?_
    rw [hneg, hc.negative_iff ha]
    exact (and_iff_left (Int.natAbs_ne_zero.mpr ha)).symm
  · rw [if_neg hsame, if_neg hlt, ← habs]
    refine ⟨_, rfl, of_sign ?_⟩
    rw [Bool.and_eq_true, hc.negative_iff ha, bne_iff_ne, hneg, habs]

end Whole

end Scaled

end CardQuery.Number

namespace CardQuery.Arithmetic

open Number

/-! ## Arithmetic -/

/-- **The exact results of operations on integers.** There is a quotient where the division
leaves nothing. -/
inductive Gives : Arithmetic → ℤ → ℤ → ℤ → Prop where
  | add {a b : ℤ} : Gives .add a b (a + b)
  | subtract {a b : ℤ} : Gives .subtract a b (a - b)
  | multiply {a b : ℤ} : Gives .multiply a b (a * b)
  | divide {b q : ℤ} (hb : b ≠ 0) : Gives .divide (q * b) b q
  | modulo {a b : ℤ} (hb : b ≠ 0) : Gives .modulo a b (a.tmod b)

variable {op : Arithmetic} {a b r : ℤ}

/-- **An operation on decimals of integers has the exact result.** -/
theorem onScaled_of_gives {c d : Scaled} (hc : c.Whole a) (hd : d.Whole b) (h : op.Gives a b r)
    (hr : r.natAbs ≤ Scaled.maxMantissa) : ∃ e, op.onScaled c d = some e ∧ e.Whole r := by
  cases h with
  | add => exact hc.add hd hr
  | subtract => exact hc.add hd.negate hr
  | multiply => exact hc.multiply hd hr
  | divide hb => exact hc.divide hd hb rfl
  | modulo hb => exact hc.remainder hd hb

/-- An operation that has an exact result is no division by zero. -/
theorem apply_of_gives {x y : Float} (hx : Holds x a) (hy : Holds y b) (ha : a.natAbs ≤ 2 ^ 53)
    (hb : b.natAbs ≤ 2 ^ 53) (h : op.Gives a b r) (hr : r.natAbs ≤ 2 ^ 53) :
    ∃ z, op.apply x y = .ok z ∧ Holds z r := by
  obtain ⟨c, hc, hcwhole⟩ := ofFloat?_of_holds hx ha
  obtain ⟨d, hd, hdwhole⟩ := ofFloat?_of_holds hy hb
  obtain ⟨e, he, hewhole⟩ := onScaled_of_gives hcwhole hdwhole h (hr.trans (by decide))
  have hcompute : op.compute x y = e.toFloat := by
    rw [compute, asDecimals?, hc, hd]
    show ((op.onScaled c d).bind fun c => some c.toFloat).getD _ = _
    rw [he]
    rfl
  have hnonzero : b ≠ 0 → (y == 0) = false := fun hne => by
    rw [Bool.eq_false_iff, ne_eq, beq_zero_iff hy.1, hy.2, Int.cast_eq_zero]
    exact hne
  have happly : op.apply x y = .ok (op.compute x y) := by
    unfold apply
    cases h with
    | add | subtract | multiply => rfl
    | divide hb | modulo hb =>
      rw [hnonzero hb]
      rfl
  rw [happly, hcompute]
  exact ⟨_, rfl, hewhole.holds_toFloat hr⟩

/-- **Arithmetic on integers is exact** up to 53 digits: sums, differences and products that
have no more digits, remainders, which are smaller than the divisor and have the sign of the
dividend, and quotients where the division leaves nothing. Only the sign of a zero is left
open. -/
theorem apply_integers {x y : Float} (hx : Holds x a) (hy : Holds y b) (ha : a.natAbs ≤ 2 ^ 53)
    (hb : b.natAbs ≤ 2 ^ 53) :
    ((a + b).natAbs ≤ 2 ^ 53 → ∃ z, add.apply x y = .ok z ∧ Holds z (a + b)) ∧
      ((a - b).natAbs ≤ 2 ^ 53 → ∃ z, subtract.apply x y = .ok z ∧ Holds z (a - b)) ∧
      ((a * b).natAbs ≤ 2 ^ 53 → ∃ z, multiply.apply x y = .ok z ∧ Holds z (a * b)) ∧
      (b ≠ 0 → ∃ z q r, modulo.apply x y = .ok z ∧ Holds z r ∧ a = q * b + r ∧
        r.natAbs < b.natAbs ∧ (r = 0 ∨ r.sign = a.sign)) ∧
      (b ≠ 0 → ∀ q, a = q * b → ∃ z, divide.apply x y = .ok z ∧ Holds z q) := by
  refine ⟨apply_of_gives hx hy ha hb .add, apply_of_gives hx hy ha hb .subtract,
    apply_of_gives hx hy ha hb .multiply, fun hne => ?_, fun hne q hq => ?_⟩
  · have habs := Int.natAbs_tmod a b
    have hlt : (a.tmod b).natAbs < b.natAbs := habs ▸ Nat.mod_lt _ (Int.natAbs_pos.mpr hne)
    obtain ⟨z, hz, hholds⟩ := apply_of_gives hx hy ha hb (.modulo hne) (hlt.le.trans hb)
    refine ⟨z, a.tdiv b, a.tmod b, hz, hholds, (Int.tdiv_mul_add_tmod a b).symm, hlt, ?_⟩
    have hsign := Int.sign_tmod a b
    split at hsign
    · exact .inl (Int.sign_eq_zero_iff_zero.mp hsign)
    · exact .inr hsign
  · subst hq
    refine apply_of_gives hx hy ha hb (.divide hne) (ha.trans' ?_)
    rw [Int.natAbs_mul]
    exact Nat.le_mul_of_pos_right _ (Int.natAbs_pos.mpr hne)

/-- Two integers whose product is close to the greatest one of 53 digits, and that product
divided again. -/
theorem apply_integers_product :
    let x : Float := -94906265
    let y : Float := 94906264
    (∃ z, add.apply x y = .ok z ∧ Holds z (-1)) ∧
      (∃ z, modulo.apply x y = .ok z ∧ Holds z (-1)) ∧
      ∃ z, multiply.apply x y = .ok z ∧ Holds z (-9007199041343960) ∧
        ∃ w, divide.apply z y = .ok w ∧ Holds w (-94906265) := by
  intro x y
  have hx : Holds x (-94906265) := by
    obtain ⟨hfinite, hnegative, hmagnitude⟩ : x.isFinite = true ∧ isNegative x = true ∧
        magnitude x = ⟨6369051630632960, -26⟩ := by decide +kernel
    refine ⟨hfinite, ?_⟩
    rw [toRat, hnegative, if_pos rfl, hmagnitude, Binary.toRat]
    norm_num
  have hy : Holds y 94906264 := by
    obtain ⟨hfinite, hnegative, hmagnitude⟩ : y.isFinite = true ∧ isNegative y = false ∧
        magnitude y = ⟨6369051563524096, -26⟩ := by decide +kernel
    refine ⟨hfinite, ?_⟩
    rw [toRat_of_not_isNegative hnegative, hmagnitude, Binary.toRat]
    norm_num
  obtain ⟨hadd, -, hmultiply, hmodulo, -⟩ := apply_integers hx hy (by decide) (by decide)
  obtain ⟨z, hz, hproduct⟩ := hmultiply (by decide)
  obtain ⟨u, q, r, hu, hr, hrest, hlt, hsign⟩ := hmodulo (by decide)
  obtain ⟨-, -, -, -, hdivide⟩ := apply_integers hproduct hy (by decide) (by decide)
  have hremainder : r = -1 := by
    have hnegative : r ≤ 0 := by
      rcases hsign with hzero | hsame
      · exact hzero.le
      · exact (Int.sign_eq_neg_one_iff_neg.mp hsame).le
    omega
  exact ⟨hadd (by decide), ⟨u, hu, hremainder ▸ hr⟩, z, hz, hproduct,
    hdivide (by decide) (-94906265) (by decide)⟩

end CardQuery.Arithmetic
