import CardQuery.Evaluation.Arithmetic
import CardQuery.Proofs.Number.Leading

/-!
# Which differences are zero

A difference is computed on decimals wherever both numbers have one that is small
enough, and on doubles otherwise. On doubles it is zero for equal numbers only. On
decimals it is zero for equal decimals, and these may belong to different doubles:
the decimal of a double ends at its 28th place, and before that at the precision of
a double.

On the way to the result nothing else is lost. The exact difference of two decimals
is fitted into a decimal, which rounds digits off its end, but not all of them
(`Scaled.fitSigned?_spec`). The decimal becomes a double again, which rounds its
whole part, its fraction and their sum, but not to zero (`Scaled.isTruthy_toFloat`).
So a difference counts as true exactly where the two numbers are not taken for one,
be it as decimals or as doubles (`isTruthy_subtract`).
-/

namespace CardQuery.Number

open Float.Model Float.Model.UnpackedFloat

namespace Scaled

/-! ## Decimals of doubles -/

namespace Partial

theorem exponent_roundPlaces (n : Nat) (p : Partial) :
    (roundPlaces n p).exponent = 0 ∨ (roundPlaces n p).exponent = p.exponent + n := by
  induction n generalizing p with
  | zero => exact .inr (Int.add_zero _).symm
  | succ n ih =>
    unfold roundPlaces
    split
    · exact .inl rfl
    · refine (ih _).imp_right fun h => h.trans ?_
      show p.exponent + 1 + (n : Int) = p.exponent + (n + 1 : Nat)
      omega

theorem le_exponent_roundDigits (n : Nat) (p : Partial) :
    p.exponent ≤ (roundDigits n p).exponent := by
  induction n generalizing p with
  | zero => exact le_refl _
  | succ n ih =>
    unfold roundDigits
    split
    · exact (Int.le_add_one (le_refl _)).trans (ih _)
    · exact le_refl _

theorem le_exponent_dropZeros (n : Nat) (p : Partial) : p.exponent ≤ (dropZeros n p).exponent := by
  induction n generalizing p with
  | zero => exact le_refl _
  | succ n ih =>
    unfold dropZeros
    split
    · exact (Int.le_add_one (le_refl _)).trans (ih _)
    · exact le_refl _

end Partial

/-- **The decimal of a double has at most 28 places.** -/
theorem scale_le_of_ofFloat? {x : Float} {a : Scaled} (h : ofFloat? x = some a) :
    a.scale ≤ maxScale := by
  unfold ofFloat? at h
  split at h
  · cases h
  split at h
  · cases h
    exact Nat.zero_le _
  · simp only [ofBinary?, Option.bind_eq_bind, Option.bind_eq_some_iff, Option.pure_def,
      Option.some.injEq] at h
    obtain ⟨-, -, p, -, rfl⟩ := h
    have hplaces := Partial.exponent_roundPlaces (-p.exponent - maxScale).toNat p
    generalize Partial.roundPlaces (-p.exponent - maxScale).toNat p = q at hplaces
    have hdigits := Partial.le_exponent_roundDigits (-q.exponent).toNat q
    generalize Partial.roundDigits (-q.exponent).toNat q = r at hdigits
    have hzeros := Partial.le_exponent_dropZeros (-r.exponent).toNat r
    show (-(Partial.dropZeros (-r.exponent).toNat r).exponent).toNat ≤ 28
    change _ ∨ _ = p.exponent + (-p.exponent - 28).toNat at hplaces
    omega

/-! ## Doubles of decimals -/

/-- The power of two of the first digit of a number, if it is positive and
finite. -/
def firstDigit? : UnpackedFloat → Option Int
  | .finite .positive m e _ => some ((m.log2 : Int) + e)
  | _ => none

theorem exists_of_firstDigit? {u : UnpackedFloat} {k : Int} (h : firstDigit? u = some k) :
    ∃ m e hm, u = .finite .positive m e hm ∧ (m.log2 : Int) + e = k := by
  cases u with
  | finite s m e hm =>
    cases s with
    | positive => exact ⟨m, e, hm, rfl, Option.some.inj h⟩
    | negative => cases h
  | _ => cases h

/-- **The powers of ten** up to the number of places of a decimal keep their first
digit as doubles, also where they are computed by squaring. -/
theorem firstDigit?_powers : ∀ places ≤ maxScale,
    firstDigit? (unpacked (ofNat (10 ^ places))) = some (10 ^ places).log2 ∧
      firstDigit? (unpacked (powerBySquaring 1 10 places)) = some (10 ^ places).log2 := by
  decide +kernel

theorem log2_pow_le {places : Nat} (h : places ≤ maxScale) : (10 ^ places).log2 ≤ 93 :=
  (log2_le_log2 (Nat.pow_le_pow_right (by decide) h)).trans (by decide)

section Fraction

variable {n places : Nat} (hplaces : places ≤ maxScale)
include hplaces

/-- The double of a fraction reaches a power of two that the denominator takes back
up to a half. -/
theorem reaches_fraction (hn : n ≠ 0) : Reaches .positive (n.log2 - (10 ^ places).log2 - 1)
    (unpacked (ofNat n / ofNat (10 ^ places))) := by
  obtain ⟨m, e, hm, hunit, hfirst⟩ := exists_of_firstDigit? (firstDigit?_powers places hplaces).1
  have hsize := log2_pow_le hplaces
  have hdiv := reaches_div (reaches_ofNat hn) hunit (by omega)
  rw [hfirst] at hdiv
  exact hdiv

theorem fraction_zero : (ofNat 0 / ofNat (10 ^ places) == 0) = true := by
  obtain ⟨m, e, hm, hunit, -⟩ := exists_of_firstDigit? (firstDigit?_powers places hplaces).1
  have hzero : unpacked (ofNat 0 / ofNat (10 ^ places)) = .zero .positive := by
    rw [unpacked_div, unpacked_ofNat_zero, hunit]
    exact repacked_zero .positive
  rw [beq_zero_eq, hzero]

/-- **A number with a fraction that is rounded to its places** is not rounded to
zero. -/
theorem isTruthy_rounded {whole fraction : Float}
    (hwhole : unpacked whole = .zero .positive ∨ Reaches .positive 0 (unpacked whole))
    (hfraction : Reaches .positive (-(10 ^ places).log2 - 1) (unpacked fraction))
    (negative : Bool) :
    isTruthy (withSign negative
      (roundHalfAway ((whole + fraction) * powerBySquaring 1 10 places)
        / powerBySquaring 1 10 places)) = true := by
  obtain ⟨m, e, hm, hpower, hfirst⟩ := exists_of_firstDigit? (firstDigit?_powers places hplaces).2
  have hsize := log2_pow_le hplaces
  have hsum := reaches_add hwhole hfraction (by omega)
  have hten : Reaches .positive (10 ^ places).log2 (unpacked (powerBySquaring 1 10 places)) := by
    rw [hpower]
    exact ⟨rfl, hfirst.ge⟩
  have hproduct := reaches_mul hsum hten (by omega)
  obtain ⟨t, hround⟩ := reaches_roundHalfAway (hproduct.mono (by omega))
  exact isTruthy_withSign (reaches_div hround hpower (by omega)) negative

end Fraction

/-- **The double of a decimal counts as true unless the decimal is zero.** -/
theorem isTruthy_toFloat {a : Scaled} (h : a.scale ≤ maxScale) :
    isTruthy a.toFloat = !a.isZero := by
  have hunit : Nat.pow 10 a.scale = 10 ^ a.scale := rfl
  show _ = !decide (a.mantissa = 0)
  unfold toFloat
  by_cases hscale : a.scale = 0
  · rw [if_pos hscale, isTruthy_withSign_ofNat]
  rw [if_neg hscale]
  dsimp only
  rw [hunit]
  by_cases hfraction : a.mantissa % 10 ^ a.scale = 0
  · have hwhole : a.mantissa / 10 ^ a.scale = 0 ↔ a.mantissa = 0 := by
      obtain ⟨q, hq⟩ := Nat.dvd_of_mod_eq_zero hfraction
      rw [hq, Nat.mul_div_cancel_left _ (Nat.pow_pos (by decide)), Nat.mul_eq_zero]
      exact (or_iff_right (Nat.pow_pos (by decide)).ne').symm
    rw [hfraction, if_pos (fraction_zero h), isTruthy_withSign_ofNat,
      decide_eq_decide.mpr hwhole]
  · have hreaches := reaches_fraction h hfraction
    have hm : a.mantissa ≠ 0 := fun hm => hfraction (by rw [hm, Nat.zero_mod])
    have hwhole : unpacked (ofNat (a.mantissa / 10 ^ a.scale)) = .zero .positive ∨
        Reaches .positive 0 (unpacked (ofNat (a.mantissa / 10 ^ a.scale))) := by
      by_cases hnone : a.mantissa / 10 ^ a.scale = 0
      · exact .inl (hnone ▸ unpacked_ofNat_zero)
      · exact .inr ((reaches_ofNat hnone).mono (Int.natCast_nonneg _))
    rw [if_neg (Bool.eq_false_iff.mp hreaches.beq_zero),
      isTruthy_rounded h hwhole (hreaches.mono (by omega)), decide_eq_false hm]
    rfl

/-! ## Differences of decimals -/

/-- **Whether two decimals are one number**, however many places they have. -/
def isSame (a b : Scaled) : Bool :=
  a.atScale (max a.scale b.scale) == b.atScale (max a.scale b.scale)

theorem isSame_self (a : Scaled) : a.isSame a = true := beq_self_eq_true _

theorem atScale_eq_zero_iff (a : Scaled) (s : Nat) : a.atScale s = 0 ↔ a.isZero = true := by
  have hpow : (Nat.pow 10 (s - a.scale) : Int) ≠ 0 :=
    Int.natCast_ne_zero.mpr (Nat.pow_pos (by decide)).ne'
  have hsigned : a.signed = 0 ↔ a.mantissa = 0 := by
    rw [signed]
    split <;> omega
  rw [atScale, Int.mul_eq_zero, or_iff_left hpow, hsigned, isZero, beq_iff_eq]

theorem atScale_negate (a : Scaled) (s : Nat) : a.negate.atScale s = -a.atScale s := by
  obtain ⟨negative, m, scale⟩ := a
  cases negative <;> simp [atScale, negate, signed]

/-- Digits are dropped only if the mantissa is too large otherwise. -/
theorem dropCount_spec {m k n k' : Nat} (h : dropCount m k n = some k') :
    k' = k ∨ (k < k' ∧ maxMantissa < roundHalfEven m (10 ^ (k' - 1))) := by
  induction n generalizing k with
  | zero =>
    rw [dropCount] at h
    split at h
    · exact .inl (Option.some.inj h).symm
    · cases h
  | succ n ih =>
    rw [dropCount] at h
    split at h
    · exact .inl (Option.some.inj h).symm
    · next hlarge =>
      refine .inr ?_
      rcases ih h with rfl | ⟨hlt, hround⟩
      · exact ⟨Nat.lt_succ_self k, Nat.lt_of_not_le hlarge⟩
      · exact ⟨Nat.lt_of_succ_lt hlt, hround⟩

/-- **Fitting keeps a number from vanishing** if it has no more places than a
decimal can have. -/
theorem fitSigned?_spec {m : Int} {scale : Nat} {c : Scaled} (hscale : scale ≤ maxScale)
    (h : fitSigned? m scale = some c) : c.scale ≤ maxScale ∧ (c.isZero = true ↔ m = 0) := by
  simp only [fitSigned?, fit?, Option.bind_eq_bind, Option.bind_eq_some_iff, Option.pure_def,
    Option.some.injEq] at h
  obtain ⟨_, ⟨k, hk, rfl⟩, rfl⟩ := h
  rw [Nat.sub_eq_zero_of_le hscale] at hk
  refine ⟨(Nat.sub_le scale k).trans hscale, ?_⟩
  have hpos : 0 < 10 ^ k := Nat.pow_pos (by decide)
  show (roundHalfEven m.natAbs (10 ^ k) == 0) = true ↔ m = 0
  rw [beq_iff_eq]
  constructor
  · refine not_imp_not.mp fun hm => roundHalfEven_ne_zero hpos ?_
    rcases dropCount_spec hk with rfl | ⟨hlt, hlarge⟩
    · exact Int.natAbs_pos.mpr hm
    · -- one digit more was too large for a decimal, so there are digits left
      obtain ⟨j, rfl⟩ := Nat.exists_eq_add_of_le' hlt
      refine Nat.le_of_not_lt fun hsmall => ?_
      rw [Nat.pow_succ'] at hsmall
      have hbounds := roundHalfEven_bounds (Nat.pow_pos (by decide) : 0 < 10 ^ j)
        ((Nat.zero_mul _).trans_le (Nat.zero_le _)) hsmall.le
      exact absurd (hlarge.trans_le hbounds.2) (by decide)
  · rintro rfl
    exact roundHalfEven_zero hpos

/-- Zero always fits. -/
theorem fitSigned?_zero (scale : Nat) : fitSigned? 0 scale ≠ none := by
  have hdrop : ∀ k n, dropCount 0 k n = some k := by
    intro k n
    have hzero : roundHalfEven 0 (10 ^ k) ≤ maxMantissa :=
      (roundHalfEven_zero (Nat.pow_pos (by decide))).trans_le (Nat.zero_le _)
    cases n with
    | zero => exact if_pos hzero
    | succ n => exact if_pos hzero
  simp [fitSigned?, fit?, hdrop]

/-- **The difference of two decimals is zero** exactly where they are one number, and
then there is a decimal for it. -/
theorem subtract?_spec {a b : Scaled} (ha : a.scale ≤ maxScale) (hb : b.scale ≤ maxScale) :
    (∀ c, a.subtract? b = some c → c.scale ≤ maxScale ∧ c.isZero = a.isSame b) ∧
      (a.subtract? b = none → a.isSame b = false) := by
  have hsame : a.isSame b = true ↔
      a.atScale (max a.scale b.scale) = b.atScale (max a.scale b.scale) := beq_iff_eq
  have hzero := a.atScale_eq_zero_iff (max a.scale b.scale)
  have hzero' := b.atScale_eq_zero_iff (max a.scale b.scale)
  have hnegate : b.negate.isZero = b.isZero := rfl
  have hscale : b.negate.scale = b.scale := rfl
  rw [subtract?, add?, hscale, hnegate]
  by_cases hazero : a.isZero = true
  · rw [if_pos hazero]
    refine ⟨fun c hc => ?_, fun h => by cases h⟩
    cases hc
    refine ⟨hb, ?_⟩
    rw [Bool.eq_iff_iff, hsame, hzero.mpr hazero, hnegate, ← hzero', eq_comm]
  by_cases hbzero : b.isZero = true
  · rw [if_neg hazero, if_pos hbzero]
    refine ⟨fun c hc => ?_, fun h => by cases h⟩
    cases hc
    refine ⟨ha, ?_⟩
    rw [Bool.eq_iff_iff, hsame, hzero'.mpr hbzero, hzero]
  rw [if_neg hazero, if_neg hbzero]
  dsimp only
  rw [atScale_negate, ← Int.sub_eq_add_neg]
  have hs : max a.scale b.scale ≤ maxScale := max_le ha hb
  generalize max a.scale b.scale = s at hs hsame
  refine ⟨fun c hc => ?_, fun hnone => Bool.eq_false_iff.mpr fun h => ?_⟩
  · obtain ⟨hc, hczero⟩ := fitSigned?_spec hs hc
    exact ⟨hc, by rw [Bool.eq_iff_iff, hczero, hsame, Int.sub_eq_zero]⟩
  · rw [Int.sub_eq_zero.mpr (hsame.mp h)] at hnone
    exact fitSigned?_zero s hnone

end Scaled

/-! ## Differences of numbers -/

/-- **Whether two numbers are taken for one**: as decimals if both of them have one,
and as doubles otherwise. -/
def takenAlike (x y : Float) : Bool :=
  match Scaled.ofFloat? x, Scaled.ofFloat? y with
  | some a, some b => a.isSame b
  | _, _ => x == y

/-- Equal doubles have the same decimal, also where they are zeros of two signs. -/
theorem ofFloat?_eq_of_beq {x y : Float} (h : (x == y) = true) :
    Scaled.ofFloat? x = Scaled.ofFloat? y := by
  obtain ⟨-, -, rfl | ⟨rfl, rfl⟩ | ⟨rfl, rfl⟩⟩ := Float.beq_iff_ne_nan_and_eq.mp h
  · rfl
  · decide +kernel
  · decide +kernel

/-- Equal numbers are taken for one. -/
theorem takenAlike_of_beq {x y : Float} (h : (x == y) = true) : takenAlike x y = true := by
  rw [takenAlike, ofFloat?_eq_of_beq h]
  cases Scaled.ofFloat? y with
  | none => exact h
  | some a => exact a.isSame_self

/-- **A difference counts as true exactly where the numbers are not taken for
one.** -/
theorem isTruthy_subtract {x y : Float} (hx : x.isFinite = true) (hy : y.isFinite = true) :
    isTruthy (Arithmetic.subtract.compute x y) = !takenAlike x y := by
  have hfloats : Arithmetic.subtract.onFloats x y = x - y := rfl
  rw [Arithmetic.compute, Arithmetic.asDecimals?, hfloats]
  cases hdx : Scaled.ofFloat? x with
  | none =>
    rw [takenAlike, hdx]
    exact isTruthy_sub hx hy
  | some a =>
    cases hdy : Scaled.ofFloat? y with
    | none =>
      rw [takenAlike, hdx, hdy]
      exact isTruthy_sub hx hy
    | some b =>
      have halike : takenAlike x y = a.isSame b := by rw [takenAlike, hdx, hdy]
      obtain ⟨hsome, hnone⟩ := Scaled.subtract?_spec (Scaled.scale_le_of_ofFloat? hdx)
        (Scaled.scale_le_of_ofFloat? hdy)
      cases hc : a.subtract? b with
      | some c =>
        obtain ⟨hscale, hzero⟩ := hsome c hc
        rw [halike, ← hzero, ← Scaled.isTruthy_toFloat hscale]
        simp only [Option.bind_eq_bind, Option.bind_some, Arithmetic.onScaled, hc]
        rfl
      | none =>
        have hbeq : (x == y) = false := Bool.eq_false_iff.mpr fun h => by
          have hsame := takenAlike_of_beq h
          rw [halike, hnone hc] at hsame
          cases hsame
        rw [halike, hnone hc, ← hbeq, ← isTruthy_sub hx hy]
        simp only [Option.bind_eq_bind, Option.bind_some, Arithmetic.onScaled, hc]
        rfl

end CardQuery.Number
