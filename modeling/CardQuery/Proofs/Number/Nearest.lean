import CardQuery.Number.Reading
import CardQuery.Proofs.Number.Bits
import CardQuery.Proofs.Number.Rounding

/-!
# Doubles as rational numbers

A finite double is a rational number (`toRat`), and the double nearest to a number is the one
at the least distance, of two the one with the even significand (`IsNearest`). A number that
lies at least half the way from the greatest double to the next power of two has the infinite
double as its nearest.

The double that is found by scaling a fraction and rounding once is the nearest one and no
other (`isNearest_iff`). The proof compares with all other doubles at once: those that have no
finer exponent are multiples of the power of two at which the fraction was rounded, and among
these the rounding to an integer decides; those that have a finer one lie below all numbers
that are rounded at that power.
-/

namespace CardQuery.Number

/-! ## The number that a double is -/

/-- The number that a significand and a power of two stand for. -/
def Binary.toRat (b : Binary) : ℚ := b.significand * 2 ^ b.exponent

/-- **The number that a finite double is.** -/
def toRat (x : Float) : ℚ :=
  if isNegative x then -(magnitude x).toRat else (magnitude x).toRat

theorem Binary.toRat_nonneg (b : Binary) : 0 ≤ b.toRat :=
  mul_nonneg (Nat.cast_nonneg _) (zpow_nonneg zero_le_two _)

/-- **The significand of a double** has 53 digits, or fewer at the least exponent. -/
theorem magnitude_bounds (x : Float) :
    (magnitude x).significand < 2 ^ 53 ∧ -1074 ≤ (magnitude x).exponent ∧
      (2 ^ 52 ≤ (magnitude x).significand ∨ (magnitude x).exponent = -1074) := by
  have hmant : mantissaBits x < 2 ^ 52 := Nat.mod_lt _ (by decide)
  rw [magnitude_eq]
  split
  · exact ⟨hmant.trans (by decide), le_refl _, .inr rfl⟩
  · refine ⟨?_, ?_, .inl (Nat.le_add_right _ _)⟩
    · show 2 ^ 52 + mantissaBits x < 2 ^ 53
      omega
    · show -1074 ≤ (exponentBits x : Int) - 1075
      omega

/-- A significand at a finer power of two is below all with 53 digits at a coarser one. -/
theorem toRat_lt_of_exponent_lt {b : Binary} (hlt : b.significand < 2 ^ 53) {e : Int}
    (he : b.exponent < e) : b.toRat < 2 ^ 52 * 2 ^ e := by
  have hsignificand : (b.significand : ℚ) < 2 ^ 53 := by exact_mod_cast hlt
  calc b.toRat < 2 ^ 53 * 2 ^ b.exponent :=
        mul_lt_mul_of_pos_right hsignificand (zpow_pos two_pos _)
    _ ≤ 2 ^ 53 * 2 ^ (e - 1) :=
        mul_le_mul_of_nonneg_left (zpow_le_zpow_right₀ one_le_two (by omega)) (by positivity)
    _ = 2 ^ 52 * 2 ^ e := by
        rw [zpow_sub_one₀ two_ne_zero]
        ring

/-- **Doubles on a grid.** A double is a multiple of a power of two, or smaller than all
numbers with 53 digits at that power. An odd multiple is its significand. -/
theorem magnitude_grid (x : Float) (e : Int) :
    (∃ k : ℕ, (magnitude x).toRat = k * 2 ^ e ∧
      (k % 2 = 1 → (magnitude x).significand = k)) ∨
    ((magnitude x).exponent < e ∧ (magnitude x).toRat < 2 ^ 52 * 2 ^ e) := by
  have hlt := (magnitude_bounds x).1
  generalize magnitude x = b at hlt
  by_cases hle : e ≤ b.exponent
  · obtain ⟨j, hj⟩ := Int.le.dest hle
    refine .inl ⟨b.significand * 2 ^ j, ?_, fun hodd => ?_⟩
    · rw [Binary.toRat, ← hj, zpow_add₀ two_ne_zero, zpow_natCast]
      push_cast
      ring
    · cases j with
      | zero => exact (Nat.mul_one _).symm
      | succ j =>
        rw [Nat.pow_succ, ← Nat.mul_assoc, Nat.mul_mod_left] at hodd
        cases hodd
  · exact .inr ⟨Int.not_le.mp hle, toRat_lt_of_exponent_lt hlt (Int.not_le.mp hle)⟩

/-- A number at a coarser power of two with 53 digits is greater than one at a finer
power. -/
theorem exponent_le_of_toRat_eq {b c : Binary} (hb : b.significand < 2 ^ 53)
    (hleast : -1074 ≤ b.exponent) (hc : 2 ^ 52 ≤ c.significand ∨ c.exponent = -1074)
    (h : b.toRat = c.toRat) : c.exponent ≤ b.exponent := by
  refine Int.not_lt.mp fun hlt => ?_
  have hfull : (2 : ℚ) ^ 52 ≤ c.significand := by exact_mod_cast hc.resolve_right (by omega)
  have habove : (2 : ℚ) ^ 52 * 2 ^ c.exponent ≤ c.toRat :=
    mul_le_mul_of_nonneg_right hfull (zpow_nonneg zero_le_two _)
  exact absurd (toRat_lt_of_exponent_lt hb hlt) (not_lt.mpr (h ▸ habove))

/-- **Doubles that are the same number** have the same significand and exponent. -/
theorem magnitude_inj {x y : Float} (h : (magnitude x).toRat = (magnitude y).toRat) :
    magnitude x = magnitude y := by
  obtain ⟨hx, hxleast, hxfull⟩ := magnitude_bounds x
  obtain ⟨hy, hyleast, hyfull⟩ := magnitude_bounds y
  have hexp : (magnitude x).exponent = (magnitude y).exponent :=
    le_antisymm (exponent_le_of_toRat_eq hy hyleast hxfull h.symm)
      (exponent_le_of_toRat_eq hx hxleast hyfull h)
  generalize magnitude x = b at *
  generalize magnitude y = c at *
  obtain ⟨m, e⟩ := b
  obtain ⟨n, f⟩ := c
  obtain rfl : e = f := hexp
  have hpow : (2 : ℚ) ^ e ≠ 0 := zpow_ne_zero _ two_ne_zero
  have hsame : (m : ℚ) = n := mul_right_cancel₀ hpow h
  rw [Nat.cast_inj.mp hsame]

/-- A double is told by its sign and its magnitude. -/
theorem eq_of_magnitude_eq {x y : Float} (hsign : isNegative x = isNegative y)
    (h : magnitude x = magnitude y) : x = y := by
  have hx := x.toBits.toNat_lt
  have hy := y.toBits.toNat_lt
  rw [isNegative_eq, isNegative_eq, decide_eq_decide] at hsign
  have hfields : exponentBits x = exponentBits y ∧ mantissaBits x = mantissaBits y := by
    rw [magnitude_eq, magnitude_eq] at h
    have hmx : mantissaBits x < 2 ^ 52 := Nat.mod_lt _ (by decide)
    have hmy : mantissaBits y < 2 ^ 52 := Nat.mod_lt _ (by decide)
    split at h <;> split at h <;> injection h <;> omega
  rw [exponentBits, exponentBits, mantissaBits, mantissaBits] at hfields
  refine Float.toBits_inj.mp (UInt64.toNat_inj.mp ?_)
  omega

/-! ## Rounding to an integer -/

/-- **A quotient is rounded to an integer at most half away**, and less than half away if it
is odd. Everything is multiplied by twice the denominator. -/
theorem roundHalfEven_spec {n d : Nat} (hd : 0 < d) :
    2 * (roundHalfEven n d * d) ≤ 2 * n + d ∧ 2 * n ≤ 2 * (roundHalfEven n d * d) + d ∧
      (roundHalfEven n d % 2 = 1 →
        2 * (roundHalfEven n d * d) < 2 * n + d ∧ 2 * n < 2 * (roundHalfEven n d * d) + d) := by
  have hdiv := Nat.div_add_mod n d
  have hmod := Nat.mod_lt n hd
  have hstep : (n / d + 1) * d = n / d * d + d := Nat.succ_mul _ _
  rw [Nat.mul_comm] at hdiv
  unfold roundHalfEven
  dsimp only
  split
  · next h =>
    have h := Nat.compare_eq_lt.mp h
    omega
  · next h =>
    have h := Nat.compare_eq_gt.mp h
    omega
  · next h =>
    have h := Nat.compare_eq_eq.mp h
    split <;> omega

theorem abs_sub_roundHalfEven_le {n d : Nat} (hd : 0 < d) :
    |(n / d : ℚ) - roundHalfEven n d| ≤ 1 / 2 ∧
      (roundHalfEven n d % 2 = 1 → |(n / d : ℚ) - roundHalfEven n d| < 1 / 2) := by
  obtain ⟨hlow, hhigh, hodd⟩ := @roundHalfEven_spec n d hd
  generalize roundHalfEven n d = s at hlow hhigh hodd
  have hpos : (0 : ℚ) < d := by exact_mod_cast hd
  have hdistance : (n / d : ℚ) - s = (n - s * d) / d := by field_simp
  rw [hdistance, abs_div, abs_of_pos hpos, div_le_iff₀ hpos, div_lt_iff₀ hpos, abs_le, abs_lt]
  have hlow : 2 * (s * d : ℚ) ≤ 2 * n + d := by exact_mod_cast hlow
  have hhigh : (2 * n : ℚ) ≤ 2 * (s * d) + d := by exact_mod_cast hhigh
  refine ⟨⟨by linarith, by linarith⟩, fun h => ?_⟩
  obtain ⟨hlow, hhigh⟩ := hodd h
  have hlow : 2 * (s * d : ℚ) < 2 * n + d := by exact_mod_cast hlow
  have hhigh : (2 * n : ℚ) < 2 * (s * d) + d := by exact_mod_cast hhigh
  exact ⟨by linarith, by linarith⟩

/-- **No integer is nearer than one at most half away.** Another one that is as near is one
step further, and odd if that one is even. -/
theorem nearest_integer {t : ℚ} {s : ℕ} (hle : |t - s| ≤ 1 / 2)
    (hodd : s % 2 = 1 → |t - s| < 1 / 2) (k : ℕ) :
    |t - s| ≤ |t - k| ∧ (|t - k| = |t - s| → k ≠ s → s % 2 = 0 ∧ k % 2 = 1) := by
  by_cases hk : k = s
  · exact ⟨hk ▸ le_refl _, fun _ h => absurd hk h⟩
  have hapart : (1 : ℚ) ≤ |(s : ℚ) - k| := by
    have hint : 1 ≤ |(s : ℤ) - k| := Int.one_le_abs (by omega)
    exact_mod_cast hint
  have htriangle : |(s : ℚ) - k| ≤ |t - s| + |t - k| := by
    rw [abs_sub_comm t s]
    exact abs_sub_le _ _ _
  refine ⟨by linarith, fun htie _ => ?_⟩
  have heven : s % 2 = 0 := by
    refine Nat.mod_two_ne_one.mp fun h => ?_
    have hless := hodd h
    linarith
  have hstep : |(s : ℤ) - k| ≤ 1 := by
    have hrat : |(s : ℚ) - k| ≤ 1 := by linarith
    exact_mod_cast hrat
  rw [abs_le] at hstep
  exact ⟨heven, by omega⟩

/-! ## Rounding at a power of two -/

/-- **A number that is rounded at a power of two** as doubles are: the power is coarse enough
for 53 digits, and not coarser than that unless it is the least one; and the significand is at
most half away, less if it is odd. -/
structure RoundsTo (q : ℚ) (e : Int) (s : ℕ) : Prop where
  least : -1074 ≤ e
  full : 2 ^ 52 * 2 ^ e ≤ q ∨ e = -1074
  lt : q < 2 ^ 53 * 2 ^ e
  near : |q / 2 ^ e - s| ≤ 1 / 2
  odd : s % 2 = 1 → |q / 2 ^ e - s| < 1 / 2

namespace RoundsTo

variable {q : ℚ} {e : Int} {s : ℕ}

/-- Distances are distances of integers, in units of the power. -/
theorem abs_sub_mul (q t : ℚ) (e : Int) : |q - t * 2 ^ e| = |q / 2 ^ e - t| * 2 ^ e := by
  have hpos : (0 : ℚ) < 2 ^ e := zpow_pos two_pos _
  rw [← abs_of_pos hpos, ← abs_mul, abs_of_pos hpos, sub_mul, div_mul_cancel₀ _ hpos.ne']

variable (h : RoundsTo q e s)
include h

/-- The significand reaches the next power of two at most. -/
theorem significand_le : s ≤ 2 ^ 53 := by
  have hpos : (0 : ℚ) < 2 ^ e := zpow_pos two_pos _
  have hlt : q / 2 ^ e < 2 ^ 53 := (div_lt_iff₀ hpos).mpr h.lt
  have hnear := (abs_le.mp h.near).1
  have hs : (s : ℚ) < 2 ^ 53 + 1 := by linarith
  have hs : s < 2 ^ 53 + 1 := by exact_mod_cast hs
  omega

/-- The significand has 53 digits unless the power is the least one. -/
theorem le_significand : 2 ^ 52 ≤ s ∨ e = -1074 := by
  refine h.full.imp_left fun hfull => ?_
  have hpos : (0 : ℚ) < 2 ^ e := zpow_pos two_pos _
  have hle : (2 : ℚ) ^ 52 ≤ q / 2 ^ e := (le_div_iff₀ hpos).mpr hfull
  have hnear := (abs_le.mp h.near).2
  have hs : (2 ^ 52 : ℚ) < s + 1 := by linarith
  have hs : 2 ^ 52 < s + 1 := by exact_mod_cast hs
  omega

/-- **No double is nearer to a number than what it is rounded to.** Of two that are equally
near the number is rounded to the even one. -/
theorem near_double (hq : 0 ≤ q) (y : Float) :
    |q - s * 2 ^ e| ≤ |q - toRat y| ∧ (|q - toRat y| = |q - s * 2 ^ e| → toRat y ≠ s * 2 ^ e →
      s % 2 = 0 ∧ (magnitude y).significand % 2 = 1) := by
  have hpos : (0 : ℚ) < 2 ^ e := zpow_pos two_pos _
  -- the multiples of the power
  have hgrid : ∀ k : ℕ, |q - s * 2 ^ e| ≤ |q - k * 2 ^ e| ∧
      (|q - k * 2 ^ e| = |q - s * 2 ^ e| → k ≠ s → s % 2 = 0 ∧ k % 2 = 1) := by
    intro k
    obtain ⟨hle, htie⟩ := nearest_integer h.near h.odd k
    rw [abs_sub_mul, abs_sub_mul]
    exact ⟨mul_le_mul_of_nonneg_right hle hpos.le,
      fun heq => htie (mul_right_cancel₀ hpos.ne' heq)⟩
  -- what is further from the number on the same side as a multiple
  have hfar : ∀ k : ℕ, |q - k * 2 ^ e| < |q - toRat y| →
      |q - s * 2 ^ e| ≤ |q - toRat y| ∧ (|q - toRat y| = |q - s * 2 ^ e| → toRat y ≠ s * 2 ^ e →
        s % 2 = 0 ∧ (magnitude y).significand % 2 = 1) := fun k hk =>
    have hlt := (hgrid k).1.trans_lt hk
    ⟨hlt.le, fun heq => absurd heq hlt.ne'⟩
  have hmagnitude := (magnitude y).toRat_nonneg
  by_cases hneg : toRat y < 0
  · refine hfar 0 ?_
    rw [Nat.cast_zero, zero_mul, sub_zero, abs_of_nonneg hq, abs_of_pos (by linarith)]
    linarith
  have hvalue : toRat y = (magnitude y).toRat := by
    unfold toRat at hneg ⊢
    split at hneg
    · have hzero : (magnitude y).toRat = 0 := by linarith
      rw [if_pos ‹_›, hzero, neg_zero]
    · rw [if_neg ‹_›]
  rcases magnitude_grid y e with ⟨k, hk, hsignificand⟩ | ⟨hfiner, hbelow⟩
  · rw [hvalue, hk]
    obtain ⟨hle, htie⟩ := hgrid k
    refine ⟨hle, fun heq hne => ?_⟩
    obtain ⟨heven, hodd⟩ := htie heq fun hks => hne (by rw [hks])
    exact ⟨heven, by rw [hsignificand hodd, hodd]⟩
  · have hleast := (magnitude_bounds y).2.1
    have hfull := h.full.resolve_right (by omega)
    refine hfar (2 ^ 52) ?_
    rw [hvalue]
    push_cast
    rw [abs_of_nonneg (by linarith), abs_of_nonneg (by linarith)]
    linarith

end RoundsTo

/-! ## Fractions -/

/-- A power of two as a fraction of natural numbers. -/
theorem two_zpow_mul (e : Int) : (2 : ℚ) ^ e * 2 ^ (-e).toNat = 2 ^ e.toNat := by
  rw [← zpow_natCast, ← zpow_natCast, ← zpow_add₀ two_ne_zero]
  congr 1
  omega

/-- A fraction in units of a power of two. -/
theorem scaled_div (n d : Nat) (e : Int) :
    ((n * 2 ^ (-e).toNat : Nat) / (d * 2 ^ e.toNat : Nat) : ℚ) = n / d / 2 ^ e := by
  have hpos : (2 : ℚ) ^ (-e).toNat ≠ 0 := by positivity
  push_cast
  rw [← two_zpow_mul e, ← mul_assoc, mul_div_mul_right _ _ hpos, div_div]

/-- **The greatest power of two up to a fraction.** -/
theorem floorLog_spec {n d : Nat} (hn : n ≠ 0) (hd : d ≠ 0) :
    (2 : ℚ) ^ floorLog n d ≤ n / d ∧ (n / d : ℚ) < 2 ^ (floorLog n d + 1) := by
  have hnpos : (0 : ℚ) < n := by exact_mod_cast Nat.pos_of_ne_zero hn
  have hdpos : (0 : ℚ) < d := by exact_mod_cast Nat.pos_of_ne_zero hd
  have hnlow : (2 : ℚ) ^ n.log2 ≤ n := by exact_mod_cast Nat.log2_self_le hn
  have hnhigh : (n : ℚ) < 2 ^ (n.log2 + 1) := by
    exact_mod_cast (Nat.log2_lt hn).mp (Nat.lt_succ_self _)
  have hdlow : (2 : ℚ) ^ d.log2 ≤ d := by exact_mod_cast Nat.log2_self_le hd
  have hdhigh : (d : ℚ) < 2 ^ (d.log2 + 1) := by
    exact_mod_cast (Nat.log2_lt hd).mp (Nat.lt_succ_self _)
  generalize hk : (n.log2 : Int) - d.log2 = k
  have hlow : (2 : ℚ) ^ (k - 1) < n / d := by
    rw [lt_div_iff₀ hdpos]
    calc (2 : ℚ) ^ (k - 1) * d < 2 ^ (k - 1) * 2 ^ (d.log2 + 1) :=
          mul_lt_mul_of_pos_left hdhigh (zpow_pos two_pos _)
      _ = 2 ^ n.log2 := by
          rw [← zpow_natCast, ← zpow_natCast, ← zpow_add₀ two_ne_zero]
          congr 1
          push_cast
          omega
      _ ≤ n := hnlow
  have hhigh : (n / d : ℚ) < 2 ^ (k + 1) := by
    rw [div_lt_iff₀ hdpos]
    calc (n : ℚ) < 2 ^ (n.log2 + 1) := hnhigh
      _ = 2 ^ (k + 1) * 2 ^ d.log2 := by
          rw [← zpow_natCast, ← zpow_natCast, ← zpow_add₀ two_ne_zero]
          congr 1
          push_cast
          omega
      _ ≤ 2 ^ (k + 1) * d := mul_le_mul_of_nonneg_left hdlow (zpow_nonneg zero_le_two _)
  have hcompare : n * 2 ^ (-k).toNat < d * 2 ^ k.toNat ↔ (n / d : ℚ) < 2 ^ k := by
    have hpos : (0 : ℚ) < 2 ^ (-k).toNat := by positivity
    rw [div_lt_iff₀ hdpos, ← mul_lt_mul_iff_left₀ hpos, mul_comm ((2 : ℚ) ^ k), mul_assoc,
      two_zpow_mul]
    exact_mod_cast Iff.rfl
  unfold floorLog
  dsimp only
  rw [hk]
  split
  · next h =>
    rw [sub_add_cancel]
    exact ⟨hlow.le, hcompare.mp h⟩
  · next h => exact ⟨not_lt.mp (mt hcompare.mpr h), hhigh⟩

/-- **A fraction is rounded at a power of two**, and that gives the bits of its nearest
double. -/
theorem exists_roundsTo (n : Nat) {d : Nat} (hd : d ≠ 0) :
    ∃ e s, RoundsTo (n / d) e s ∧
      nearestBits n d = min ((e + 1074).toNat * 2 ^ 52 + s) infinityBits := by
  by_cases hn : n = 0
  · subst hn
    have hpos : (0 : ℚ) < 2 ^ 53 * 2 ^ (-1074 : Int) :=
      mul_pos (pow_pos two_pos _) (zpow_pos two_pos _)
    have hbits : nearestBits 0 d = min (0 * 2 ^ 52 + 0) infinityBits := by
      rw [Nat.zero_mul, Nat.zero_min, nearestBits, if_pos rfl]
    refine ⟨-1074, 0, ⟨le_refl _, .inr rfl, ?_, ?_, fun h => absurd h (by decide)⟩, hbits⟩
    · rwa [Nat.cast_zero, zero_div]
    · rw [Nat.cast_zero, zero_div, zero_div, sub_zero, abs_zero]
      exact div_nonneg zero_le_one zero_le_two
  obtain ⟨hlow, hhigh⟩ := floorLog_spec hn hd
  generalize he : max (floorLog n d - 52) (-1074) = e
  have hunit : 0 < d * 2 ^ e.toNat := Nat.mul_pos (Nat.pos_of_ne_zero hd) (Nat.two_pow_pos _)
  obtain ⟨hnear, hodd⟩ := @abs_sub_roundHalfEven_le (n * 2 ^ (-e).toNat) _ hunit
  rw [scaled_div] at hnear hodd
  refine ⟨e, _, ⟨he ▸ le_max_right _ _, ?_, ?_, hnear, hodd⟩, ?_⟩
  · refine or_iff_not_imp_right.mpr fun hne => hlow.trans' (le_of_eq ?_)
    rw [← zpow_natCast, ← zpow_add₀ two_ne_zero]
    congr 1
    omega
  · refine hhigh.trans_le ?_
    rw [← zpow_natCast, ← zpow_add₀ two_ne_zero]
    exact zpow_le_zpow_right₀ one_le_two (by omega)
  · unfold nearestBits
    rw [if_neg hn, he]
    rfl

/-- Half the way from the greatest double to the next power of two. -/
def overflow : ℚ := 2 ^ 1024 - 2 ^ 970

theorem overflow_eq : overflow = (2 ^ 53 - 1 / 2) * 2 ^ (971 : Int) := by
  have hpow : (2 : ℚ) ^ (971 : Int) = 2 ^ 970 * 2 := (zpow_natCast 2 971).trans (pow_succ 2 970)
  have htop : (2 : ℚ) ^ 1024 = 2 ^ 970 * 2 ^ 54 := pow_add 2 970 54
  rw [overflow, htop, hpow]
  generalize (2 : ℚ) ^ 970 = unit
  ring

namespace RoundsTo

variable {q : ℚ} {e : Int} {s : ℕ} (h : RoundsTo q e s)
include h

/-- **The bits of the nearest double** reach those of the infinite one where the number lies
half the way or more from the greatest double to the next power of two. -/
theorem infinityBits_le_iff : infinityBits ≤ (e + 1074).toNat * 2 ^ 52 + s ↔ overflow ≤ q := by
  have hmax : infinityBits = 2047 * 2 ^ 52 := rfl
  have hleast := h.least
  have hs := h.significand_le
  have hs' := h.le_significand
  have hpos : (0 : ℚ) < 2 ^ (971 : Int) := zpow_pos two_pos _
  have hdouble : ∀ f : Int, (2 : ℚ) ^ (f + 1) = 2 ^ f * 2 := fun f =>
    zpow_add_one₀ two_ne_zero f
  rw [overflow_eq]
  rcases lt_trichotomy e 971 with hlt | rfl | hgt
  · have hpow : (2 : ℚ) ^ (e + 1) ≤ 2 ^ (971 : Int) := zpow_le_zpow_right₀ one_le_two hlt
    have hbelow := h.lt
    rw [hdouble] at hpow
    refine iff_of_false (by omega) ?_
    generalize (2 : ℚ) ^ e = unit at hpow hbelow
    generalize (2 : ℚ) ^ (971 : Int) = top at hpos hpow ⊢
    linarith
  · -- at the power of the greatest doubles the significand decides
    rw [← le_div_iff₀ hpos]
    obtain ⟨hnear, hnear'⟩ := abs_le.mp h.near
    have hodd := h.odd
    generalize q / 2 ^ (971 : Int) = t at hnear hnear' hodd
    constructor
    · intro hbits
      obtain rfl : s = 2 ^ 53 := by omega
      push_cast at hnear
      linarith
    · intro hle
      have hlow : ((2 ^ 53 - 1 : ℕ) : ℚ) ≤ s := by
        push_cast
        linarith
      have hlow : 2 ^ 53 - 1 ≤ s := by exact_mod_cast hlow
      rcases Nat.eq_or_lt_of_le hlow with rfl | htop
      · have hless := (abs_lt.mp (hodd (by decide))).2
        push_cast at hless
        linarith
      · omega
  · have hpow : (2 : ℚ) ^ ((971 : Int) + 1) ≤ 2 ^ e := zpow_le_zpow_right₀ one_le_two hgt
    have hfull := h.full.resolve_right (by omega)
    rw [hdouble] at hpow
    refine iff_of_true (by omega) ?_
    generalize (2 : ℚ) ^ e = unit at hpow hfull
    generalize (2 : ℚ) ^ (971 : Int) = top at hpos hpow ⊢
    linarith

/-- **The double of the bits** that a number is rounded to. -/
theorem double_of_bits (hfin : (e + 1074).toNat * 2 ^ 52 + s < infinityBits) {x : Float}
    (hx : x = .ofBits ((e + 1074).toNat * 2 ^ 52 + s).toUInt64) :
    x.isFinite = true ∧ isNegative x = false ∧ (magnitude x).toRat = s * 2 ^ e ∧
      (magnitude x).significand % 2 = s % 2 := by
  have hmax : infinityBits = 2047 * 2 ^ 52 := rfl
  have hs := h.significand_le
  have hs' := h.le_significand
  obtain ⟨j, rfl⟩ : ∃ j : ℕ, e = (j : Int) - 1074 := ⟨(e + 1074).toNat, by have := h.least; omega⟩
  rw [Int.sub_add_cancel, Int.toNat_natCast] at hfin hx
  obtain ⟨hexp, hmant, hsign⟩ := fields_withSign hfin.le false
  change exponentBits (.ofBits _) = _ at hexp
  change mantissaBits (.ofBits _) = _ at hmant
  change isNegative (.ofBits _) = _ at hsign
  rw [← hx] at hexp hmant hsign
  refine ⟨(finite_of_exponentBits (by omega)).1, hsign, ?_⟩
  rw [magnitude_eq]
  -- no leading one, a leading one, or a carry into the next power
  by_cases hlead : s < 2 ^ 52
  · have hbinary : (⟨mantissaBits x, -1074⟩ : Binary) = ⟨s, (j : Int) - 1074⟩ := by
      congr 1 <;> omega
    rw [if_pos (by omega), hbinary]
    exact ⟨rfl, rfl⟩
  by_cases hcarry : s = 2 ^ 53
  · have hbinary : (⟨2 ^ 52 + mantissaBits x, (exponentBits x : Int) - 1075⟩ : Binary)
        = ⟨2 ^ 52, (j : Int) - 1074 + 1⟩ := by congr 1 <;> omega
    rw [if_neg (by omega), hbinary, hcarry]
    refine ⟨?_, show 2 ^ 52 % 2 = 2 ^ 53 % 2 by decide⟩
    rw [Binary.toRat, zpow_add_one₀ two_ne_zero]
    push_cast
    ring
  · have hbinary : (⟨2 ^ 52 + mantissaBits x, (exponentBits x : Int) - 1075⟩ : Binary)
        = ⟨s, (j : Int) - 1074⟩ := by congr 1 <;> omega
    rw [if_neg (by omega), hbinary]
    exact ⟨rfl, rfl⟩

end RoundsTo

/-! ## The nearest double -/

/-- **The double nearest to a number** that is not negative: the one at the least distance, of
two the one with the even significand, and the infinite one for all numbers that lie half the
way or more from the greatest double to the next power of two. Zero has no sign. -/
inductive IsNearest (q : ℚ) : Float → Prop where
  | finite {x : Float} (below : q < overflow) (isFinite : x.isFinite = true)
    (sign : isNegative x = false)
    (near : ∀ y : Float, y.isFinite = true → |q - toRat x| ≤ |q - toRat y|)
    (even : ∀ y : Float, y.isFinite = true → |q - toRat y| = |q - toRat x| → toRat y ≠ toRat x →
      (magnitude x).significand % 2 = 0) : IsNearest q x
  | infinite (above : overflow ≤ q) : IsNearest q infinity

theorem toRat_of_not_isNegative {x : Float} (h : isNegative x = false) :
    toRat x = (magnitude x).toRat := by
  rw [toRat, h]
  rfl

/-- **A fraction has one nearest double**, namely the one that it is rounded to. -/
theorem isNearest_iff (n : Nat) {d : Nat} (hd : d ≠ 0) (x : Float) :
    IsNearest (n / d) x ↔ x = nearestTo n d := by
  have hq : (0 : ℚ) ≤ n / d := div_nonneg (Nat.cast_nonneg n) (Nat.cast_nonneg d)
  obtain ⟨e, s, h, hbits⟩ := exists_roundsTo n hd
  generalize (n / d : ℚ) = q at hq h
  have hoverflow := h.infinityBits_le_iff
  rw [nearestTo, hbits]
  by_cases hlarge : infinityBits ≤ (e + 1074).toNat * 2 ^ 52 + s
  · rw [Nat.min_eq_right hlarge]
    have habove := hoverflow.mp hlarge
    constructor
    · rintro (⟨below, -⟩ | -)
      · exact absurd habove (not_le.mpr below)
      · rfl
    · rintro rfl
      exact .infinite habove
  have hbelow : q < overflow := not_le.mp (mt hoverflow.mpr hlarge)
  rw [Nat.min_eq_left (Nat.le_of_not_le hlarge)]
  obtain ⟨hfinite, hsign, hvalue, heven⟩ := h.double_of_bits (Nat.lt_of_not_le hlarge) rfl
  generalize Float.ofBits ((e + 1074).toNat * 2 ^ 52 + s).toUInt64 = z at hfinite hsign hvalue heven
  rw [← toRat_of_not_isNegative hsign] at hvalue
  constructor
  · rintro (⟨-, hx, hxsign, hxnear, hxeven⟩ | habove)
    · obtain ⟨hle, htie⟩ := h.near_double hq x
      rw [← hvalue] at hle htie
      have hsame : toRat x = toRat z := by
        -- two nearest doubles would be neighbours, one of them odd
        refine Classical.byContradiction fun hne => ?_
        have hequal := le_antisymm (hxnear z hfinite) hle
        obtain ⟨-, hodd⟩ := htie hequal hne
        have := hxeven z hfinite hequal.symm (Ne.symm hne)
        omega
      rw [toRat_of_not_isNegative hxsign, toRat_of_not_isNegative hsign] at hsame
      exact eq_of_magnitude_eq (hxsign.trans hsign.symm) (magnitude_inj hsame)
    · exact absurd habove (not_le.mpr hbelow)
  · rintro rfl
    refine .finite hbelow hfinite hsign (fun y _ => ?_) fun y _ hequal hne => ?_
    · rw [hvalue]
      exact (h.near_double hq y).1
    · rw [heven]
      rw [hvalue] at hequal hne
      exact ((h.near_double hq y).2 hequal hne).1

end CardQuery.Number
