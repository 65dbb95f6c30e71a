import CardQuery.Number.Nearest
import Mathlib

/-!
# The nearest double of a whole number

A whole number has a double with the significand `m` at the power `L` as its
nearest one if it is closer to that double than half the way to the next one,
or half the way and `m` is even. `Near` says so without fractions: everything
is multiplied by four, so that half the way to the next smaller double is a
whole number even where the doubles below lie twice as close.

Both directions are needed. The nearest double of a whole number other than
zero is of this form (`nearestBits_spec`), and any whole number that is near a
double is read as that double (`nearestBits_of_near`).
-/

namespace CardQuery.Number

/-! ## Rounding to even -/

/-- A quotient rounds to an integer that it is at most half away from, and to
an even one if it is half away. -/
theorem roundHalfEven_eq {n d s : Nat} (hd : 0 < d) (hlow : 2 * (s * d) ≤ 2 * n + d)
    (hhigh : 2 * n ≤ 2 * (s * d) + d)
    (hodd : s % 2 = 1 → 2 * (s * d) < 2 * n + d ∧ 2 * n < 2 * (s * d) + d) :
    roundHalfEven n d = s := by
  have hdiv := Nat.div_add_mod n d
  have hmod := Nat.mod_lt n hd
  rw [Nat.mul_comm] at hdiv
  -- the quotient is the integer itself or the one below
  have hle : n / d ≤ s := by
    refine Nat.le_of_not_lt fun hlt => ?_
    have hstep := Nat.mul_le_mul_right d (Nat.succ_le_of_lt hlt)
    rw [Nat.succ_mul] at hstep
    omega
  have hge : s ≤ n / d + 1 := by
    refine Nat.le_of_not_lt fun hlt => ?_
    have hstep := Nat.mul_le_mul_right d (Nat.succ_le_of_lt hlt)
    rw [Nat.succ_mul, Nat.succ_mul] at hstep
    omega
  -- each way the remainder is on the side of `s`, or half of `d` and `s` is even
  unfold roundHalfEven
  dsimp only
  rcases Nat.lt_or_eq_of_le hle with hlt | heq
  · obtain rfl : n / d + 1 = s := by omega
    rw [Nat.succ_mul (n / d) d] at hlow hhigh hodd
    rcases Nat.lt_or_eq_of_le (show d ≤ 2 * (n % d) by omega) with hgt | hhalf
    · rw [Nat.compare_eq_gt.mpr hgt]
    · rw [Nat.compare_eq_eq.mpr hhalf.symm]
      exact if_neg (by omega)
  · rw [heq] at hdiv
    rcases Nat.lt_or_eq_of_le (show 2 * (n % d) ≤ d by omega) with hlt | hhalf
    · rw [Nat.compare_eq_lt.mpr hlt, heq]
    · rw [Nat.compare_eq_eq.mpr hhalf, heq]
      exact if_pos (by omega)

/-- A quotient rounds to nothing smaller than an integer below it, and to
nothing greater than one above it. -/
theorem roundHalfEven_bounds {n d low high : Nat} (hd : 0 < d) (hlow : low * d ≤ n)
    (hhigh : n ≤ high * d) : low ≤ roundHalfEven n d ∧ roundHalfEven n d ≤ high := by
  have hdiv := Nat.div_add_mod n d
  have hmod := Nat.mod_lt n hd
  rw [Nat.mul_comm] at hdiv
  have hle : low ≤ n / d := (Nat.le_div_iff_mul_le hd).mpr hlow
  have hge : n / d ≤ high := Nat.div_le_of_le_mul (by rwa [Nat.mul_comm])
  have hstep : n / d = high → n % d = 0 := by
    intro h
    rw [h] at hdiv
    omega
  unfold roundHalfEven
  dsimp only
  split
  · exact ⟨hle, hge⟩
  · next hgt =>
    have hgt := Nat.compare_eq_gt.mp hgt
    refine ⟨Nat.le_succ_of_le hle, Nat.succ_le_of_lt (Nat.lt_of_le_of_ne hge fun h => ?_)⟩
    have := hstep h
    omega
  · next heq =>
    have heq := Nat.compare_eq_eq.mp heq
    split
    · exact ⟨hle, hge⟩
    · refine ⟨Nat.le_succ_of_le hle, Nat.succ_le_of_lt (Nat.lt_of_le_of_ne hge fun h => ?_)⟩
      have := hstep h
      omega

theorem roundHalfEven_zero {d : Nat} (hd : 0 < d) : roundHalfEven 0 d = 0 := by
  have hbounds : 0 ≤ roundHalfEven 0 d ∧ roundHalfEven 0 d ≤ 0 :=
    roundHalfEven_bounds hd (Nat.zero_mul d).le (Nat.zero_le _)
  exact Nat.le_zero.mp hbounds.2

theorem roundHalfEven_ne_zero {n d : Nat} (hd : 0 < d) (h : d ≤ n) : roundHalfEven n d ≠ 0 := by
  have hbounds : 1 ≤ roundHalfEven n d ∧ roundHalfEven n d ≤ n :=
    roundHalfEven_bounds hd (by rwa [Nat.one_mul]) (Nat.le_mul_of_pos_right n hd)
  exact Nat.one_le_iff_ne_zero.mp hbounds.1

theorem roundHalfEven_mul (n d : Nat) {c : Nat} (hc : 0 < c) :
    roundHalfEven (n * c) (d * c) = roundHalfEven n d := by
  have hcompare : compare (2 * (n % d * c)) (d * c) = compare (2 * (n % d)) d := by
    rw [← Nat.mul_assoc]
    rcases Nat.lt_trichotomy (2 * (n % d)) d with hlt | heq | hgt
    · rw [Nat.compare_eq_lt.mpr hlt, Nat.compare_eq_lt]
      exact Nat.mul_lt_mul_of_pos_right hlt hc
    · rw [Nat.compare_eq_eq.mpr heq, Nat.compare_eq_eq, heq]
    · rw [Nat.compare_eq_gt.mpr hgt, Nat.compare_eq_gt]
      exact Nat.mul_lt_mul_of_pos_right hgt hc
  unfold roundHalfEven
  rw [Nat.mul_div_mul_right _ _ hc, Nat.mul_mod_mul_right, hcompare]

/-- Equal quotients round alike. -/
theorem roundHalfEven_congr {n d n' d' : Nat} (hd : 0 < d) (hd' : 0 < d') (h : n * d' = n' * d) :
    roundHalfEven n d = roundHalfEven n' d' := by
  rw [← roundHalfEven_mul n d hd', h, Nat.mul_comm d d', roundHalfEven_mul n' d' hd]

/-! ## Whole numbers -/

/-- Above the least exponent the nearest double of a whole number has the
greatest power of two up to it as its power. -/
theorem nearestBits_eq {n L : Nat} (hn : n ≠ 0) (hlog : n.log2 = L) :
    nearestBits n 1 = min ((L + 1022) * 2 ^ 52 + roundHalfEven (n * 2 ^ (52 - L)) (2 ^ (L - 52)))
      infinityBits := by
  have hfloor : floorLog n 1 = L := by
    have hle : 2 ^ L ≤ n := (Nat.le_log2 hn).mp (Nat.le_of_eq hlog.symm)
    have hpow : (-(((n.log2 : Int)) - ((1 : Nat).log2 : Nat))).toNat = 0 ∧
        (((n.log2 : Int)) - ((1 : Nat).log2 : Nat)).toNat = L := by
      rw [hlog]
      have hone : (1 : Nat).log2 = 0 := by decide
      omega
    unfold floorLog
    dsimp only
    rw [hpow.1, hpow.2, if_neg]
    · rw [hlog]
      have hone : (1 : Nat).log2 = 0 := by decide
      omega
    · show ¬ n * 2 ^ 0 < 1 * 2 ^ L
      omega
  -- a whole number is far above the subnormal doubles
  have hexp : max (floorLog n 1 - 52) (-1074) = (L : Int) - 52 := by
    rw [hfloor]
    omega
  have hup : (-((L : Int) - 52)).toNat = 52 - L := by omega
  have hdown : ((L : Int) - 52).toNat = L - 52 := by omega
  have hbase : ((L : Int) - 52 + 1074).toNat = L + 1022 := by omega
  unfold nearestBits
  rw [if_neg hn, hexp]
  dsimp only
  rw [hup, hdown, hbase, Nat.one_mul]
  rfl

/-- **A double that is a whole number**: the bits of the significand `m` at
the power `L`, with no digits behind the point. -/
structure IsWhole (bits L m : Nat) : Prop where
  bits_eq : bits = (L + 1022) * 2 ^ 52 + m
  le_significand : 2 ^ 52 ≤ m
  significand_lt : m < 2 ^ 53
  whole : 2 ^ (52 - L) ∣ m

/-- A significand that reaches the next power of two is the least one
there. -/
theorem carry_significand (L : Nat) :
    (L + 1022) * 2 ^ 52 + 2 ^ 53 = (L + 1 + 1022) * 2 ^ 52 + 2 ^ 52 := by
  have hdouble : 2 ^ 53 = 2 ^ 52 + 2 ^ 52 := by decide
  rw [Nat.add_right_comm L 1, Nat.succ_mul (L + 1022), Nat.add_assoc, hdouble]

/-- **The nearest double of a whole number is a whole number**, or
infinite. -/
theorem nearestBits_spec {n : Nat} (hn : n ≠ 0) (hfin : nearestBits n 1 < infinityBits) :
    ∃ L m, IsWhole (nearestBits n 1) L m := by
  have hle : 2 ^ n.log2 ≤ n := (Nat.le_log2 hn).mp (Nat.le_refl _)
  have hlt : n < 2 ^ (n.log2 + 1) := (Nat.log2_lt hn).mp (Nat.lt_succ_self _)
  generalize hL : n.log2 = L at hle hlt
  have hbits : nearestBits n 1
      = (L + 1022) * 2 ^ 52 + roundHalfEven (n * 2 ^ (52 - L)) (2 ^ (L - 52)) := by
    have heq := nearestBits_eq hn hL
    omega
  by_cases hsmall : L ≤ 52
  · -- nothing is rounded
    have hround : roundHalfEven (n * 2 ^ (52 - L)) (2 ^ (L - 52)) = n * 2 ^ (52 - L) := by
      rw [Nat.sub_eq_zero_of_le hsmall]
      exact roundHalfEven_eq Nat.one_pos (by omega) (by omega) (by omega)
    have hpow : 2 ^ L * 2 ^ (52 - L) = 2 ^ 52 := by
      rw [← Nat.pow_add, Nat.add_sub_cancel' hsmall]
    refine ⟨L, n * 2 ^ (52 - L), ⟨hround ▸ hbits, ?_, ?_, Nat.dvd_mul_left _ _⟩⟩
    · rw [← hpow]
      exact Nat.mul_le_mul_right _ hle
    · have hstep := Nat.mul_lt_mul_of_pos_right hlt (Nat.two_pow_pos (52 - L))
      rw [Nat.pow_succ, Nat.mul_right_comm, hpow] at hstep
      exact hstep
  · have hzero : 52 - L = 0 := by omega
    have hpow : ∀ k, 2 ^ (52 + k) * 2 ^ (L - 52) = 2 ^ (L + k) := by
      intro k
      rw [← Nat.pow_add]
      congr 1
      omega
    rw [hzero, Nat.pow_zero, Nat.mul_one] at hbits
    obtain ⟨hlow, hhigh⟩ : 2 ^ 52 ≤ roundHalfEven n (2 ^ (L - 52)) ∧
        roundHalfEven n (2 ^ (L - 52)) ≤ 2 ^ 53 := by
      refine roundHalfEven_bounds (Nat.two_pow_pos _) ?_ ?_
      · rw [hpow 0]
        exact hle
      · rw [hpow 1]
        exact Nat.le_of_lt hlt
    by_cases htop : roundHalfEven n (2 ^ (L - 52)) = 2 ^ 53
    · -- the significand rounds up to the next power
      have hzero' : 52 - (L + 1) = 0 := by omega
      have hcarry : nearestBits n 1 = (L + 1 + 1022) * 2 ^ 52 + 2 ^ 52 := by
        rw [hbits, htop]
        exact carry_significand L
      exact ⟨L + 1, 2 ^ 52, hcarry, Nat.le_refl _, by decide, by rw [hzero']; exact Nat.one_dvd _⟩
    · exact ⟨L, _, ⟨hbits, hlow, by omega, by rw [hzero]; exact Nat.one_dvd _⟩⟩

/-! ## Numbers near a double -/

/-- **A whole number is near a double** if it is at most half the way to the
next one away, and less for an odd significand. Just below a power of two the
next double is half as far. Everything is multiplied by four and by the
denominator of the double. -/
structure Near (L m n : Nat) : Prop where
  low : 4 * (m * 2 ^ (L - 54)) ≤ n * 2 ^ (54 - L) + 2 * 2 ^ (L - 54)
  high : n * 2 ^ (54 - L) ≤ 4 * (m * 2 ^ (L - 54)) + 2 * 2 ^ (L - 54)
  odd : m % 2 = 1 → 4 * (m * 2 ^ (L - 54)) < n * 2 ^ (54 - L) + 2 * 2 ^ (L - 54) ∧
    n * 2 ^ (54 - L) < 4 * (m * 2 ^ (L - 54)) + 2 * 2 ^ (L - 54)
  narrow : m = 2 ^ 52 → 4 * (m * 2 ^ (L - 54)) ≤ n * 2 ^ (54 - L) + 2 ^ (L - 54)

/-- Powers of two in the units of `Near`. -/
theorem pow_mul_denominator (L k : Nat) :
    2 ^ (L + k) * 2 ^ (54 - L) = 2 ^ (54 + k) * 2 ^ (L - 54) := by
  rw [← Nat.pow_add, ← Nat.pow_add]
  congr 1
  omega

/-- Zero is near no such double. -/
theorem Near.ne_zero {L m n : Nat} (h : Near L m n) (hle : 2 ^ 52 ≤ m) : n ≠ 0 := by
  rintro rfl
  have hlow := h.low
  have hunit : 0 < 2 ^ (L - 54) := Nat.two_pow_pos _
  have hstep := Nat.mul_le_mul_right (2 ^ (L - 54)) hle
  omega

/-- What is near a double lies below the next power of two. -/
theorem Near.lt_pow {L m n : Nat} (h : Near L m n) (hlt : m < 2 ^ 53) : n < 2 ^ (L + 1) := by
  have hhigh := h.high
  have hunit : 0 < 2 ^ (L - 54) := Nat.two_pow_pos _
  have hstep := Nat.mul_le_mul_right (2 ^ (L - 54)) (Nat.le_sub_one_of_lt hlt)
  refine Nat.lt_of_mul_lt_mul_right (a := 2 ^ (54 - L)) ?_
  rw [pow_mul_denominator]
  omega

/-- What is near a double and not below its power of two is rounded at that
power. -/
theorem roundHalfEven_of_near {L m n : Nat} (h : Near L m n) :
    roundHalfEven (n * 2 ^ (52 - L)) (2 ^ (L - 52)) = m := by
  obtain ⟨hlow, hhigh, hodd, -⟩ := h
  have hunit : 0 < 2 ^ (L - 54) := Nat.two_pow_pos _
  have hscale : n * 2 ^ (52 - L) * (4 * 2 ^ (L - 54)) = n * 2 ^ (54 - L) * 2 ^ (L - 52) := by
    rw [Nat.mul_assoc, Nat.mul_assoc, show 4 = 2 ^ 2 from rfl, ← Nat.pow_add, ← Nat.pow_add,
      ← Nat.pow_add]
    congr 2
    omega
  rw [roundHalfEven_congr (Nat.two_pow_pos _) (by omega) hscale]
  have hassoc : m * (4 * 2 ^ (L - 54)) = 4 * (m * 2 ^ (L - 54)) := Nat.mul_left_comm ..
  refine roundHalfEven_eq (by omega) (by omega) (by omega) fun h => ?_
  have hstrict := hodd h
  omega

/-- Only a power of two has a number near it that lies below it. -/
theorem Near.eq_pow {L m n : Nat} (h : Near L m n) (hle : 2 ^ 52 ≤ m) (hlt : n < 2 ^ L) :
    m = 2 ^ 52 := by
  have hlow := h.low
  have hunit : 0 < 2 ^ (L - 54) := Nat.two_pow_pos _
  have hbelow : n * 2 ^ (54 - L) < 2 ^ 54 * 2 ^ (L - 54) := by
    rw [← pow_mul_denominator L 0]
    exact Nat.mul_lt_mul_of_pos_right hlt (Nat.two_pow_pos _)
  refine Nat.le_antisymm (Nat.le_of_not_lt fun hgt => ?_) hle
  have hstep := Nat.mul_le_mul_right (2 ^ (L - 54)) (Nat.succ_le_of_lt hgt)
  rw [Nat.succ_mul] at hstep
  omega

/-- What is near a power of two and below it is rounded at the power before,
up to it. -/
theorem roundHalfEven_of_near_pow {k n : Nat} (h : Near (k + 1) (2 ^ 52) n)
    (hlt : n < 2 ^ (k + 1)) :
    2 ^ k ≤ n ∧ roundHalfEven (n * 2 ^ (52 - k)) (2 ^ (k - 52)) = 2 ^ 53 := by
  have hnarrow := h.narrow rfl
  have hunit : 0 < 2 ^ (k + 1 - 54) := Nat.two_pow_pos _
  have hbelow : n * 2 ^ (54 - (k + 1)) < 2 ^ 54 * 2 ^ (k + 1 - 54) := by
    rw [← pow_mul_denominator (k + 1) 0]
    exact Nat.mul_lt_mul_of_pos_right hlt (Nat.two_pow_pos _)
  constructor
  · refine Nat.le_of_mul_le_mul_right (c := 2 ^ (54 - (k + 1))) ?_ (Nat.two_pow_pos _)
    have hpow := pow_mul_denominator (k + 1) 0
    rw [Nat.add_zero, Nat.pow_succ 2 k, Nat.mul_right_comm] at hpow
    omega
  · have hscale : n * 2 ^ (52 - k) * (2 * 2 ^ (k + 1 - 54))
        = n * 2 ^ (54 - (k + 1)) * 2 ^ (k - 52) := by
      rw [Nat.mul_assoc, Nat.mul_assoc, ← Nat.pow_succ', ← Nat.pow_add, ← Nat.pow_add]
      congr 2
      omega
    rw [roundHalfEven_congr (Nat.two_pow_pos _) (by omega) hscale]
    exact roundHalfEven_eq (by omega) (by omega) (by omega) (fun h => absurd h (by decide))

/-- **What is near a double is read as that double.** -/
theorem nearestBits_of_near {bits L m n : Nat} (hwhole : IsWhole bits L m) (hnear : Near L m n)
    (hfin : bits < infinityBits) : nearestBits n 1 = bits := by
  obtain ⟨hbits, hle, hlt, -⟩ := hwhole
  have hpos := hnear.ne_zero hle
  by_cases hbottom : 2 ^ L ≤ n
  · have hlog : n.log2 = L := (Nat.log2_eq_iff hpos).mpr ⟨hbottom, hnear.lt_pow hlt⟩
    rw [nearestBits_eq hpos hlog, roundHalfEven_of_near hnear, ← hbits]
    exact Nat.min_eq_left (Nat.le_of_lt hfin)
  · have hbelow : n < 2 ^ L := Nat.lt_of_not_le hbottom
    obtain rfl := hnear.eq_pow hle hbelow
    obtain ⟨k, rfl⟩ : ∃ k, L = k + 1 := Nat.exists_eq_add_of_le' (Nat.pos_of_ne_zero (by
      rintro rfl
      exact hbottom (Nat.pos_of_ne_zero hpos)))
    obtain ⟨hlow, hround⟩ := roundHalfEven_of_near_pow hnear hbelow
    have hlog : n.log2 = k := (Nat.log2_eq_iff hpos).mpr ⟨hlow, hbelow⟩
    rw [nearestBits_eq hpos hlog, hround, carry_significand, ← hbits]
    exact Nat.min_eq_left (Nat.le_of_lt hfin)

end CardQuery.Number
