import CardQuery.Number.Reading
import CardQuery.Number.Shortest
import CardQuery.Proofs.Number.Bits
import CardQuery.Proofs.Number.Rounding

/-!
# Whole numbers are read back as they are printed

The numbers of a query are whole, so their doubles are, and the shortest
decimal of such a double is a whole number too: when the grids of the search
get as fine as the whole numbers, the double itself is a point of the grid.
Every point that the search may take is near the double
(`near_of_onGrid`), so what is printed is read as the same double, whatever
number of digits the search stops at (`plainDigits_spec`).

The infinite doubles are the only ones from a query that are not printed as
digits.
-/

namespace CardQuery.Number

/-! ## The search -/

/-- The double of a significand at a power, as the search takes it. -/
def wholeBinary (L m : Nat) : Binary := ⟨m, (L : Int) - 52⟩

theorem isNarrow_wholeBinary (L m : Nat) : (wholeBinary L m).isNarrow = decide (m = 2 ^ 52) := by
  have hexp : (L : Int) - 52 > -1074 := by omega
  show (m == 2 ^ 52 && decide ((L : Int) - 52 > -1074)) = _
  rw [decide_eq_true hexp, Bool.and_true]
  rfl

/-- Four times the double, in units of its denominator. -/
def numerator (L m : Nat) : Nat := 4 * (m * 2 ^ (L - 54))

/-- The distance between two points of a grid, in these units. -/
def spacing (L g : Nat) : Nat := 2 ^ (54 - L) * 10 ^ g

/-- The point of a grid at the double or below it. -/
def below (L m g : Nat) : Nat := numerator L m / spacing L g

/-- The end of the interval below a double. -/
def intervalLow (L m : Nat) : Nat :=
  if m = 2 ^ 52 then numerator L m - 2 ^ (L - 54) else numerator L m - 2 * 2 ^ (L - 54)

/-- The end of the interval above a double. -/
def intervalHigh (L m : Nat) : Nat := numerator L m + 2 * 2 ^ (L - 54)

/-- Whether a point below a double lies in its interval. -/
def fitsBelow (L m x : Nat) : Bool :=
  intervalLow L m < x || m % 2 == 0 && intervalLow L m == x

/-- Whether a point above a double lies in its interval. -/
def fitsAbove (L m x : Nat) : Bool :=
  x < intervalHigh L m || m % 2 == 0 && x == intervalHigh L m

theorem spacing_pos (L g : Nat) : 0 < spacing L g :=
  Nat.mul_pos (Nat.two_pow_pos _) (Nat.pow_pos (by decide))

/-- **The search on a grid of whole numbers**, in units of the denominator. -/
theorem onGrid_eq (L m g : Nat) (tie : Tie) :
    (wholeBinary L m).onGrid tie g
      = match fitsBelow L m (below L m g * spacing L g),
          fitsAbove L m ((below L m g + 1) * spacing L g) with
        | false, false => none
        | true, false => some (below L m g)
        | false, true => some (below L m g + 1)
        | true, true =>
          match compare (2 * numerator L m) ((2 * below L m g + 1) * spacing L g), tie with
          | .lt, _ => some (below L m g)
          | .gt, _ => some (below L m g + 1)
          | .eq, .up => some (below L m g + 1)
          | .eq, .toEven =>
            some (if below L m g % 2 = 0 then below L m g else below L m g + 1) := by
  have hup : ((L : Int) - 52 - 2).toNat = L - 54 := by omega
  have hdown : (-((L : Int) - 52 - 2)).toNat = 54 - L := by omega
  have hnone : (-(g : Int)).toNat = 0 := by omega
  have hscaled : scaledBy (4 * (wholeBinary L m).significand) ((wholeBinary L m).exponent - 2) g
      = (numerator L m, spacing L g) := by
    show (4 * m * Nat.pow 2 ((L : Int) - 52 - 2).toNat * Nat.pow 10 (-(g : Int)).toNat,
      Nat.pow 2 (-((L : Int) - 52 - 2)).toNat * Nat.pow 10 g) = _
    rw [hup, hdown, hnone]
    show (4 * m * 2 ^ (L - 54) * 1, spacing L g) = (numerator L m, spacing L g)
    rw [Nat.mul_one, Nat.mul_assoc, numerator]
  have hquarter : Nat.pow 2 ((wholeBinary L m).exponent - 2).toNat * Nat.pow 10 (-(g : Int)).toNat
      = 2 ^ (L - 54) := by
    show Nat.pow 2 ((L : Int) - 52 - 2).toNat * Nat.pow 10 (-(g : Int)).toNat = _
    rw [hup, hnone]
    exact Nat.mul_one _
  -- in these units the search is the one stated, test for test
  unfold Binary.onGrid
  rw [hscaled, hquarter, isNarrow_wholeBinary]
  simp only [decide_eq_true_eq]
  rfl

/-- **What the search takes passed its test**: the point at the double or
below it, or the next one. -/
theorem onGrid_cases {L m g D : Nat} {tie : Tie} (h : (wholeBinary L m).onGrid tie g = some D) :
    D = below L m g ∧ fitsBelow L m (D * spacing L g) = true ∨
      D = below L m g + 1 ∧ fitsAbove L m (D * spacing L g) = true := by
  rw [onGrid_eq] at h
  split at h
  · cases h
  · next hbelow habove =>
    cases h
    exact .inl ⟨rfl, hbelow⟩
  · next hbelow habove =>
    cases h
    exact .inr ⟨rfl, habove⟩
  · next hbelow habove =>
    have hside : D = below L m g ∨ D = below L m g + 1 := by
      split at h
      · exact .inl (Option.some.inj h).symm
      · exact .inr (Option.some.inj h).symm
      · exact .inr (Option.some.inj h).symm
      · split at h
        · exact .inl (Option.some.inj h).symm
        · exact .inr (Option.some.inj h).symm
    rcases hside with rfl | rfl
    · exact .inl ⟨rfl, hbelow⟩
    · exact .inr ⟨rfl, habove⟩

/-- **What the search takes from a grid of whole numbers is near the
double.** -/
theorem near_of_onGrid {L m g D : Nat} {tie : Tie} (hle : 2 ^ 52 ≤ m)
    (h : (wholeBinary L m).onGrid tie g = some D) : Near L m (D * 10 ^ g) := by
  have hscale : D * 10 ^ g * 2 ^ (54 - L) = D * spacing L g := by
    rw [spacing, Nat.mul_assoc, Nat.mul_comm (10 ^ g)]
  have hunit : 0 < 2 ^ (L - 54) := Nat.two_pow_pos _
  have hfloor : below L m g * spacing L g ≤ numerator L m := Nat.div_mul_le_self _ _
  have hceil : numerator L m < (below L m g + 1) * spacing L g :=
    Nat.lt_mul_of_div_lt (Nat.lt_add_one _) (spacing_pos L g)
  -- the point lies on one side of the double, and its test bounds the distance
  rcases onGrid_cases h with ⟨rfl, htest⟩ | ⟨rfl, htest⟩
  · have htest : intervalLow L m < below L m g * spacing L g ∨
        m % 2 = 0 ∧ intervalLow L m = below L m g * spacing L g := by
      simpa [fitsBelow] using htest
    unfold intervalLow at htest
    unfold numerator at hfloor htest
    -- below a power of two the interval is half as long, which is what `narrow` asks
    by_cases hpower : m = 2 ^ 52
    · rw [if_pos hpower] at htest
      constructor <;> rw [hscale] <;> omega
    · rw [if_neg hpower] at htest
      constructor <;> rw [hscale] <;> omega
  · have htest : (below L m g + 1) * spacing L g < intervalHigh L m ∨
        m % 2 = 0 ∧ (below L m g + 1) * spacing L g = intervalHigh L m := by
      simpa [fitsAbove] using htest
    unfold intervalHigh at htest
    unfold numerator at hceil htest
    constructor <;> rw [hscale] <;> omega

/-- The grid of the whole numbers holds the double. -/
theorem onGrid_zero_isSome {bits L m : Nat} (hwhole : IsWhole bits L m) (tie : Tie) :
    ((wholeBinary L m).onGrid tie (0 : Nat)).isSome = true := by
  have hdvd : spacing L 0 ∣ numerator L m := by
    have hfour : 2 ^ (54 - L) ∣ 2 ^ 2 * 2 ^ (52 - L) := by
      rw [← Nat.pow_add]
      exact Nat.pow_dvd_pow 2 (by omega)
    have hpoint : 2 ^ (54 - L) ∣ 4 * m := Nat.dvd_trans hfour (Nat.mul_dvd_mul_left 4 hwhole.whole)
    show 2 ^ (54 - L) * 1 ∣ 4 * (m * 2 ^ (L - 54))
    rw [Nat.mul_one, ← Nat.mul_assoc]
    exact Nat.dvd_mul_right_of_dvd hpoint _
  have hexact : below L m 0 * spacing L 0 = numerator L m := Nat.div_mul_cancel hdvd
  have hbelow : fitsBelow L m (below L m 0 * spacing L 0) = true := by
    have hunit : 0 < 2 ^ (L - 54) := Nat.two_pow_pos _
    have hstep := Nat.mul_le_mul_right (2 ^ (L - 54)) hwhole.le_significand
    have hlow : intervalLow L m < numerator L m := by
      unfold intervalLow numerator
      split <;> omega
    rw [hexact, fitsBelow, decide_eq_true hlow, Bool.true_or]
  -- the point at the double passes its test, so some point is taken
  rw [onGrid_eq, hbelow]
  split
  · next h _ => cases h
  · rfl
  · rfl
  · split
    · rfl
    · rfl
    · rfl
    · rfl

/-- The power of ten that the search starts from: at least one, and no more
than the number of grids where the significand has digits behind the
point. -/
theorem decimalExponent_bounds {bits L m : Nat} (hwhole : IsWhole bits L m) :
    1 ≤ (wholeBinary L m).decimalExponent ∧ (L < 52 → (wholeBinary L m).decimalExponent ≤ 17) := by
  obtain ⟨-, hle, hlt, -⟩ := hwhole
  have hlog : m.log2 = 52 := (Nat.log2_eq_iff (by omega)).mpr ⟨hle, hlt⟩
  have hguess : ((m.log2 : Int) + ((L : Int) - 52)) * 30103 / 100000
      = ((L * 30103 / 100000 : Nat) : Int) := by
    rw [hlog]
    omega
  -- the double is at least one, so it lies below no power of ten before the first
  have hone : ¬ (scaledBy m ((L : Int) - 52) 0).1 < (scaledBy m ((L : Int) - 52) 0).2 := by
    have hnum : 2 ^ 52 * 1 ≤ m * 2 ^ ((L : Int) - 52).toNat :=
      Nat.mul_le_mul hle (Nat.two_pow_pos _)
    have hden : 2 ^ (-((L : Int) - 52)).toNat ≤ 2 ^ 52 :=
      Nat.pow_le_pow_right (by decide) (by omega)
    show ¬ m * 2 ^ ((L : Int) - 52).toNat * 1 < 2 ^ (-((L : Int) - 52)).toNat * 1
    omega
  unfold Binary.decimalExponent
  dsimp only [wholeBinary]
  rw [hguess]
  generalize hk : L * 30103 / 100000 = k
  split
  · next hbelow =>
    have hpos : k ≠ 0 := by
      rintro rfl
      exact hone (of_decide_eq_true hbelow)
    omega
  · split <;> omega

/-- Dropping zeros leaves a whole decimal what it is. -/
theorem stripZeros_whole (D g : Nat) :
    ∃ D' g' : Nat, Decimal.stripZeros ⟨D, g⟩ = ⟨D', g'⟩ ∧ D' * 10 ^ g' = D * 10 ^ g := by
  induction D using Nat.strongRecOn generalizing g with
  | ind D ih =>
    unfold Decimal.stripZeros
    split
    · next hzero =>
      obtain ⟨hne, hmod⟩ : D ≠ 0 ∧ D % 10 = 0 := hzero
      obtain ⟨D', g', heq, hvalue⟩ := ih (D / 10) (by omega) (g + 1)
      refine ⟨D', g', heq, hvalue.trans ?_⟩
      rw [Nat.pow_succ', ← Nat.mul_assoc, Nat.div_mul_cancel (Nat.dvd_of_mod_eq_zero hmod)]
    · exact ⟨D, g, rfl, rfl⟩

/-- A double with no digits behind the point is near itself. -/
theorem near_self {L m : Nat} (h : 52 ≤ L) : Near L m (m * 2 ^ (L - 52)) := by
  have hexact : m * 2 ^ (L - 52) * 2 ^ (54 - L) = 4 * (m * 2 ^ (L - 54)) := by
    rw [Nat.mul_assoc, ← Nat.pow_add, Nat.mul_left_comm, show 4 = 2 ^ 2 from rfl, ← Nat.pow_add]
    congr 2
    omega
  have hunit : 0 < 2 ^ (L - 54) := Nat.two_pow_pos _
  constructor <;> rw [hexact] <;> omega

/-- What the search takes from the grid of some number of digits. -/
def pointOf (L m : Nat) (tie : Tie) (n : Nat) : Option Decimal :=
  let g := (wholeBinary L m).decimalExponent - (n : Int)
  ((wholeBinary L m).onGrid tie g).map fun digits => ⟨digits, g⟩

/-- The search stops at the grid of the whole numbers, if it gets there. -/
theorem pointOf_isSome {bits L m n : Nat} (hwhole : IsWhole bits L m) (tie : Tie)
    (hn : (wholeBinary L m).decimalExponent = n) : (pointOf L m tie n).isSome = true := by
  unfold pointOf
  dsimp only
  rw [hn, Option.isSome_map, Int.sub_self]
  exact onGrid_zero_isSome hwhole tie

/-- What the search takes before it gets past the whole numbers is whole, and
near the double. -/
theorem near_of_pointOf {L m n : Nat} {tie : Tie} {d : Decimal} (hle : 2 ^ 52 ≤ m)
    (hn : (n : Int) ≤ (wholeBinary L m).decimalExponent) (h : pointOf L m tie n = some d) :
    ∃ D g : Nat, d = ⟨D, g⟩ ∧ Near L m (D * 10 ^ g) := by
  obtain ⟨g, hg⟩ : ∃ g : Nat, (wholeBinary L m).decimalExponent - (n : Int) = g :=
    ⟨((wholeBinary L m).decimalExponent - n).toNat, by omega⟩
  unfold pointOf at h
  dsimp only at h
  rw [hg] at h
  obtain ⟨D, hD, rfl⟩ := Option.map_eq_some_iff.mp h
  exact ⟨D, g, rfl, near_of_onGrid hle hD⟩

/-- **The search does not get past the whole numbers**: it stops there, or
before. -/
theorem exists_pointOf_of_found {bits L m : Nat} (hwhole : IsWhole bits L m) {tie : Tie}
    {d : Decimal} (h : (List.range' 1 17).findSome? (pointOf L m tie) = some d) :
    ∃ n : Nat, (n : Int) ≤ (wholeBinary L m).decimalExponent ∧ pointOf L m tie n = some d := by
  have hpos := (decimalExponent_bounds hwhole).1
  obtain ⟨before, n, after, hsplit, hn, hnone⟩ := List.findSome?_eq_some_iff.mp h
  refine ⟨n, Int.not_lt.mp fun hlt => ?_, hn⟩
  have hmem : n ∈ List.range' 1 17 := by
    rw [hsplit]
    exact List.mem_append_right _ List.mem_cons_self
  -- the number of digits of a whole number is among those tried, and before `n`
  obtain ⟨j, hj⟩ : ∃ j : Nat, (wholeBinary L m).decimalExponent = j :=
    ⟨(wholeBinary L m).decimalExponent.toNat, by omega⟩
  have htried : j ∈ before ++ n :: after := by
    rw [← hsplit, List.mem_range'_1]
    rw [List.mem_range'_1] at hmem
    omega
  have hsorted : (before ++ n :: after).Pairwise (· < ·) := hsplit ▸ List.pairwise_lt_range'
  rcases List.mem_append.mp htried with hbefore | hafter
  · have hsome := pointOf_isSome hwhole tie hj
    rw [hnone j hbefore] at hsome
    cases hsome
  · rcases List.mem_cons.mp hafter with rfl | hafter
    · omega
    · have hgt := List.rel_of_pairwise_cons (List.pairwise_append.mp hsorted).2.1 hafter
      omega

/-- Where the search finds nothing, the double has no digits behind the
point. -/
theorem le_of_not_found {bits L m : Nat} (hwhole : IsWhole bits L m) {tie : Tie}
    (h : (List.range' 1 17).findSome? (pointOf L m tie) = none) : 52 ≤ L := by
  obtain ⟨hpos, hsmall⟩ := decimalExponent_bounds hwhole
  refine Nat.le_of_not_lt fun hlt => ?_
  have hbound := hsmall hlt
  obtain ⟨j, hj⟩ : ∃ j : Nat, (wholeBinary L m).decimalExponent = j :=
    ⟨(wholeBinary L m).decimalExponent.toNat, by omega⟩
  have hsome := pointOf_isSome hwhole tie hj
  rw [List.findSome?_eq_none_iff.mp h j (List.mem_range'_1.mpr (by omega))] at hsome
  cases hsome

/-- The equal decimal of a double with no digits behind the point. -/
theorem toDecimal_wholeBinary {L : Nat} (h : 52 ≤ L) (m : Nat) :
    (wholeBinary L m).toDecimal = ⟨m * 2 ^ (L - 52), (0 : Nat)⟩ := by
  have hexp : (wholeBinary L m).exponent ≥ 0 := show (L : Int) - 52 ≥ 0 by omega
  have hpow : ((L : Int) - 52).toNat = L - 52 := by omega
  unfold Binary.toDecimal
  rw [if_pos hexp]
  show (⟨m * Nat.pow 2 ((L : Int) - 52).toNat, 0⟩ : Decimal) = _
  rw [hpow]
  rfl

/-- **The shortest decimal of a whole double is whole**, and near it. -/
theorem shortest_whole {bits L m : Nat} (hwhole : IsWhole bits L m) (tie : Tie) :
    ∃ D g : Nat, (wholeBinary L m).shortest tie = ⟨D, g⟩ ∧ Near L m (D * 10 ^ g) := by
  have hle := hwhole.le_significand
  have hfound : ∃ D g : Nat,
      ((List.range' 1 17).findSome? (pointOf L m tie)).getD (wholeBinary L m).toDecimal = ⟨D, g⟩ ∧
        Near L m (D * 10 ^ g) := by
    cases hfind : (List.range' 1 17).findSome? (pointOf L m tie) with
    | some d =>
      obtain ⟨n, hn, hpoint⟩ := exists_pointOf_of_found hwhole hfind
      exact near_of_pointOf hle hn hpoint
    | none =>
      have hbig := le_of_not_found hwhole hfind
      refine ⟨m * 2 ^ (L - 52), 0, toDecimal_wholeBinary hbig m, ?_⟩
      rw [Nat.pow_zero, Nat.mul_one]
      exact near_self hbig
  obtain ⟨D, g, hfound, hnear⟩ := hfound
  obtain ⟨D', g', hstrip, hvalue⟩ := stripZeros_whole D g
  refine ⟨D', g', ?_, hvalue ▸ hnear⟩
  unfold Binary.shortest
  rw [if_neg (show ¬ (wholeBinary L m).significand = 0 from fun h : m = 0 => by omega)]
  exact (congrArg Decimal.stripZeros hfound).trans hstrip

/-! ## The text -/

theorem isDigit_eq (c : Char) : isDigit c = c.isDigit := by
  show (decide ('0' ≤ c) && decide (c ≤ '9')) = (decide (c.val ≥ 48) && decide (c.val ≤ 57))
  rfl

/-- **A whole decimal is written as its digits**, zeros at the end
included. -/
theorem plain_whole (D g : Nat) :
    (⟨D, g⟩ : Decimal).plain = digitChars D ++ List.replicate g '0' := by
  unfold Decimal.plain
  dsimp only
  rw [if_pos (show ((g : Int) ≥ 0) from Int.natCast_nonneg g), Int.toNat_natCast]

theorem plain_whole_ne_nil (D g : Nat) : (⟨D, g⟩ : Decimal).plain ≠ [] := by
  rw [plain_whole]
  exact List.append_ne_nil_of_left_ne_nil Nat.toDigits_ne_nil _

theorem isDigit_of_mem_plain {D g : Nat} {c : Char} (h : c ∈ (⟨D, g⟩ : Decimal).plain) :
    isDigit c = true := by
  rw [plain_whole] at h
  rcases List.mem_append.mp h with hdigits | hzeros
  · rw [isDigit_eq]
    exact Nat.isDigit_of_mem_toDigits (by decide) (by decide) hdigits
  · rw [List.eq_of_mem_replicate hzeros]
    rfl

/-- The digits of a whole decimal write it. -/
theorem digitsValue_plain (D g : Nat) :
    digitsValue (⟨D, g⟩ : Decimal).plain = D * 10 ^ g := by
  show Nat.ofDigitChars 10 (⟨D, g⟩ : Decimal).plain 0 = _
  rw [plain_whole, Nat.ofDigitChars_append, digitChars, Nat.ofDigitChars_ten_toDigits,
    Nat.ofDigitChars_replicate_zero, Nat.mul_comm]

/-- **The bits that some digits may be read as**: none at all for zero, those
of a whole number, or those of the infinite double. -/
inductive DigitBits : Nat → Prop where
  | zero : DigitBits 0
  | whole {bits L m : Nat} (h : IsWhole bits L m) (hfin : bits < infinityBits) : DigitBits bits
  | infinite : DigitBits infinityBits

theorem DigitBits.le {bits : Nat} (h : DigitBits bits) : bits ≤ infinityBits := by
  cases h with
  | zero => exact Nat.zero_le _
  | whole _ hfin => exact Nat.le_of_lt hfin
  | infinite => exact Nat.le_refl _

/-- A whole number of a moderate size is read to its nearest double. -/
theorem nearest_of_length_le {n : Nat} (hn : n ≠ 0) (hsize : (Nat.toDigits 10 n).length ≤ 310) :
    nearest n 0 = .ofBits (nearestBits n 1).toUInt64 := by
  unfold nearest
  dsimp only
  rw [if_neg hn, if_neg (by omega), if_neg (by omega)]
  show nearestTo (n * 1) 1 = _
  rw [Nat.mul_one, nearestTo]

/-- **Digits are read as zero, as a whole number or as infinite.** -/
theorem nearest_digitBits (n : Nat) :
    ∃ bits, DigitBits bits ∧ nearest n 0 = .ofBits bits.toUInt64 := by
  by_cases hn : n = 0
  · subst hn
    exact ⟨0, .zero, rfl⟩
  by_cases hsize : (Nat.toDigits 10 n).length ≤ 310
  · refine ⟨nearestBits n 1, ?_, nearest_of_length_le hn hsize⟩
    have hle : nearestBits n 1 ≤ infinityBits := by
      rw [nearestBits_eq hn rfl]
      exact Nat.min_le_right _ _
    rcases Nat.lt_or_eq_of_le hle with hfin | hinf
    · obtain ⟨L, m, hwhole⟩ := nearestBits_spec hn hfin
      exact .whole hwhole hfin
    · exact hinf ▸ .infinite
  · refine ⟨infinityBits, .infinite, ?_⟩
    unfold nearest
    dsimp only
    rw [if_neg hn, if_pos (by omega)]
    rfl

/-- **What is near a finite double is read as that double.** -/
theorem nearest_of_near {bits L m n : Nat} (hwhole : IsWhole bits L m) (hfin : bits < infinityBits)
    (hnear : Near L m n) : nearest n 0 = .ofBits bits.toUInt64 := by
  obtain ⟨hbits, hle, hlt, -⟩ := id hwhole
  have hn := hnear.ne_zero hle
  -- the double is below two to the power of 1024, which has 309 digits
  have hpower : L + 1 ≤ 1024 := by
    have hmax : infinityBits = 2047 * 2 ^ 52 := rfl
    omega
  have hbound : n < 10 ^ 310 :=
    calc n ≤ 2 ^ (L + 1) := Nat.le_of_lt (hnear.lt_pow hlt)
      _ ≤ 2 ^ 1024 := Nat.pow_le_pow_right (by decide) hpower
      _ < 10 ^ 310 := by decide +kernel
  have hsize : ∀ k, 0 < k → n < 10 ^ k → (Nat.toDigits 10 n).length ≤ k := fun k hk h =>
    (Nat.length_toDigits_le_iff (by decide) hk).mpr h
  rw [nearest_of_length_le hn (hsize 310 (by decide) hbound),
    nearestBits_of_near hwhole hnear hfin]

/-- The digits of the absolute value of a double, as they are printed. -/
def plainDigits (x : Float) : List Char := ((magnitude x).shortest .up).plain

section Signed

variable {bits : Nat} (h : DigitBits bits) (negative : Bool)
include h

/-- Digits are read as a finite double unless they are read as the infinite
one. -/
theorem isFinite_withSign :
    (withSign negative (.ofBits bits.toUInt64)).isFinite = decide (bits ≠ infinityBits) := by
  have hmax : infinityBits = 2047 * 2 ^ 52 := rfl
  obtain ⟨hexp, hmant, -⟩ := fields_withSign h.le negative
  by_cases hinf : bits = infinityBits
  · rw [decide_eq_false (not_not_intro hinf)]
    exact (infinite_of_fields (by omega) (by omega)).1
  · rw [decide_eq_true hinf]
    have hle := h.le
    exact (finite_of_exponentBits (by omega)).1

/-- **The digits of a finite double are read as its absolute value.** -/
theorem plainDigits_spec (hfin : bits ≠ infinityBits) :
    plainDigits (withSign negative (.ofBits bits.toUInt64)) ≠ [] ∧
      (∀ c ∈ plainDigits (withSign negative (.ofBits bits.toUInt64)), isDigit c = true) ∧
      nearest (digitsValue (plainDigits (withSign negative (.ofBits bits.toUInt64)))) 0
        = .ofBits bits.toUInt64 := by
  obtain ⟨hexp, hmant, -⟩ := fields_withSign h.le negative
  suffices hdecimal : ∃ D g : Nat,
      (magnitude (withSign negative (.ofBits bits.toUInt64))).shortest .up = ⟨D, g⟩ ∧
        nearest (D * 10 ^ g) 0 = .ofBits bits.toUInt64 by
    obtain ⟨D, g, hshort, hread⟩ := hdecimal
    rw [plainDigits, hshort, digitsValue_plain]
    exact ⟨plain_whole_ne_nil D g, fun c hc => isDigit_of_mem_plain hc, hread⟩
  rw [magnitude_eq, hexp, hmant]
  cases h with
  | zero => exact ⟨0, 0, rfl, rfl⟩
  | infinite => exact absurd rfl hfin
  | @whole _ L m hwhole hlt =>
    obtain ⟨D, g, hshort, hnear⟩ := shortest_whole hwhole .up
    refine ⟨D, g, ?_, nearest_of_near hwhole hlt hnear⟩
    obtain ⟨hbits, hle, hlt, -⟩ := hwhole
    have hbinary : (⟨2 ^ 52 + bits % 2 ^ 52, ((bits / 2 ^ 52 : Nat) : Int) - 1075⟩ : Binary)
        = wholeBinary L m := by
      rw [wholeBinary]
      congr 1
      · omega
      · omega
    rw [if_neg (by omega), hbinary, hshort]

/-- **A finite double is printed as its digits**, with a minus if it has the
sign. -/
theorem toList_plainText (hfin : bits ≠ infinityBits) :
    (plainText (withSign negative (.ofBits bits.toUInt64))).toList
      = (if negative then ['-'] else []) ++
        plainDigits (withSign negative (.ofBits bits.toUInt64)) := by
  have hmax : infinityBits = 2047 * 2 ^ 52 := rfl
  have hle := h.le
  obtain ⟨hexp, hmant, hsign⟩ := fields_withSign h.le negative
  obtain ⟨-, hnan, hinf⟩ :=
    finite_of_exponentBits (x := withSign negative (.ofBits bits.toUInt64)) (by omega)
  have hzero : (magnitude (withSign negative (.ofBits bits.toUInt64))).significand = 0 →
      plainDigits (withSign negative (.ofBits bits.toUInt64)) = ['0'] := by
    intro hzero
    rw [plainDigits, Binary.shortest, if_pos hzero]
    rfl
  unfold plainText
  rw [hnan, hinf, hsign, if_neg Bool.false_ne_true, if_neg Bool.false_ne_true]
  -- a negative zero has a rule of its own
  cases negative with
  | false => exact String.toList_ofList
  | true =>
    by_cases hz : (magnitude (withSign true (.ofBits bits.toUInt64))).significand = 0
    · rw [hzero hz]
      simp only [hz, Bool.true_and, beq_self_eq_true, if_true]
      rfl
    · simp only [Bool.true_and, beq_iff_eq, hz, if_false, if_true]
      simp only [String.toList_append, String.toList_ofList]
      rfl

end Signed

/-- The infinite doubles are printed as words. -/
theorem plainText_infinity (negative : Bool) :
    plainText (withSign negative (.ofBits infinityBits.toUInt64))
      = if negative then "-inf" else "inf" := by
  have hmax : infinityBits = 2047 * 2 ^ 52 := rfl
  obtain ⟨hexp, hmant, hsign⟩ := fields_withSign (Nat.le_refl infinityBits) negative
  obtain ⟨-, hnan, hinf⟩ :=
    @infinite_of_fields (withSign negative (.ofBits infinityBits.toUInt64)) (by omega) (by omega)
  unfold plainText
  rw [hnan, hinf, hsign, if_neg Bool.false_ne_true, if_pos rfl]

end CardQuery.Number
