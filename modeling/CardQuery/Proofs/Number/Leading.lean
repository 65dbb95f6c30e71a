import CardQuery.Proofs.Number.Rounding
import CardQuery.Proofs.Number.Bits
import CardQuery.Card.Value

/-!
# How far doubles stay from zero

An operation on doubles rounds, but to round never takes a number below a power of
two that it reaches, as long as there are doubles that small (`reaches_round`). So
how far a product, a quotient or a sum stays from zero is told by how far its
operands do, and a number that reaches any power of two counts as true
(`Reaches.isTruthy`).

A difference needs no such bound. The doubles are multiples of the least one above
zero, and so are their differences: two finite doubles have the difference zero
exactly where they are equal (`isTruthy_sub`).
-/

namespace CardQuery.Number

open Float.Model Float.Model.UnpackedFloat

/-! ## The first digit of a natural number -/

theorem log2_le_log2 {m n : Nat} (h : m ≤ n) : m.log2 ≤ n.log2 := by
  rw [Nat.log2_eq_log_two, Nat.log2_eq_log_two]
  exact Nat.log_mono_right h

theorem log2_mul_two_pow {m : Nat} (hm : m ≠ 0) (j : Nat) : (m * 2 ^ j).log2 = m.log2 + j := by
  obtain ⟨hle, hlt⟩ := (Nat.log2_eq_iff hm).mp rfl
  refine (Nat.log2_eq_iff (Nat.mul_ne_zero hm (Nat.two_pow_pos j).ne')).mpr ⟨?_, ?_⟩
  · rw [Nat.pow_add]
    exact Nat.mul_le_mul_right _ hle
  · rw [Nat.add_right_comm, Nat.pow_add]
    exact Nat.mul_lt_mul_of_pos_right hlt (Nat.two_pow_pos j)

/-- Digits taken off the end leave the first one. -/
theorem log2_div_two_pow {m j : Nat} (hm : m ≠ 0) (hj : j ≤ m.log2) :
    m / 2 ^ j ≠ 0 ∧ (m / 2 ^ j).log2 + j = m.log2 := by
  constructor
  · refine Nat.div_ne_zero_iff.mpr ⟨(Nat.two_pow_pos j).ne', ?_⟩
    exact (Nat.pow_le_pow_right Nat.two_pos hj).trans (Nat.log2_self_le hm)
  · rw [Nat.log2_eq_log_two, Nat.log_div_base_pow, ← Nat.log2_eq_log_two]
    omega

theorem log2_add_le_log2_mul {m n : Nat} (hm : m ≠ 0) (hn : n ≠ 0) :
    m.log2 + n.log2 ≤ (m * n).log2 := by
  rw [Nat.le_log2 (Nat.mul_ne_zero hm hn), Nat.pow_add]
  exact Nat.mul_le_mul (Nat.log2_self_le hm) (Nat.log2_self_le hn)

/-- A quotient has at most one digit less than the lengths tell. -/
theorem log2_le_log2_div {m n : Nat} (hn : n ≠ 0) (h : n.log2 < m.log2) :
    m / n ≠ 0 ∧ m.log2 ≤ (m / n).log2 + n.log2 + 1 := by
  have hm : m ≠ 0 := by
    rintro rfl
    exact Nat.not_lt_zero _ (Nat.log2_zero ▸ h)
  have hdiv : 2 ^ (m.log2 - n.log2 - 1) ≤ m / n := by
    rw [Nat.le_div_iff_mul_le (Nat.pos_of_ne_zero hn)]
    calc 2 ^ (m.log2 - n.log2 - 1) * n
        ≤ 2 ^ (m.log2 - n.log2 - 1) * 2 ^ (n.log2 + 1) :=
          Nat.mul_le_mul_left _ ((Nat.log2_lt hn).mp (Nat.lt_succ_self _)).le
      _ = 2 ^ m.log2 := by
          rw [← Nat.pow_add]
          congr 1
          omega
      _ ≤ m := Nat.log2_self_le hm
  have hne : m / n ≠ 0 := ((Nat.two_pow_pos _).trans_le hdiv).ne'
  have hlog := (Nat.le_log2 hne).mpr hdiv
  exact ⟨hne, by omega⟩

/-! ## Doubles taken apart -/

/-- A double taken apart. -/
def unpacked (x : Float) : UnpackedFloat := UnpackedFloat.unpack Format.binary64 x.toBits.toBitVec

/-- **Whether a number is as far from zero as a power of two**, on the side of a
sign. -/
def Reaches (s : Sign) (k : Int) : UnpackedFloat → Prop
  | .infinity s' => s' = s
  | .finite s' m e _ => s' = s ∧ k ≤ (m.log2 : Int) + e
  | _ => False

theorem Reaches.mono {s : Sign} {j k : Int} {u : UnpackedFloat} (h : Reaches s k u)
    (hjk : j ≤ k) : Reaches s j u := by
  cases u with
  | finite s' m e hm => exact ⟨h.1, hjk.trans h.2⟩
  | _ => exact h

/-- **A significand and an exponent as doubles have them**: 53 digits, or fewer at the
least exponent. -/
structure IsDouble (m : Nat) (e : Int) : Prop where
  log2_le : m.log2 ≤ 52
  le_exponent : -1074 ≤ e
  full : m.log2 = 52 ∨ e = -1074

/-- Whether a number is written as doubles are. -/
def Canonical : UnpackedFloat → Prop
  | .finite _ m e _ => IsDouble m e
  | _ => True

/-- Doubles are written as doubles are. -/
theorem canonical_unpacked (x : Float) : Canonical (unpacked x) := by
  rw [unpacked, unpack_eq]
  generalize x.toBits.toBitVec = b
  split
  · split <;> trivial
  split
  · next hzero =>
    split
    · trivial
    · next hnone =>
      have hpos : (mantissaOf b).toNat ≠ 0 := fun h => hnone (BitVec.toNat_inj.mp h)
      have hlog := (Nat.log2_lt hpos).mpr (mantissaOf b).isLt
      rw [Canonical, hzero]
      exact ⟨Nat.le_of_lt_succ (hlog.trans_le (by decide)), by decide, .inr rfl⟩
  · next hzero =>
    have hpos : (exponentOf b).toNat ≠ 0 := fun h => hzero (BitVec.toNat_inj.mp h)
    exact ⟨(log2_leading _).le, by omega, .inl (log2_leading _)⟩

/-- The fields of a double, taken apart again. -/
theorem unpack_ofFields (s : Sign) (e : BitVec 11) (m : BitVec 52) :
    UnpackedFloat.unpack Format.binary64 (ofFields s e m)
      = if e = -1#11 then if m = 0#52 then .infinity s else .notANumber
        else if e = 0#11 then
          if h : m = 0#52 then .zero s
          else .finite s m.toNat (e.toNat - ((1023 : Nat) + (52 : Nat)) + 1) (mantissa_pos h)
        else .finite s (1#1 ++ m).toNat (e.toNat - ((1023 : Nat) + (52 : Nat)))
          (leading_pos _) := by
  have hsign : signOf (ofFields s e m) = s := by
    rw [signOf, ofFields, unpackSign_packComponents]
    cases s <;> rfl
  have hexp : exponentOf (ofFields s e m) = e := unpackExponent_packComponents
  have hmant : mantissaOf (ofFields s e m) = m := unpackMantissa_packComponents
  rw [unpack_eq]
  simp only [hsign, hexp, hmant]

/-- What a double is taken apart into that is packed from a number. -/
def repacked (u : UnpackedFloat) : UnpackedFloat :=
  UnpackedFloat.unpack Format.binary64 (UnpackedFloat.pack Format.binary64 u)

theorem repacked_zero (s : Sign) : repacked (.zero s) = .zero s := unpack_packedZero

/-- A number too large for a double is packed as an infinite one. -/
theorem pack_large (s : Sign) {m : Nat} (h : 0 < m) (e : Nat) (he : 2047 ≤ e) :
    UnpackedFloat.pack Format.binary64 (.finite s m ((e : Int) - 1075) h)
      = ofFields s (-1#11) 0#52 := by
  have hbiased : ((e : Int) - 1075 + Format.binary64.exponentBias
      + Format.binary64.mantissaBitsWithoutImplicit).toNat = e := by
    show ((e : Int) - 1075 + (1023 : Nat) + (52 : Nat)).toNat = e
    omega
  have hfull : 2 ^ Format.binary64.exponentBits ≤ e + 1 := by
    show 2 ^ 11 ≤ e + 1
    omega
  rw [UnpackedFloat.pack]
  simp only [hbiased]
  rw [if_pos hfull]
  rfl

/-- **Unpacking undoes packing**, except that a number too large becomes
infinite. -/
theorem repacked_eq {u : UnpackedFloat} (h : Canonical u) :
    repacked u = u ∨ ∃ s m e hm, u = .finite s m e hm ∧ repacked u = .infinity s := by
  cases u with
  | notANumber => exact .inl rfl
  | infinity s => exact .inl (by cases s <;> rfl)
  | zero s => exact .inl (repacked_zero s)
  | finite s m e hm =>
    obtain ⟨hle, hleast, hfull⟩ := h
    obtain ⟨b, rfl⟩ : ∃ b : Nat, e = (b : Int) - 1075 := ⟨(e + 1075).toNat, by omega⟩
    have hlt : m < 2 ^ 53 := (Nat.log2_lt hm.ne').mp (Nat.lt_succ_of_le hle)
    by_cases hlarge : 2047 ≤ b
    · refine .inr ⟨s, m, _, hm, rfl, ?_⟩
      rw [repacked, pack_large s hm b hlarge, unpack_ofFields, if_pos rfl, if_pos rfl]
    refine .inl ?_
    by_cases hlead : m.log2 = 52
    · have hmant : (1#1 ++ BitVec.ofNat 52 m).toNat = m := by
        have hge : 2 ^ 52 ≤ m := hlead ▸ Nat.log2_self_le hm.ne'
        rw [toNat_leading, BitVec.toNat_ofNat]
        omega
      have hexp : (BitVec.ofNat 11 b).toNat = b := Nat.mod_eq_of_lt (by omega)
      have hall : BitVec.ofNat 11 b ≠ -1#11 := fun h => hlarge (by rw [← hexp, h]; decide)
      have hzero : BitVec.ofNat 11 b ≠ 0#11 := fun h => by
        have hpos : b = 0 := by rw [← hexp, h]; rfl
        omega
      rw [repacked, pack_normal s hm hlead b (by omega), unpack_ofFields, if_neg hall,
        if_neg hzero]
      simp only [hmant, hexp]
      rfl
    · obtain rfl : b = 1 := by omega
      have hsmall : m.log2 < 52 := by omega
      have hmant : (BitVec.ofNat 52 m).toNat = m :=
        Nat.mod_eq_of_lt ((Nat.log2_lt hm.ne').mp hsmall)
      have hne : BitVec.ofNat 52 m ≠ 0#52 := fun h => hm.ne' (by rw [← hmant, h]; rfl)
      have hpack := pack_subnormal s hm hsmall
      rw [repacked, show ((1 : Nat) : Int) - 1075 = -1074 from rfl, hpack, unpack_ofFields,
        if_neg (by decide), if_pos rfl, dif_neg hne]
      simp only [hmant]
      rfl

/-- A double reaches the powers that the number does which it is packed from. -/
theorem Reaches.repacked {s : Sign} {k : Int} {u : UnpackedFloat} (hu : Canonical u)
    (h : Reaches s k u) : Reaches s k (repacked u) := by
  rcases repacked_eq hu with hsame | ⟨s', m, e, hm, rfl, hinfinite⟩
  · rwa [hsame]
  · rw [hinfinite]
    exact h.1

/-! ## Rounding -/

theorem mantissa_shiftRight (em : ExtendedMantissa) (j : Nat) :
    (em >>> j).mantissa = em.mantissa / 2 ^ j := by
  induction j generalizing em with
  | zero => exact (Nat.div_one _).symm
  | succ j ih =>
    show (em >>> j).mantissa / 2 = em.mantissa / 2 ^ (j + 1)
    rw [ih, Nat.div_div_eq_div_mul, ← Nat.pow_succ]

theorem mantissa_ofMantissaAndAccuracy (m : Nat) (a : Accuracy) :
    (ExtendedMantissa.ofMantissaAndAccuracy m a).mantissa = m := by
  match a with
  | .exact | .inexact .lt | .inexact .eq | .inexact .gt => rfl

/-- A mantissa is rounded to nothing smaller. -/
theorem le_roundedMantissa (em : ExtendedMantissa) : em.mantissa ≤ em.roundedMantissa := by
  match em with
  | ⟨m, false, false⟩ | ⟨m, false, true⟩ => exact Nat.le_refl m
  | ⟨m, true, false⟩ | ⟨m, true, true⟩ => exact Nat.le_add_right m _

theorem targetExponent_eq (m : Nat) (e : Int) :
    Format.binary64.targetExponent (totalExponent m e) = max ((m.log2 : Int) + e - 52) (-1074) := by
  show max ((m.log2 : Int) + 1 + e - (53 : Nat)) (-1074) = _
  omega

/-- **A shift to as many digits as a double has** leaves the first digit where it
is, for a number that has more digits than a double or lies between the least ones,
and not below the least double. -/
theorem shift_spec {m : Nat} {e : Int} (hm : m ≠ 0) (hfine : 52 ≤ m.log2 ∨ e ≤ -1074)
    (hleast : -1074 ≤ (m.log2 : Int) + e) (a : Accuracy) :
    ∃ em e', shiftToTargetExponent Format.binary64 m e a = (em, e') ∧ em.mantissa ≠ 0 ∧
      (em.mantissa.log2 : Int) + e' = m.log2 + e ∧ IsDouble em.mantissa e' := by
  have htarget := targetExponent_eq m e
  generalize hj : (Format.binary64.targetExponent (totalExponent m e) - e).toNat = j
  obtain ⟨hne, hlog⟩ := log2_div_two_pow hm (j := j) (by omega)
  refine ⟨_, e + j, by rw [shiftToTargetExponent, shiftToExponent, hj], ?_⟩
  rw [mantissa_shiftRight, mantissa_ofMantissaAndAccuracy]
  exact ⟨hne, by omega, by omega, by omega, by omega⟩

/-- **Rounding takes no number below a power of two that it reaches.** -/
theorem reaches_roundWithAccuracy {s : Sign} {m : Nat} {e k : Int} (hm : m ≠ 0)
    (hfine : 52 ≤ m.log2 ∨ e ≤ -1074) (hleast : -1074 ≤ k) (hk : k ≤ (m.log2 : Int) + e)
    (a : Accuracy) :
    Canonical (roundWithAccuracy Format.binary64 s m e a) ∧
      Reaches s k (roundWithAccuracy Format.binary64 s m e a) := by
  obtain ⟨em, e', hshift, hne, hlog, -, hle, hfull⟩ := shift_spec hm hfine (hleast.trans hk) a
  -- to round up may take one more shift
  have hround := log2_le_log2 (le_roundedMantissa em)
  have hne' : em.roundedMantissa ≠ 0 :=
    ((Nat.pos_of_ne_zero hne).trans_le (le_roundedMantissa em)).ne'
  have hfine' : 52 ≤ em.roundedMantissa.log2 ∨ e' ≤ -1074 := by omega
  obtain ⟨em', e'', hshift', hne'', hlog', hcanonical⟩ := shift_spec hne' hfine' (by omega) .exact
  have hresult : roundWithAccuracy Format.binary64 s m e a
      = .finite s em'.mantissa e'' (Nat.pos_of_ne_zero hne'') := by
    simp only [roundWithAccuracy, hshift, hshift']
    exact dif_neg hne''
  rw [hresult]
  exact ⟨hcanonical, rfl, by omega⟩

/-- A number that is rounded may have any number of digits. -/
theorem reaches_round {s : Sign} {m : Nat} {e k : Int} (hm : m ≠ 0) (hleast : -1074 ≤ k)
    (hk : k ≤ (m.log2 : Int) + e) :
    Canonical (UnpackedFloat.round Format.binary64 s m e) ∧
      Reaches s k (UnpackedFloat.round Format.binary64 s m e) := by
  have htarget := targetExponent_eq m e
  generalize hj : (e - Format.binary64.targetExponent (totalExponent m e)).toNat = j
  have hlog := log2_mul_two_pow hm j
  have hne : m * 2 ^ j ≠ 0 := Nat.mul_ne_zero hm (Nat.two_pow_pos j).ne'
  rw [UnpackedFloat.round]
  dsimp only
  rw [decreaseExponent, hj, Nat.shiftLeft_eq]
  exact reaches_roundWithAccuracy hne (by omega) hleast (by omega) .exact

/-- **An integer multiple of a power of two** keeps its sign and the powers it
reaches. -/
theorem reaches_normalize {n e k : Int} (hn : n ≠ 0) (hleast : -1074 ≤ k)
    (hk : k ≤ (n.natAbs.log2 : Int) + e) (s : Sign) :
    Canonical (UnpackedFloat.normalize Format.binary64 n e s) ∧
      Reaches (if n < 0 then .negative else .positive) k
        (UnpackedFloat.normalize Format.binary64 n e s) := by
  have hne : n.natAbs ≠ 0 := Int.natAbs_ne_zero.mpr hn
  rcases lt_or_gt_of_ne hn with hneg | hpos
  · rw [UnpackedFloat.normalize, Int.compare_eq_lt.mpr hneg, if_pos hneg]
    have habs : (-n).toNat = n.natAbs := by omega
    exact habs ▸ reaches_round hne hleast hk
  · rw [UnpackedFloat.normalize, Int.compare_eq_gt.mpr hpos, if_neg hpos.not_gt]
    have habs : n.toNat = n.natAbs := by omega
    exact habs ▸ reaches_round hne hleast hk

/-! ## Operations -/

section Operations

theorem unpacked_mul (x y : Float) :
    unpacked (x * y) = repacked (UnpackedFloat.mul Format.binary64 (unpacked x) (unpacked y)) := rfl

theorem unpacked_div (x y : Float) :
    unpacked (x / y) = repacked (UnpackedFloat.div Format.binary64 (unpacked x) (unpacked y)) := rfl

theorem unpacked_add (x y : Float) :
    unpacked (x + y) = repacked (UnpackedFloat.add Format.binary64 (unpacked x) (unpacked y)) := rfl

theorem unpacked_sub (x y : Float) :
    unpacked (x - y) = repacked (UnpackedFloat.sub Format.binary64 (unpacked x) (unpacked y)) := rfl

theorem unpacked_neg (x : Float) : unpacked (-x) = repacked (unpacked x).neg := rfl

theorem beq_eq (x y : Float) : (x == y) = (unpacked x).beq (unpacked y) := rfl

variable {x y : Float} {s t : Sign} {j k : Int}

/-- A number that reaches a power of two is infinite or has a first digit. -/
theorem Reaches.shape (h : Reaches s k (unpacked x)) :
    unpacked x = .infinity s ∨ ∃ m e hm, unpacked x = .finite s m e hm ∧
      k ≤ (m.log2 : Int) + e ∧ IsDouble m e := by
  have hcanonical := canonical_unpacked x
  generalize unpacked x = u at h hcanonical
  cases u with
  | notANumber | zero => exact h.elim
  | infinity s' =>
    obtain rfl := h
    exact .inl rfl
  | finite s' m e hm =>
    obtain ⟨rfl, hk⟩ := h
    exact .inr ⟨m, e, hm, rfl, hk, hcanonical⟩

/-- **A product reaches the product of the powers that its factors reach.** -/
theorem reaches_mul (hx : Reaches s j (unpacked x)) (hy : Reaches t k (unpacked y))
    (hleast : -1074 ≤ j + k) : Reaches (s * t) (j + k) (unpacked (x * y)) := by
  rw [unpacked_mul]
  rcases hx.shape with hu | ⟨m, e, hm, hu, hj, -, hleast', hfull⟩
  · rcases hy.shape with hv | ⟨n, f, hn, hv, -⟩
    · rw [hu, hv]
      exact Reaches.repacked trivial rfl
    · rw [hu, hv]
      exact Reaches.repacked trivial rfl
  · rcases hy.shape with hv | ⟨n, f, hn, hv, hk, -, -, hfull'⟩
    · rw [hu, hv]
      exact Reaches.repacked trivial rfl
    · have hlog := log2_add_le_log2_mul hm.ne' hn.ne'
      have hfine : 52 ≤ (m * n).log2 ∨ e + f ≤ -1074 := by omega
      obtain ⟨hcanonical, hreaches⟩ :=
        reaches_roundWithAccuracy (Nat.mul_pos hm hn).ne' hfine hleast (by omega) .exact
      rw [hu, hv]
      exact hreaches.repacked hcanonical

/-- **A quotient** reaches at least half the quotient of the power that its dividend
reaches and the one that its divisor has. -/
theorem reaches_div {n : Nat} {f : Int} {hn : 0 < n} (hx : Reaches s j (unpacked x))
    (hy : unpacked y = .finite t n f hn) (hleast : -1074 ≤ j - (n.log2 + f) - 1) :
    Reaches (s / t) (j - (n.log2 + f) - 1) (unpacked (x / y)) := by
  rw [unpacked_div]
  rcases hx.shape with hu | ⟨m, e, hm, hu, hj, -⟩
  · rw [hu, hy]
    exact Reaches.repacked trivial rfl
  · have htarget : Format.binary64.targetExponent (totalExponent m e - totalExponent n f)
        = max ((m.log2 : Int) + e - (n.log2 + f) - 53) (-1074) := by
      show max ((m.log2 : Int) + 1 + e - ((n.log2 : Int) + 1 + f) - (53 : Nat)) (-1074) = _
      omega
    generalize htotal : min (e - f)
      (Format.binary64.targetExponent (totalExponent m e - totalExponent n f)) = e'
    generalize hshift : (e - f - e').toNat = i
    have hlog := log2_mul_two_pow hm.ne' i
    obtain ⟨hne, hquotient⟩ := log2_le_log2_div (m := m * 2 ^ i) hn.ne' (by omega)
    have hfine : 52 ≤ (m * 2 ^ i / n).log2 ∨ e' ≤ -1074 := by omega
    obtain ⟨hcanonical, hreaches⟩ := reaches_roundWithAccuracy hne hfine hleast (by omega)
      (accuracyOfFraction (m * 2 ^ i % n) n)
    rw [hu, hy, UnpackedFloat.div, divCore, htotal, hshift, Nat.shiftLeft_eq]
    exact hreaches.repacked hcanonical

/-- **A sum of positive numbers reaches what one of them does.** The other one may be
zero. -/
theorem reaches_add (hx : unpacked x = .zero .positive ∨ Reaches .positive j (unpacked x))
    (hy : Reaches .positive k (unpacked y)) (hleast : -1074 ≤ k) :
    Reaches .positive k (unpacked (x + y)) := by
  rw [unpacked_add]
  rcases hx with hu | hx
  · rw [hu]
    rcases hy.shape with hv | ⟨n, f, hn, hv, -⟩
    · rw [hv]
      exact Reaches.repacked trivial rfl
    · have hcanonical := canonical_unpacked y
      rw [hv] at hcanonical hy ⊢
      exact Reaches.repacked hcanonical hy
  rcases hx.shape with hu | ⟨m, e, hm, hu, -⟩
  · rcases hy.shape with hv | ⟨n, f, hn, hv, -⟩
    · rw [hu, hv]
      exact Reaches.repacked trivial rfl
    · rw [hu, hv]
      exact Reaches.repacked trivial rfl
  · rcases hy.shape with hv | ⟨n, f, hn, hv, hk, -⟩
    · rw [hu, hv]
      exact Reaches.repacked trivial rfl
    · generalize hi : (e - min e f).toNat = i
      generalize hi' : (f - min e f).toNat = i'
      have hlog := log2_mul_two_pow hn.ne' i'
      have hle := log2_le_log2 (Nat.le_add_left (n * 2 ^ i') (m * 2 ^ i))
      have hpos : 0 < (m * 2 ^ i : Nat) + (n * 2 ^ i' : Nat) :=
        Nat.add_pos_left (Nat.mul_pos hm (Nat.two_pow_pos i)) _
      obtain ⟨hcanonical, hreaches⟩ := reaches_normalize (e := min e f)
        (Int.natCast_ne_zero.mpr hpos.ne') hleast (by rw [Int.natAbs_natCast]; omega) .positive
      rw [hu, hv, UnpackedFloat.add]
      simp only [decreaseExponent, hi, hi', Nat.shiftLeft_eq]
      exact hreaches.repacked hcanonical

end Operations

/-! ## Whole numbers -/

/-- A double that is not negative reaches the power of two in its exponent, and all
powers if it is infinite. -/
theorem reaches_ofBits {n k : Nat} (hle : n ≤ infinityBits)
    (hk : (k + 1023) * 2 ^ 52 ≤ n ∨ n = infinityBits) :
    Reaches .positive k (unpacked (.ofBits n.toUInt64)) := by
  have hmax : infinityBits = 2047 * 2 ^ 52 := rfl
  have hbits : (Float.ofBits n.toUInt64).toBits.toBitVec.toNat = n := toNat_toBits_ofBits hle
  rw [unpacked, unpack_eq]
  generalize (Float.ofBits n.toUInt64).toBits.toBitVec = b at hbits
  have hsign : signOf b = .positive := signOf_of_lt (by omega)
  have hexp := toNat_exponentOf b
  have hmant := toNat_mantissaOf b
  rw [hbits] at hexp hmant
  by_cases hall : exponentOf b = -1#11
  · have hfull : (exponentOf b).toNat = 2047 := congrArg BitVec.toNat hall
    have hnone : mantissaOf b = 0#52 :=
      BitVec.toNat_inj.mp (hmant.trans (show n % 2 ^ 52 = 0 by omega))
    rw [if_pos hall, if_pos hnone]
    exact hsign
  · have hfinite : (exponentOf b).toNat ≠ 2047 := fun h => hall (BitVec.toNat_inj.mp h)
    have hzero : exponentOf b ≠ 0#11 := fun h => by
      have hleast : (exponentOf b).toNat = 0 := congrArg BitVec.toNat h
      omega
    rw [if_neg hall, if_neg hzero]
    refine ⟨hsign, ?_⟩
    rw [log2_leading]
    omega

/-- **A whole number reaches the greatest power of two up to it** as a double as
well. -/
theorem reaches_ofNat {n : Nat} (hn : n ≠ 0) : Reaches .positive n.log2 (unpacked (ofNat n)) := by
  have hlow : 2 ^ 52 * 2 ^ (n.log2 - 52) ≤ n * 2 ^ (52 - n.log2) :=
    calc 2 ^ 52 * 2 ^ (n.log2 - 52)
        = 2 ^ n.log2 * 2 ^ (52 - n.log2) := by
          rw [← Nat.pow_add, ← Nat.pow_add]
          congr 1
          omega
      _ ≤ n * 2 ^ (52 - n.log2) := Nat.mul_le_mul_right _ (Nat.log2_self_le hn)
  obtain ⟨hround, -⟩ := roundHalfEven_bounds (Nat.two_pow_pos _) hlow
    (Nat.le_mul_of_pos_right _ (Nat.two_pow_pos _))
  have hbits := nearestBits_eq hn rfl
  exact reaches_ofBits (hbits ▸ Nat.min_le_right _ _) (by omega)

theorem unpacked_ofNat_zero : unpacked (ofNat 0) = .zero .positive := rfl

/-- What a finite double is taken apart into is its magnitude. -/
theorem magnitude_of_unpacked {x : Float} {s : Sign} {m : Nat} {e : Int} {hm : 0 < m}
    (h : unpacked x = .finite s m e hm) : magnitude x = ⟨m, e⟩ := by
  rw [unpacked, unpack_eq] at h
  have hexp := toNat_exponentOf x.toBits.toBitVec
  have hmant := toNat_mantissaOf x.toBits.toBitVec
  rw [magnitude_eq]
  split at h
  · split at h <;> cases h
  split at h
  · next hzero =>
    split at h
    · cases h
    · obtain ⟨-, rfl, rfl⟩ := UnpackedFloat.finite.inj h
      rw [if_pos ((exponentOf_toBits x 0 (by decide)).mp hzero), hmant, hzero]
      rfl
  · next hzero =>
    obtain ⟨-, rfl, rfl⟩ := UnpackedFloat.finite.inj h
    rw [if_neg fun h => hzero ((exponentOf_toBits x 0 (by decide)).mpr h), toNat_leading, hmant,
      hexp]
    rfl

theorem reaches_neg {x : Float} {s : Sign} {k : Int} (hx : Reaches s k (unpacked x)) :
    Reaches (-s) k (unpacked (-x)) := by
  rw [unpacked_neg]
  have hcanonical := canonical_unpacked x
  rcases hx.shape with hu | ⟨m, e, hm, hu, hk, -⟩
  · rw [hu]
    exact Reaches.repacked trivial rfl
  · rw [hu] at hcanonical ⊢
    exact Reaches.repacked hcanonical ⟨rfl, hk⟩

theorem reaches_withSign {x : Float} {s : Sign} {k : Int} (hx : Reaches s k (unpacked x))
    (negative : Bool) : ∃ t, Reaches t k (unpacked (withSign negative x)) := by
  cases negative with
  | false => exact ⟨s, hx⟩
  | true => exact ⟨-s, reaches_neg hx⟩

theorem roundHalfAway_eq {x : Float} {s : Sign} {m : Nat} {e : Int} {hm : 0 < m}
    (h : unpacked x = .finite s m e hm) :
    roundHalfAway x = if e ≥ 0 then x else
      withSign (isNegative x) (ofNat ((2 * m + 2 ^ (-e).toNat) / (2 * 2 ^ (-e).toNat))) := by
  have hfinite : x.isFinite = true := congrArg UnpackedFloat.isFinite h
  rw [roundHalfAway, hfinite, magnitude_of_unpacked h]
  rfl

/-- **Rounded to a whole number, a number that is at least a half does not
vanish.** -/
theorem reaches_roundHalfAway {x : Float} {s : Sign} (hx : Reaches s (-1) (unpacked x)) :
    ∃ t, Reaches t 0 (unpacked (roundHalfAway x)) := by
  rcases hx.shape with hu | ⟨m, e, hm, hu, hk, -⟩
  · have hfinite : x.isFinite = false := congrArg UnpackedFloat.isFinite hu
    have hstay : roundHalfAway x = x := by
      rw [roundHalfAway, hfinite]
      rfl
    rw [hstay, hu]
    exact ⟨s, rfl⟩
  rw [roundHalfAway_eq hu]
  by_cases he : e ≥ 0
  · rw [if_pos he, hu]
    exact ⟨s, rfl, by omega⟩
  · rw [if_neg he]
    generalize hi : (-e).toNat = i
    have hle : 2 ^ i ≤ 2 * m :=
      calc 2 ^ i ≤ 2 ^ (m.log2 + 1) := Nat.pow_le_pow_right Nat.two_pos (by omega)
        _ = 2 * 2 ^ m.log2 := Nat.pow_succ'
        _ ≤ 2 * m := Nat.mul_le_mul_left 2 (Nat.log2_self_le hm.ne')
    have hne : (2 * m + 2 ^ i) / (2 * 2 ^ i) ≠ 0 :=
      Nat.div_ne_zero_iff.mpr ⟨Nat.mul_ne_zero two_ne_zero (Nat.two_pow_pos i).ne', by omega⟩
    exact reaches_withSign ((reaches_ofNat hne).mono (Int.natCast_nonneg _)) (isNegative x)

/-! ## Truth -/

theorem beq_zero_eq (x : Float) :
    (x == 0) = match unpacked x with
      | .zero _ => true
      | _ => false := by
  have hzero : unpacked 0 = .zero .positive := rfl
  rw [beq_eq, hzero]
  cases unpacked x with
  | finite s m e hm => cases s <;> rfl
  | infinity s => cases s <;> rfl
  | _ => rfl

/-- **A number counts as true** unless it is zero. -/
theorem isTruthy_eq (x : Float) :
    isTruthy x = match unpacked x with
      | .zero _ | .notANumber => false
      | _ => true := by
  show (!(x == 0) && !(unpacked x).isNaN) = _
  rw [beq_zero_eq]
  cases unpacked x <;> rfl

theorem Reaches.isTruthy {x : Float} {s : Sign} {k : Int} (h : Reaches s k (unpacked x)) :
    isTruthy x = true := by
  rw [isTruthy_eq]
  rcases h.shape with hu | ⟨m, e, hm, hu, -⟩ <;> rw [hu]

theorem Reaches.beq_zero {x : Float} {s : Sign} {k : Int} (h : Reaches s k (unpacked x)) :
    (x == 0) = false := by
  rw [beq_zero_eq]
  rcases h.shape with hu | ⟨m, e, hm, hu, -⟩ <;> rw [hu]

theorem isTruthy_withSign {x : Float} {s : Sign} {k : Int} (hx : Reaches s k (unpacked x))
    (negative : Bool) : isTruthy (withSign negative x) = true := by
  obtain ⟨t, ht⟩ := reaches_withSign hx negative
  exact ht.isTruthy

theorem isTruthy_withSign_ofNat (negative : Bool) (n : Nat) :
    isTruthy (withSign negative (ofNat n)) = !decide (n = 0) := by
  by_cases hn : n = 0
  · rw [hn]
    cases negative <;> rfl
  · rw [isTruthy_withSign (reaches_ofNat hn), decide_eq_false hn]
    rfl

/-! ## Differences -/

/-- There is one way to write a number as doubles are written. -/
theorem mul_two_pow_eq_iff {m n : Nat} {e f : Int} (hm : m ≠ 0) (hn : n ≠ 0) (he : IsDouble m e)
    (hf : IsDouble n f) :
    m * 2 ^ (e - min e f).toNat = n * 2 ^ (f - min e f).toNat ↔ m = n ∧ e = f := by
  obtain ⟨he, hleast, hfull⟩ := he
  obtain ⟨hf, hleast', hfull'⟩ := hf
  constructor
  · intro h
    have hlog := log2_mul_two_pow hm (e - min e f).toNat
    rw [h, log2_mul_two_pow hn] at hlog
    obtain rfl : e = f := by omega
    exact ⟨Nat.eq_of_mul_eq_mul_right (Nat.two_pow_pos _) h, rfl⟩
  · rintro ⟨rfl, rfl⟩
    rfl

/-- Two numbers with signs, none of them zero, differ by zero if they are one. -/
theorem apply_sub_apply_eq_zero_iff {s t : Sign} {a b : Nat} (ha : 0 < a) (hb : 0 < b) :
    s.apply a - t.apply b = 0 ↔ s = t ∧ a = b := by
  cases s <;> cases t <;> simp [Sign.apply] <;> omega

/-- A rounded multiple of a double counts as true unless it is zero. -/
theorem isTruthy_of_normalize {x : Float} {d e : Int} (he : -1074 ≤ e)
    (h : unpacked x = repacked (UnpackedFloat.normalize Format.binary64 d e .positive)) :
    isTruthy x = !decide (d = 0) := by
  by_cases hd : d = 0
  · have hzero : UnpackedFloat.normalize Format.binary64 0 e .positive = .zero .positive := rfl
    rw [hd, hzero, repacked_zero] at h
    rw [isTruthy_eq, h, hd]
    rfl
  · have hleast : -1074 ≤ (d.natAbs.log2 : Int) + e := by omega
    obtain ⟨hcanonical, hreaches⟩ := reaches_normalize hd (le_refl _) hleast .positive
    have hx := hreaches.repacked hcanonical
    rw [← h] at hx
    rw [hx.isTruthy, decide_eq_false hd]
    rfl

section Finite

variable {x y : Float} {s t : Sign} {m n : Nat} {e f : Int} {hm : 0 < m} {hn : 0 < n}

theorem isDouble_of_unpacked (h : unpacked x = .finite s m e hm) : IsDouble m e := by
  have hcanonical := canonical_unpacked x
  rwa [h] at hcanonical

/-- Two doubles other than zero are integers in units of the smaller of their powers
of two, and so is their difference. -/
theorem isTruthy_sub_finite (hx : unpacked x = .finite s m e hm)
    (hy : unpacked y = .finite t n f hn) : isTruthy (x - y) = !(x == y) := by
  have he := isDouble_of_unpacked hx
  have hf := isDouble_of_unpacked hy
  have hsame := mul_two_pow_eq_iff hm.ne' hn.ne' he hf
  have hdiff := @apply_sub_apply_eq_zero_iff s t _ _
    (Nat.mul_pos hm (Nat.two_pow_pos (e - min e f).toNat))
    (Nat.mul_pos hn (Nat.two_pow_pos (f - min e f).toNat))
  have hbeq : (x == y) = true ↔ s = t ∧ m = n ∧ e = f := by
    rw [beq_eq, hx, hy]
    simp [beq_iff_ne_notANumber_and_eq]
  have hsub := unpacked_sub x y
  rw [hx, hy, UnpackedFloat.sub] at hsub
  simp only [decreaseExponent, Nat.shiftLeft_eq] at hsub
  rw [isTruthy_of_normalize (le_min he.le_exponent hf.le_exponent) hsub, Bool.not_inj_iff,
    Bool.eq_iff_iff, decide_eq_true_iff, hdiff, hsame, hbeq]

/-- A finite double is zero or has a first digit. -/
theorem shape_of_isFinite (h : x.isFinite = true) :
    (∃ s, unpacked x = .zero s) ∨ ∃ s m e hm, unpacked x = .finite s m e hm := by
  change (unpacked x).isFinite = true at h
  generalize unpacked x = u at h
  cases u with
  | notANumber | infinity => cases h
  | zero s => exact .inl ⟨s, rfl⟩
  | finite s m e hm => exact .inr ⟨s, m, e, hm, rfl⟩

end Finite

/-- **The difference of two finite doubles counts as true exactly where they are not
equal.** -/
theorem isTruthy_sub {x y : Float} (hx : x.isFinite = true) (hy : y.isFinite = true) :
    isTruthy (x - y) = !(x == y) := by
  rcases shape_of_isFinite hx with ⟨s, hu⟩ | ⟨s, m, e, hm, hu⟩
  · rcases shape_of_isFinite hy with ⟨t, hv⟩ | ⟨t, n, f, hn, hv⟩
    · rw [isTruthy_eq, unpacked_sub, beq_eq, hu, hv]
      cases s <;> cases t <;> rfl
    · have hreaches : Reaches (-t) (n.log2 + f) (unpacked (x - y)) := by
        rw [unpacked_sub, hu, hv]
        exact Reaches.repacked (isDouble_of_unpacked hv) ⟨rfl, le_refl _⟩
      rw [hreaches.isTruthy, beq_eq, hu, hv]
      cases t <;> rfl
  · rcases shape_of_isFinite hy with ⟨t, hv⟩ | ⟨t, n, f, hn, hv⟩
    · have hreaches : Reaches s (m.log2 + e) (unpacked (x - y)) := by
        rw [unpacked_sub, hu, hv]
        exact Reaches.repacked (isDouble_of_unpacked hu) ⟨rfl, le_refl _⟩
      rw [hreaches.isTruthy, beq_eq, hu, hv]
      cases s <;> rfl
    · exact isTruthy_sub_finite hu hv

end CardQuery.Number
