import CardQuery.Number.Reading
import Mathlib

/-!
# The bits of a double

A double is its bits, except that all bits of what is not a number stand for
one and the same. So the bits up to those of the infinite double come back
as they were put in (`toBits_ofBits`), and the sign is one bit on top of them
that a minus flips (`toBits_neg_ofBits`). What the library asks of a double –
whether it is finite, its sign, its magnitude – can then be read off a
natural number.
-/

namespace CardQuery.Number

open Float.Model Float.Model.UnpackedFloat

/-! ## Packing what was unpacked -/

/-- The sign of some bits. -/
def signOf (b : BitVec 64) : Sign := Sign.ofBitVec (@unpackSign Format.binary64 b)

/-- The exponent field of some bits. -/
def exponentOf (b : BitVec 64) : BitVec 11 := @unpackExponent Format.binary64 b

/-- The mantissa field of some bits. -/
def mantissaOf (b : BitVec 64) : BitVec 52 := @unpackMantissa Format.binary64 b

/-- The bits of three fields. -/
def ofFields (s : Sign) (e : BitVec 11) (m : BitVec 52) : BitVec 64 :=
  packComponents Format.binary64 s e m

/-- Bits are their three fields in a row. -/
theorem ofFields_fields (b : BitVec 64) :
    ofFields (signOf b) (exponentOf b) (mantissaOf b) = b := by
  have hsign : (signOf b).toBitVec = @unpackSign Format.binary64 b := by
    unfold signOf
    generalize @unpackSign Format.binary64 b = s
    revert s
    decide
  rw [ofFields, packComponents, hsign]
  apply BitVec.eq_of_getLsbD_eq
  intro i hi
  have hi : i < 64 := hi
  simp only [unpackSign, exponentOf, unpackExponent, mantissaOf, unpackMantissa,
    BitVec.getLsbD_append, BitVec.getLsbD_cast, BitVec.getLsbD_extractLsb]
  -- each bit by the field it is in
  by_cases hmantissa : i < 52
  · simp [hmantissa]
  by_cases hexponent : i - 52 < 11
  · have hshift : 52 + (i - 52) = i := by omega
    simp [hmantissa, hexponent, hshift]
  · obtain rfl : i = 63 := by omega
    simp
    rfl

/-- A normal double keeps its exponent, and all of its significand but the
leading one. -/
theorem pack_normal (s : Sign) {m : Nat} (h : 0 < m) (hlog : m.log2 = 52) (e : Nat)
    (he : e < 2047) :
    UnpackedFloat.pack Format.binary64 (.finite s m ((e : Int) - 1075) h)
      = ofFields s (BitVec.ofNat 11 e) (BitVec.ofNat 52 m) := by
  have hbiased : ((e : Int) - 1075 + Format.binary64.exponentBias
      + Format.binary64.mantissaBitsWithoutImplicit).toNat = e := by
    show ((e : Int) - 1075 + (1023 : Nat) + (52 : Nat)).toNat = e
    omega
  have hfree : ¬ 2 ^ Format.binary64.exponentBits ≤ e + 1 := by
    show ¬ 2 ^ 11 ≤ e + 1
    omega
  have hlead : m.log2 + 1 = Format.binary64.mantissaBits := by
    rw [hlog]
    rfl
  rw [UnpackedFloat.pack]
  simp only [hbiased]
  rw [if_neg hfree, if_pos hlead]
  rfl

/-- A subnormal double keeps its significand under the exponent zero. -/
theorem pack_subnormal (s : Sign) {m : Nat} (h : 0 < m) (hlog : m.log2 < 52) :
    UnpackedFloat.pack Format.binary64 (.finite s m (-1074) h)
      = ofFields s 0#11 (BitVec.ofNat 52 m) := by
  have hbiased : ((-1074 : Int) + Format.binary64.exponentBias
      + Format.binary64.mantissaBitsWithoutImplicit).toNat = 1 := rfl
  have hlead : ¬ m.log2 + 1 = Format.binary64.mantissaBits := by
    show ¬ m.log2 + 1 = 53
    omega
  rw [UnpackedFloat.pack]
  simp only [hbiased]
  rw [if_neg (by decide), if_neg hlead]
  rfl

theorem toNat_leading (m : BitVec 52) : (1#1 ++ m).toNat = 2 ^ 52 + m.toNat := by
  rw [BitVec.toNat_append, ← Nat.shiftLeft_add_eq_or_of_lt m.isLt]
  rfl

theorem leading_pos (m : BitVec 52) : 0 < (1#1 ++ m).toNat := by
  rw [toNat_leading]
  omega

theorem log2_leading (m : BitVec 52) : (1#1 ++ m).toNat.log2 = 52 := by
  have hlt := m.isLt
  rw [toNat_leading, Nat.log2_eq_iff (by omega)]
  omega

theorem mantissa_pos {m : BitVec 52} (h : ¬ m = 0#52) : 0 < m.toNat := by
  simpa [BitVec.toNat_pos, BitVec.pos_iff_ne_zero] using h

/-- Unpacking, by the fields. -/
theorem unpack_eq (b : BitVec 64) :
    UnpackedFloat.unpack Format.binary64 b
      = if exponentOf b = -1#11 then
          if mantissaOf b = 0#52 then .infinity (signOf b) else .notANumber
        else if exponentOf b = 0#11 then
          if h : mantissaOf b = 0#52 then .zero (signOf b)
          else .finite (signOf b) (mantissaOf b).toNat
            ((exponentOf b).toNat - ((1023 : Nat) + (52 : Nat)) + 1) (mantissa_pos h)
        else .finite (signOf b) (1#1 ++ mantissaOf b).toNat
          ((exponentOf b).toNat - ((1023 : Nat) + (52 : Nat))) (leading_pos _) :=
  rfl

/-- A sign put on an unpacked double. -/
def resign (s : Sign) : UnpackedFloat → UnpackedFloat
  | .notANumber => .notANumber
  | .infinity _ => .infinity s
  | .zero _ => .zero s
  | .finite _ m e h => .finite s m e h

/-- Bits stand for a number if they are not all ones in the exponent, or
those of an infinite double. -/
def IsNumber (b : BitVec 64) : Prop := exponentOf b ≠ -1#11 ∨ mantissaOf b = 0#52

/-- **Packing undoes unpacking**, up to a sign put on in between. -/
theorem pack_resign_unpack (s : Sign) {b : BitVec 64} (h : IsNumber b) :
    UnpackedFloat.pack Format.binary64 (resign s (UnpackedFloat.unpack Format.binary64 b))
      = ofFields s (exponentOf b) (mantissaOf b) := by
  have hexp : (exponentOf b).toNat < 2 ^ 11 := (exponentOf b).isLt
  have hmant : (mantissaOf b).toNat < 2 ^ 52 := (mantissaOf b).isLt
  rw [unpack_eq]
  -- the classes of doubles: infinite, zero, subnormal, normal
  by_cases hall : exponentOf b = -1#11
  · have hnone := h.resolve_left (not_not_intro hall)
    rw [if_pos hall, if_pos hnone, hall, hnone]
    rfl
  by_cases hzero : exponentOf b = 0#11
  · by_cases hnone : mantissaOf b = 0#52
    · rw [if_neg hall, if_pos hzero, dif_pos hnone, hzero, hnone]
      rfl
    · -- too few bits for a leading one
      have hpos : (mantissaOf b).toNat ≠ 0 := fun h => hnone (BitVec.toNat_inj.mp h)
      rw [if_neg hall, if_pos hzero, dif_neg hnone, resign]
      have hexponent : ((exponentOf b).toNat : Int) - ((1023 : Nat) + (52 : Nat)) + 1 = -1074 := by
        rw [hzero]
        rfl
      simp only [hexponent]
      rw [pack_subnormal s _ ((Nat.log2_lt hpos).mpr hmant), BitVec.ofNat_toNat,
        BitVec.setWidth_eq, hzero]
  · have hmax : (exponentOf b).toNat ≠ 2047 := fun h => hall (BitVec.toNat_inj.mp h)
    -- the leading one is not stored
    have hleading : BitVec.ofNat 52 (1#1 ++ mantissaOf b).toNat = mantissaOf b := by
      apply BitVec.eq_of_toNat_eq
      rw [BitVec.toNat_ofNat, toNat_leading, Nat.add_mod_left, Nat.mod_eq_of_lt hmant]
    rw [if_neg hall, if_neg hzero, resign]
    have hpack := pack_normal s (leading_pos (mantissaOf b)) (log2_leading _) (exponentOf b).toNat
      (by omega)
    rw [hleading, BitVec.ofNat_toNat, BitVec.setWidth_eq] at hpack
    exact hpack

theorem resign_signOf (b : BitVec 64) :
    resign (signOf b) (UnpackedFloat.unpack Format.binary64 b)
      = UnpackedFloat.unpack Format.binary64 b := by
  rw [unpack_eq]
  split
  · split <;> rfl
  · split
    · split <;> rfl
    · rfl

theorem resign_neg_signOf (b : BitVec 64) :
    resign (-signOf b) (UnpackedFloat.unpack Format.binary64 b)
      = (UnpackedFloat.unpack Format.binary64 b).neg := by
  rw [unpack_eq]
  split
  · split <;> rfl
  · split
    · split <;> rfl
    · rfl

/-! ## Bits as natural numbers -/

/-- The fields of a natural number that is read as bits. -/
theorem toNat_ofFields (s : Sign) (e : BitVec 11) (m : BitVec 52) :
    (ofFields s e m).toNat = s.toBitVec.toNat * 2 ^ 63 + e.toNat * 2 ^ 52 + m.toNat := by
  have happend : (ofFields s e m).toNat
      = (s.toBitVec.toNat <<< 11 ||| e.toNat) <<< 52 ||| m.toNat := by
    show ((s.toBitVec ++ e) ++ m).toNat = _
    rw [BitVec.toNat_append, BitVec.toNat_append]
  rw [happend, ← Nat.shiftLeft_add_eq_or_of_lt e.isLt, ← Nat.shiftLeft_add_eq_or_of_lt m.isLt,
    Nat.shiftLeft_eq, Nat.shiftLeft_eq]
  omega

theorem toNat_fields (b : BitVec 64) :
    b.toNat = (signOf b).toBitVec.toNat * 2 ^ 63 + (exponentOf b).toNat * 2 ^ 52
      + (mantissaOf b).toNat := by
  rw [← toNat_ofFields, ofFields_fields]

theorem toNat_exponentOf (b : BitVec 64) : (exponentOf b).toNat = b.toNat / 2 ^ 52 % 2 ^ 11 := by
  have hbits := toNat_fields b
  have hexp : (exponentOf b).toNat < 2 ^ 11 := (exponentOf b).isLt
  have hmant : (mantissaOf b).toNat < 2 ^ 52 := (mantissaOf b).isLt
  omega

theorem toNat_mantissaOf (b : BitVec 64) : (mantissaOf b).toNat = b.toNat % 2 ^ 52 := by
  have hbits := toNat_fields b
  have hmant : (mantissaOf b).toNat < 2 ^ 52 := (mantissaOf b).isLt
  omega

theorem signOf_of_lt {b : BitVec 64} (h : b.toNat < 2 ^ 63) : signOf b = .positive := by
  have hbits := toNat_fields b
  cases hs : signOf b with
  | positive => rfl
  | negative =>
    rw [hs] at hbits
    have hone : Sign.negative.toBitVec.toNat = 1 := rfl
    omega

/-! ## Doubles -/

/-- The exponent field of a double, as a natural number. -/
def exponentBits (x : Float) : Nat := x.toBits.toNat / 2 ^ 52 % 2 ^ 11

/-- The mantissa field of a double, as a natural number. -/
def mantissaBits (x : Float) : Nat := x.toBits.toNat % 2 ^ 52

/-- A double is negative if its first bit is set. -/
theorem isNegative_eq (x : Float) : isNegative x = decide (2 ^ 63 ≤ x.toBits.toNat) := by
  have hlt := x.toBits.toNat_lt
  have hshift : (x.toBits >>> 63).toNat = x.toBits.toNat / 2 ^ 63 := by
    rw [UInt64.toNat_shiftRight, Nat.shiftRight_eq_div_pow]
    rfl
  rw [isNegative, Bool.eq_iff_iff, beq_iff_eq, ← UInt64.toNat_inj, hshift, decide_eq_true_iff]
  show x.toBits.toNat / 2 ^ 63 = 1 ↔ _
  omega

/-- The magnitude of a double is told by its fields. -/
theorem magnitude_eq (x : Float) :
    magnitude x
      = if exponentBits x = 0 then ⟨mantissaBits x, -1074⟩
        else ⟨2 ^ 52 + mantissaBits x, (exponentBits x : Int) - 1075⟩ := by
  have hexp : ((x.toBits >>> 52) &&& 0x7FF).toNat = exponentBits x := by
    rw [UInt64.toNat_and, UInt64.toNat_shiftRight, Nat.shiftRight_eq_div_pow]
    exact Nat.and_two_pow_sub_one_eq_mod _ 11
  have hmant : (x.toBits &&& 0xFFFFFFFFFFFFF).toNat = mantissaBits x := by
    rw [UInt64.toNat_and]
    exact Nat.and_two_pow_sub_one_eq_mod _ 52
  show (if ((x.toBits >>> 52) &&& 0x7FF).toNat = 0 then
      (⟨(x.toBits &&& 0xFFFFFFFFFFFFF).toNat, -1074⟩ : Binary)
    else ⟨2 ^ 52 + (x.toBits &&& 0xFFFFFFFFFFFFF).toNat,
      (((x.toBits >>> 52) &&& 0x7FF).toNat : Int) - 1075⟩) = _
  rw [hexp, hmant]

theorem exponentOf_toBits (x : Float) (n : Nat) (h : n < 2 ^ 11) :
    exponentOf x.toBits.toBitVec = BitVec.ofNat 11 n ↔ exponentBits x = n := by
  rw [← BitVec.toNat_inj, toNat_exponentOf, BitVec.toNat_ofNat, Nat.mod_eq_of_lt h]
  rfl

theorem mantissaOf_toBits (x : Float) :
    mantissaOf x.toBits.toBitVec = 0#52 ↔ mantissaBits x = 0 := by
  rw [← BitVec.toNat_inj, toNat_mantissaOf]
  rfl

/-- A double is finite if its exponent is not all ones. -/
theorem finite_of_exponentBits {x : Float} (h : exponentBits x ≠ 2047) :
    x.isFinite = true ∧ x.isNaN = false ∧ x.isInf = false := by
  have hexp : exponentOf x.toBits.toBitVec ≠ -1#11 := fun heq =>
    h ((exponentOf_toBits x 2047 (by decide)).mp heq)
  show (UnpackedFloat.unpack Format.binary64 x.toBits.toBitVec).isFinite = true ∧
    (UnpackedFloat.unpack Format.binary64 x.toBits.toBitVec).isNaN = false ∧
    (UnpackedFloat.unpack Format.binary64 x.toBits.toBitVec).isInf = false
  rw [unpack_eq, if_neg hexp]
  split
  · split <;> exact ⟨rfl, rfl, rfl⟩
  · exact ⟨rfl, rfl, rfl⟩

/-- A double is infinite if its exponent is all ones and its mantissa zero. -/
theorem infinite_of_fields {x : Float} (h : exponentBits x = 2047) (hm : mantissaBits x = 0) :
    x.isFinite = false ∧ x.isNaN = false ∧ x.isInf = true := by
  have hexp : exponentOf x.toBits.toBitVec = -1#11 := (exponentOf_toBits x 2047 (by decide)).mpr h
  show (UnpackedFloat.unpack Format.binary64 x.toBits.toBitVec).isFinite = false ∧
    (UnpackedFloat.unpack Format.binary64 x.toBits.toBitVec).isNaN = false ∧
    (UnpackedFloat.unpack Format.binary64 x.toBits.toBitVec).isInf = true
  rw [unpack_eq, if_pos hexp, if_pos ((mantissaOf_toBits x).mpr hm)]
  exact ⟨rfl, rfl, rfl⟩

/-- A double that is a number is equal to itself. -/
theorem beq_self_of_isNaN {x : Float} (h : x.isNaN = false) : (x == x) = true := by
  change (UnpackedFloat.unpack Format.binary64 x.toBits.toBitVec).isNaN = false at h
  show (UnpackedFloat.unpack Format.binary64 x.toBits.toBitVec).beq
    (UnpackedFloat.unpack Format.binary64 x.toBits.toBitVec) = true
  generalize UnpackedFloat.unpack Format.binary64 x.toBits.toBitVec = u at h ⊢
  cases u with
  | notANumber => cases h
  | infinity s => cases s <;> rfl
  | zero s => rfl
  | finite s m e hm =>
    have hsize : (compare e e).then (compare m m) = .eq := by
      rw [Std.compare_self, Std.compare_self]
      rfl
    cases s with
    | positive =>
      show (some ((compare e e).then (compare m m)) == some .eq) = true
      rw [hsize]
      rfl
    | negative =>
      show (some ((compare e e).then (compare m m)).swap == some .eq) = true
      rw [hsize]
      rfl

/-- The order of two doubles is turned around when they are. -/
theorem compare_swap (a b : UnpackedFloat) : a.compare b = (b.compare a).map Ordering.swap := by
  cases a with
  | notANumber => cases b <;> rfl
  | infinity s =>
    cases b with
    | infinity s' => cases s <;> cases s' <;> rfl
    | _ => cases s <;> rfl
  | zero s =>
    cases b with
    | finite s' | infinity s' => cases s' <;> rfl
    | _ => rfl
  | finite s m e hm =>
    cases b with
    | infinity s' => cases s' <;> rfl
    | notANumber => rfl
    | zero => cases s <;> rfl
    | finite s' m' e' hm' =>
      have hsize : (compare e e').then (compare m m')
          = ((compare e' e).then (compare m' m)).swap := by
        rw [Ordering.swap_then, ← Std.OrientedCmp.eq_swap, ← Std.OrientedCmp.eq_swap]
      cases s with
      | positive =>
        cases s' with
        | positive => exact congrArg some hsize
        | negative => rfl
      | negative =>
        cases s' with
        | positive => rfl
        | negative => exact congrArg (fun o : Ordering => some o.swap) hsize

/-- **Equality of doubles is symmetric.** -/
theorem beq_comm (x y : Float) : (x == y) = (y == x) := by
  show (UnpackedFloat.unpack Format.binary64 x.toBits.toBitVec).beq
      (UnpackedFloat.unpack Format.binary64 y.toBits.toBitVec)
    = (UnpackedFloat.unpack Format.binary64 y.toBits.toBitVec).beq
      (UnpackedFloat.unpack Format.binary64 x.toBits.toBitVec)
  rw [UnpackedFloat.beq, UnpackedFloat.beq, compare_swap]
  cases (UnpackedFloat.unpack Format.binary64 y.toBits.toBitVec).compare
      (UnpackedFloat.unpack Format.binary64 x.toBits.toBitVec) with
  | none => rfl
  | some o => cases o <;> rfl

/-- A finite double is equal to itself. -/
theorem beq_self_of_isFinite {x : Float} (h : x.isFinite = true) : (x == x) = true := by
  refine beq_self_of_isNaN ?_
  change (UnpackedFloat.unpack Format.binary64 x.toBits.toBitVec).isFinite = true at h
  show (UnpackedFloat.unpack Format.binary64 x.toBits.toBitVec).isNaN = false
  generalize UnpackedFloat.unpack Format.binary64 x.toBits.toBitVec = u at h ⊢
  cases u with
  | notANumber => cases h
  | _ => rfl

/-! ## Doubles given by their bits -/

theorem toBits_ofBits {w : UInt64} (h : IsNumber w.toBitVec) : (Float.ofBits w).toBits = w := by
  apply UInt64.toBitVec_inj.mp
  show UnpackedFloat.pack Format.binary64 (UnpackedFloat.unpack Format.binary64 w.toBitVec) = _
  rw [← resign_signOf, pack_resign_unpack _ h, ofFields_fields]

/-- A minus flips the sign and leaves the other fields. -/
theorem toBits_neg_ofBits {w : UInt64} (h : IsNumber w.toBitVec) :
    (-(Float.ofBits w)).toBits.toBitVec
      = ofFields (-signOf w.toBitVec) (exponentOf w.toBitVec) (mantissaOf w.toBitVec) := by
  show UnpackedFloat.pack Format.binary64
    (UnpackedFloat.unpack Format.binary64 (Float.ofBits w).toBits.toBitVec).neg = _
  rw [toBits_ofBits h, ← resign_neg_signOf, pack_resign_unpack _ h]

section Numeral

variable {n : Nat} (h : n ≤ infinityBits)
include h

theorem toNat_toUInt64 : n.toUInt64.toBitVec.toNat = n := by
  show n % 2 ^ 64 = n
  have hmax : infinityBits = 0x7FF0000000000000 := rfl
  omega

theorem isNumber_toUInt64 : IsNumber n.toUInt64.toBitVec := by
  have hmax : infinityBits = 2047 * 2 ^ 52 := rfl
  -- below the infinite double the exponent is not all ones, at it the mantissa is zero
  by_cases hlt : n < infinityBits
  · refine .inl fun heq => ?_
    have hexp := congrArg BitVec.toNat heq
    rw [toNat_exponentOf, toNat_toUInt64 h] at hexp
    have hall : (-1#11 : BitVec 11).toNat = 2047 := rfl
    omega
  · refine .inr (BitVec.toNat_inj.mp ?_)
    rw [toNat_mantissaOf, toNat_toUInt64 h]
    show n % 2 ^ 52 = 0
    omega

/-- Bits up to those of the infinite double come back. -/
theorem toNat_toBits_ofBits : (Float.ofBits n.toUInt64).toBits.toNat = n := by
  rw [toBits_ofBits (isNumber_toUInt64 h)]
  exact toNat_toUInt64 h

/-- With a minus they come back with the first bit set. -/
theorem toNat_toBits_neg_ofBits : (-(Float.ofBits n.toUInt64)).toBits.toNat = 2 ^ 63 + n := by
  have hmax : infinityBits = 2047 * 2 ^ 52 := rfl
  have hbits := congrArg BitVec.toNat (toBits_neg_ofBits (isNumber_toUInt64 h))
  have hlt : n.toUInt64.toBitVec.toNat < 2 ^ 63 := by
    rw [toNat_toUInt64 h]
    omega
  rw [toNat_ofFields, toNat_exponentOf, toNat_mantissaOf, signOf_of_lt hlt,
    toNat_toUInt64 h] at hbits
  show (-(Float.ofBits n.toUInt64)).toBits.toBitVec.toNat = _
  rw [hbits]
  show 1 * 2 ^ 63 + n / 2 ^ 52 % 2 ^ 11 * 2 ^ 52 + n % 2 ^ 52 = 2 ^ 63 + n
  omega

/-- **A double of some bits and a sign** has the fields of the bits, and the
sign. -/
theorem fields_withSign (negative : Bool) :
    exponentBits (withSign negative (.ofBits n.toUInt64)) = n / 2 ^ 52 ∧
      mantissaBits (withSign negative (.ofBits n.toUInt64)) = n % 2 ^ 52 ∧
      isNegative (withSign negative (.ofBits n.toUInt64)) = negative := by
  have hmax : infinityBits = 2047 * 2 ^ 52 := rfl
  have hbits : (withSign negative (.ofBits n.toUInt64)).toBits.toNat
      = if negative then 2 ^ 63 + n else n := by
    cases negative with
    | false => exact toNat_toBits_ofBits h
    | true => exact toNat_toBits_neg_ofBits h
  rw [exponentBits, mantissaBits, isNegative_eq, hbits]
  cases negative with
  | false =>
    refine ⟨?_, rfl, decide_eq_false ?_⟩
    · show n / 2 ^ 52 % 2 ^ 11 = n / 2 ^ 52
      omega
    · show ¬ 2 ^ 63 ≤ n
      omega
  | true =>
    refine ⟨?_, ?_, decide_eq_true ?_⟩
    · show (2 ^ 63 + n) / 2 ^ 52 % 2 ^ 11 = n / 2 ^ 52
      omega
    · show (2 ^ 63 + n) % 2 ^ 52 = n % 2 ^ 52
      omega
    · show 2 ^ 63 ≤ 2 ^ 63 + n
      omega

/-- Bits up to those of the infinite double are always a number. -/
theorem isNaN_withSign (negative : Bool) :
    (withSign negative (.ofBits n.toUInt64)).isNaN = false := by
  have hmax : infinityBits = 2047 * 2 ^ 52 := rfl
  obtain ⟨hexp, hmant, -⟩ := fields_withSign h negative
  by_cases hinf : n = infinityBits
  · exact (infinite_of_fields (by omega) (by omega)).2.1
  · exact (finite_of_exponentBits (by omega)).2.1

end Numeral

end CardQuery.Number
