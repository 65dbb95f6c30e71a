import CardQuery.Evaluation.Coercion
import CardQuery.Card.Value
import CardQuery.Proofs.Number.Nearest
import CardQuery.Proofs.Query.Relexing

/-!
# The numerals of texts

A text becomes a number by way of several readers: four signs that stand for themselves,
three prefixes for other bases, and a decimal reader that is given everything else. Together
they accept one language, `IsNumeral`, which is told here by the shape of the text and by the
number in it, with no mention of the readers. A text is read to the number of its numeral, and
is an error if it is none (`Value.toNumber_string`).
-/

namespace CardQuery.Number

/-! ## Decimals -/

/-- A number is between two powers of ten. -/
theorem exists_length_toDigits {n : ℕ} (hn : n ≠ 0) :
    ∃ k, (Nat.toDigits 10 n).length = k + 1 ∧ 10 ^ k ≤ n ∧ n < 10 ^ (k + 1) := by
  have hpos : 0 < (Nat.toDigits 10 n).length := List.length_pos_iff.mpr Nat.toDigits_ne_nil
  obtain ⟨k, hk⟩ := Nat.exists_eq_add_of_le' hpos
  have hle : ∀ j, 0 < j → ((Nat.toDigits 10 n).length ≤ j ↔ n < 10 ^ j) := fun j hj =>
    Nat.length_toDigits_le_iff (by decide) hj
  refine ⟨k, hk, ?_, (hle (k + 1) k.succ_pos).mp hk.le⟩
  rcases Nat.eq_zero_or_pos k with rfl | hkpos
  · exact Nat.pos_of_ne_zero hn
  · refine Nat.le_of_not_lt fun hlt => ?_
    have := (hle k hkpos).mpr hlt
    omega

/-- What is less than half of the least double is rounded to zero. -/
theorem nearestTo_eq_zero {n d : ℕ} (hd : d ≠ 0) (h : (n / d : ℚ) < 2 ^ (-1075 : Int)) :
    nearestTo n d = 0 := by
  obtain ⟨e, s, hround, hbits⟩ := exists_roundsTo n hd
  have hhalf : (2 : ℚ) ^ (-1074 : Int) = 2 ^ (-1075 : Int) * 2 :=
    zpow_add_one₀ two_ne_zero (-1075)
  have hpos : (0 : ℚ) < 2 ^ (-1075 : Int) := zpow_pos two_pos _
  have hleast : (2 : ℚ) ^ (-1074 : Int) ≤ 2 ^ e := zpow_le_zpow_right₀ one_le_two hround.least
  have he : e = -1074 := by
    refine hround.full.resolve_left fun hfull => ?_
    generalize (2 : ℚ) ^ (-1075 : Int) = unit at *
    generalize (2 : ℚ) ^ e = power at *
    linarith
  have hs : s = 0 := by
    have hless : (n / d : ℚ) / 2 ^ e < 1 / 2 := by
      rw [div_lt_iff₀ (zpow_pos two_pos _)]
      generalize (2 : ℚ) ^ (-1075 : Int) = unit at *
      generalize (2 : ℚ) ^ e = power at *
      linarith
    have hnear := (abs_le.mp hround.near).1
    have hs : (s : ℚ) < 1 := by linarith
    have hs : s < 1 := by exact_mod_cast hs
    omega
  have hzero : nearestBits n d = 0 := by
    rw [hbits, he, hs]
    rfl
  rw [nearestTo, hzero]
  rfl

section Cutoffs

variable {n k : ℕ} {e : Int}

/-- A decimal of more than 310 digits exceeds all doubles. -/
theorem overflow_le_decimal (hlow : 10 ^ k ≤ n) (h : 310 ≤ (k : Int) + e) :
    overflow ≤ n * 10 ^ e := by
  have hlow : (10 : ℚ) ^ k ≤ n := by exact_mod_cast hlow
  have htop : ((2 ^ 1024 : ℕ) : ℚ) ≤ ((10 ^ 310 : ℕ) : ℚ) := Nat.cast_le.mpr (by decide +kernel)
  rw [Nat.cast_pow, Nat.cast_pow, Nat.cast_ofNat, Nat.cast_ofNat] at htop
  have hless : (0 : ℚ) < 2 ^ 970 := pow_pos two_pos _
  calc overflow ≤ 2 ^ 1024 := sub_le_self _ hless.le
    _ ≤ 10 ^ 310 := htop
    _ = 10 ^ (310 : Int) := by rw [zpow_ofNat]
    _ ≤ 10 ^ ((k : Int) + e) := zpow_le_zpow_right₀ (by norm_num) h
    _ = 10 ^ k * 10 ^ e := by rw [zpow_add₀ (by norm_num : (10 : ℚ) ≠ 0), zpow_natCast]
    _ ≤ n * 10 ^ e := mul_le_mul_of_nonneg_right hlow (zpow_nonneg (by norm_num) _)

/-- A decimal whose digits begin behind the 330th place is less than half of the least
double. -/
theorem decimal_lt_least (hhigh : n < 10 ^ k) (h : (k : Int) + e ≤ -331) :
    (n * 10 ^ e : ℚ) < 2 ^ (-1075 : Int) := by
  have hhigh : (n : ℚ) < 10 ^ k := by exact_mod_cast hhigh
  have hleast : ((2 ^ 1075 : ℕ) : ℚ) ≤ ((10 ^ 331 : ℕ) : ℚ) := Nat.cast_le.mpr (by decide +kernel)
  rw [Nat.cast_pow, Nat.cast_pow, Nat.cast_ofNat, Nat.cast_ofNat] at hleast
  calc (n * 10 ^ e : ℚ) < 10 ^ k * 10 ^ e :=
        mul_lt_mul_of_pos_right hhigh (zpow_pos (by norm_num) _)
    _ = 10 ^ ((k : Int) + e) := by rw [zpow_add₀ (by norm_num : (10 : ℚ) ≠ 0), zpow_natCast]
    _ ≤ 10 ^ (-331 : Int) := zpow_le_zpow_right₀ (by norm_num) h
    _ = (10 ^ 331)⁻¹ := by rw [zpow_neg, zpow_ofNat]
    _ ≤ (2 ^ 1075)⁻¹ := inv_anti₀ (pow_pos two_pos _) hleast
    _ = 2 ^ (-1075 : Int) := by rw [zpow_neg, zpow_ofNat]

end Cutoffs

/-- **The double nearest to a decimal** is the one that it is read as. What is cut off
without any arithmetic is too great or too small for a double. -/
theorem isNearest_decimal_iff (n : ℕ) (e : Int) (x : Float) :
    IsNearest (n * 10 ^ e) x ↔ x = nearest n e := by
  have hden : (10 : ℕ) ^ (-e).toNat ≠ 0 := pow_ne_zero _ (by decide)
  have hfraction : (n * 10 ^ e : ℚ) = (n * 10 ^ e.toNat : ℕ) / (10 ^ (-e).toNat : ℕ) := by
    have hpow : (10 : ℚ) ^ (-e).toNat ≠ 0 := pow_ne_zero _ (by norm_num)
    push_cast
    rw [eq_div_iff hpow, mul_assoc, ← zpow_natCast, ← zpow_natCast,
      ← zpow_add₀ (by norm_num : (10 : ℚ) ≠ 0)]
    congr 2
    omega
  have hiff := isNearest_iff (n * 10 ^ e.toNat) hden
  rw [hfraction, hiff, nearest]
  by_cases hn : n = 0
  · have hbits : nearestBits (0 * 10 ^ e.toNat) (10 ^ (-e).toNat) = 0 := by
      rw [Nat.zero_mul]
      rfl
    rw [if_pos hn, hn, nearestTo, hbits]
    rfl
  obtain ⟨k, hk, hlow, hhigh⟩ := exists_length_toDigits hn
  rw [if_neg hn, hk]
  by_cases hlarge : ((k + 1 : ℕ) : Int) + e > 310
  · have habove := overflow_le_decimal (e := e) hlow (by omega)
    rw [hfraction] at habove
    rw [if_pos hlarge, ← (hiff infinity).mp (.infinite habove)]
  rw [if_neg hlarge]
  by_cases hsmall : ((k + 1 : ℕ) : Int) + e < -330
  · have hbelow := decimal_lt_least (e := e) hhigh (by omega)
    rw [hfraction] at hbelow
    rw [if_pos hsmall, nearestTo_eq_zero hden hbelow]
  · rw [if_neg hsmall]
    rfl

/-! ## Digits -/

/-- **Digits of a base**, and the number that they write. -/
def Writes (base : ℕ) (cs : List Char) (n : ℕ) : Prop :=
  ∃ ds : List ℕ, (∀ d ∈ ds, d < base) ∧ ds.map Nat.digitChar = cs ∧ Nat.ofDigits base ds.reverse = n

theorem writes_nil {base n : ℕ} : Writes base [] n ↔ n = 0 := by
  constructor
  · rintro ⟨ds, -, hmap, rfl⟩
    rw [List.map_eq_nil_iff.mp hmap]
    rfl
  · rintro rfl
    exact ⟨[], fun _ h => absurd h List.not_mem_nil, rfl, rfl⟩

theorem writes_cons {base n : ℕ} {c : Char} {cs : List Char} :
    Writes base (c :: cs) n ↔
      ∃ d k, d < base ∧ d.digitChar = c ∧ Writes base cs k ∧ d * base ^ cs.length + k = n := by
  constructor
  · rintro ⟨ds, hds, hmap, rfl⟩
    obtain ⟨d, ds, rfl, rfl, rfl⟩ := List.map_eq_cons_iff.mp hmap
    refine ⟨d, _, hds d List.mem_cons_self, rfl,
      ⟨ds, fun k hk => hds k (List.mem_cons_of_mem d hk), rfl, rfl⟩, ?_⟩
    rw [List.reverse_cons, Nat.ofDigits_append, Nat.ofDigits_singleton, List.length_reverse,
      List.length_map, Nat.add_comm, Nat.mul_comm]
  · rintro ⟨d, k, hd, rfl, ⟨ds, hds, rfl, rfl⟩, rfl⟩
    refine ⟨d :: ds, List.forall_mem_cons.mpr ⟨hd, hds⟩, rfl, ?_⟩
    rw [List.reverse_cons, Nat.ofDigits_append, Nat.ofDigits_singleton, List.length_reverse,
      List.length_map, Nat.add_comm, Nat.mul_comm]

/-- A basic digit is the digit of its value. -/
theorem digitChar_digitValue {c : Char} (h : isDigit c = true) :
    digitValue c < 10 ∧ (digitValue c).digitChar = c := by
  have hchars : ∀ k < 10, k.digitChar = Char.ofNat (48 + k) := by decide
  obtain ⟨hlow, hhigh⟩ := Bool.and_eq_true _ _ ▸ h
  have hlow : 48 ≤ c.toNat := of_decide_eq_true hlow
  have hhigh : c.toNat ≤ 57 := of_decide_eq_true hhigh
  have hvalue : digitValue c = c.toNat - 48 := rfl
  refine ⟨by omega, ?_⟩
  rw [hchars _ (by omega), hvalue, Nat.add_sub_cancel' hlow, Char.ofNat_toNat]

theorem isDigit_digitChar : ∀ d < 10, isDigit d.digitChar = true ∧ digitValue d.digitChar = d := by
  decide

/-- **A character is a digit of a base** if it is the digit of a number below it. -/
theorem digitIn?_eq_some {base d : ℕ} {c : Char} (hbase : base ≤ 16) :
    digitIn? base c = some d ↔ d < base ∧ d.digitChar = c := by
  have hdigits : ∀ b < 17, ∀ k < b, digitIn? b k.digitChar = some k := by decide +kernel
  have hletters : ∀ k < 6, (k + 10).digitChar = Char.ofNat (97 + k) := by decide
  refine ⟨fun h => ?_, fun ⟨hd, hc⟩ => hc ▸ hdigits base (by omega) d hd⟩
  rw [digitIn?, Option.ite_none_right_eq_some] at h
  obtain ⟨hlt, hd⟩ := h
  obtain rfl := Option.some.inj hd
  refine ⟨hlt, ?_⟩
  by_cases hdigit : isDigit c = true
  · rw [if_pos hdigit]
    exact (digitChar_digitValue hdigit).2
  by_cases hletter : 'a' ≤ c ∧ c ≤ 'f'
  · have hlow : 97 ≤ c.toNat := hletter.1
    have hhigh : c.toNat ≤ 102 := hletter.2
    have ha : 'a'.toNat = 97 := rfl
    rw [if_neg hdigit, if_pos hletter, ha, hletters _ (by omega), Nat.add_sub_cancel' hlow,
      Char.ofNat_toNat]
  · rw [if_neg hdigit, if_neg hletter] at hlt
    exact absurd hlt (lt_irrefl _)

/-- **Decimal digits** write the number that is computed from them. -/
theorem writes_ten_iff {cs : List Char} {n : ℕ} :
    Writes 10 cs n ↔ (∀ c ∈ cs, isDigit c = true) ∧ digitsValue cs = n := by
  have hcons : ∀ c rest, digitsValue (c :: rest)
      = digitValue c * 10 ^ rest.length + digitsValue rest := by
    intro c rest
    show Nat.ofDigitChars 10 rest (10 * 0 + digitValue c) = _
    rw [Nat.ofDigitChars_eq_ofDigitChars_zero, Nat.mul_zero, Nat.zero_add, Nat.mul_comm]
    rfl
  induction cs generalizing n with
  | nil =>
    rw [writes_nil, eq_comm]
    exact (and_iff_right fun _ h => absurd h List.not_mem_nil).symm
  | cons c cs ih =>
    rw [writes_cons, hcons, List.forall_mem_cons]
    constructor
    · rintro ⟨d, k, hd, rfl, hk, rfl⟩
      obtain ⟨hdigits, rfl⟩ := ih.mp hk
      obtain ⟨hdigit, hvalue⟩ := isDigit_digitChar d hd
      exact ⟨⟨hdigit, hdigits⟩, by rw [hvalue]⟩
    · rintro ⟨⟨hdigit, hdigits⟩, rfl⟩
      obtain ⟨hlt, hchar⟩ := digitChar_digitValue hdigit
      exact ⟨_, _, hlt, hchar, ih.mpr ⟨hdigits, rfl⟩, rfl⟩

/-! ## Integers in a base -/

/-- Digits are appended as long as the number stays below `2 ^ 64`. It only grows. -/
theorem extendIn?_eq_some {base n m : ℕ} {cs : List Char} (hbase : base ≤ 16) (hpos : 0 < base)
    (hn : n < 2 ^ 64) : extendIn? base n cs = some m ↔
      ∃ k, Writes base cs k ∧ n * base ^ cs.length + k = m ∧ m < 2 ^ 64 := by
  induction cs generalizing n with
  | nil =>
    rw [extendIn?, Option.some.injEq]
    constructor
    · rintro rfl
      exact ⟨0, writes_nil.mpr rfl, Nat.mul_one n, hn⟩
    · rintro ⟨k, hk, rfl, -⟩
      rw [writes_nil.mp hk]
      exact (Nat.mul_one n).symm
  | cons c cs ih =>
    have hlimit : Nat.pow 2 64 = 2 ^ 64 := rfl
    rw [extendIn?, Option.bind_eq_bind, Option.bind_eq_some_iff, hlimit]
    dsimp only
    constructor
    · rintro ⟨d, hd, h⟩
      obtain ⟨hlt, hchar⟩ := (digitIn?_eq_some hbase).mp hd
      rw [Option.ite_none_right_eq_some] at h
      obtain ⟨hsize, h⟩ := h
      obtain ⟨k, hk, rfl, hm⟩ := (ih hsize).mp h
      refine ⟨_, writes_cons.mpr ⟨d, k, hlt, hchar, hk, rfl⟩, ?_, hm⟩
      rw [List.length_cons]
      ring
    · rintro ⟨_, hwrites, rfl, hm⟩
      obtain ⟨d, k, hlt, hchar, hk, rfl⟩ := writes_cons.mp hwrites
      have hvalue : n * base ^ (c :: cs).length + (d * base ^ cs.length + k)
          = (base * n + d) * base ^ cs.length + k := by
        rw [List.length_cons]
        ring
      rw [hvalue] at hm
      have hsize : base * n + d < 2 ^ 64 :=
        ((Nat.le_mul_of_pos_right _ (Nat.pow_pos hpos)).trans (Nat.le_add_right _ k)).trans_lt hm
      refine ⟨d, (digitIn?_eq_some hbase).mpr ⟨hlt, hchar⟩, ?_⟩
      rw [if_pos hsize]
      exact (ih hsize).mpr ⟨k, hk, hvalue.symm, hvalue.trans_lt hm⟩

/-- No digit is a sign. -/
theorem ne_plus_of_writes {base n : ℕ} {c : Char} {cs : List Char} (hbase : base ≤ 16)
    (h : Writes base (c :: cs) n) : c ≠ '+' := by
  obtain ⟨d, -, hd, rfl, -⟩ := writes_cons.mp h
  have hdigits : ∀ k < 16, k.digitChar ≠ '+' := by decide
  exact hdigits d (hd.trans_le hbase)

/-- **An integer in a base** has at least one digit after an optional plus. -/
theorem inBase?_eq_some {base m : ℕ} {cs : List Char} (hbase : base ≤ 16) (hpos : 0 < base) :
    inBase? base cs = some m ↔ ∃ plus digits, cs = plus ++ digits ∧
      (plus = [] ∨ plus = ['+']) ∧ digits ≠ [] ∧ Writes base digits m ∧ m < 2 ^ 64 := by
  have hextend : ∀ digits, extendIn? base 0 digits = some m ↔
      Writes base digits m ∧ m < 2 ^ 64 := by
    intro digits
    rw [extendIn?_eq_some hbase hpos (by decide)]
    constructor
    · rintro ⟨k, hk, rfl, hm⟩
      rw [Nat.zero_mul, Nat.zero_add] at hm ⊢
      exact ⟨hk, hm⟩
    · rintro ⟨hm, hsize⟩
      exact ⟨m, hm, by rw [Nat.zero_mul, Nat.zero_add], hsize⟩
  constructor
  · intro h
    unfold inBase? at h
    split at h
    · next c rest => exact ⟨['+'], c :: rest, rfl, .inr rfl, List.cons_ne_nil _ _, (hextend _).mp h⟩
    · next c rest _ => exact ⟨[], c :: rest, rfl, .inl rfl, List.cons_ne_nil _ _, (hextend _).mp h⟩
    · cases h
  · rintro ⟨plus, digits, rfl, hplus, hne, hdigits, hsize⟩
    obtain ⟨c, rest, rfl⟩ := List.exists_cons_of_ne_nil hne
    have hresult := (hextend _).mpr ⟨hdigits, hsize⟩
    rcases hplus with rfl | rfl
    · -- the first digit is not taken for a plus
      have hc := ne_plus_of_writes hbase hdigits
      rw [List.nil_append, ← hresult]
      unfold inBase?
      split
      · next heq => exact absurd (List.cons.inj heq).1 hc
      · next heq => rw [heq]
      · next heq => cases heq
    · exact hresult

/-! ## Decimals in texts -/

/-- An optional sign, and whether it is negative. -/
inductive SignText : List Char → Bool → Prop where
  | none : SignText [] false
  | plus : SignText ['+'] false
  | minus : SignText ['-'] true

/-- An optional exponent. It has a sign of its own and at least one digit. -/
inductive ExponentText : List Char → Int → Prop where
  | none : ExponentText [] 0
  | some {sign digits : List Char} {negative : Bool} {n : ℕ} (hsign : SignText sign negative)
    (hne : digits ≠ []) (hdigits : Writes 10 digits n) :
    ExponentText ('e' :: (sign ++ digits)) (if negative then -n else n)

/-- **A decimal without a sign**: digits, an optional fraction, with at least one digit in all,
and an optional exponent. -/
inductive DecimalText : List Char → ℚ → Prop where
  | mk {whole point fraction exponent : List Char} {n : ℕ} {e : Int}
    (hpoint : point = ['.'] ∨ point = [] ∧ fraction = []) (hne : whole ++ fraction ≠ [])
    (hdigits : Writes 10 (whole ++ fraction) n) (hexponent : ExponentText exponent e) :
    DecimalText (whole ++ (point ++ (fraction ++ exponent))) (n * 10 ^ (e - fraction.length))

/-- A basic digit is no sign. -/
theorem ne_sign_of_isDigit {c : Char} (h : isDigit c = true) : c ≠ '-' ∧ c ≠ '+' :=
  ⟨fun hc => absurd (hc ▸ h) (by decide), fun hc => absurd (hc ▸ h) (by decide)⟩

/-- **An exponent** is read as its value. -/
theorem exponentValue?_eq_some {cs : List Char} {e : Int} :
    exponentValue? cs = some e ↔ ExponentText cs e := by
  -- the digits after the sign
  have hdigits : ∀ {sign digits : List Char} {negative : Bool}, SignText sign negative →
      (if digits ≠ [] ∧ digits.all isDigit then some (signedValue negative digits) else none)
        = some e → ExponentText ('e' :: (sign ++ digits)) e := by
    intro sign digits negative hsign h
    rw [Option.ite_none_right_eq_some, List.all_eq_true] at h
    obtain ⟨⟨hne, hall⟩, he⟩ := h
    obtain rfl := Option.some.inj he
    exact .some hsign hne (writes_ten_iff.mpr ⟨hall, rfl⟩)
  constructor
  · intro h
    unfold exponentValue? at h
    split at h
    · obtain rfl := Option.some.inj h
      exact .none
    · dsimp only at h
      split at h
      · exact hdigits .minus h
      · exact hdigits .plus h
      · exact hdigits .none h
    · cases h
  · intro h
    cases h with
    | none => rfl
    | @some sign digits negative n hsign hne hwrites =>
      obtain ⟨hall, rfl⟩ := writes_ten_iff.mp hwrites
      have hread : (if digits ≠ [] ∧ digits.all isDigit then some (signedValue negative digits)
          else none) = some (signedValue negative digits) :=
        if_pos ⟨hne, List.all_eq_true.mpr hall⟩
      refine Eq.trans ?_ hread
      cases hsign with
      | plus | minus => rfl
      | none =>
        obtain ⟨c, rest, rfl⟩ := List.exists_cons_of_ne_nil hne
        obtain ⟨hminus, hplus⟩ := ne_sign_of_isDigit (hall c List.mem_cons_self)
        simp [exponentValue?, hminus, hplus]

theorem head?_of_exponentText {cs : List Char} {e : Int} (h : ExponentText cs e) :
    ∀ c ∈ cs.head?, c = 'e' := by
  cases h with
  | none => exact fun c hc => absurd hc (Option.not_mem_none c)
  | some _ _ _ => exact fun c hc => (Option.some.inj hc).symm

/-- A fraction is split off the text behind it. -/
theorem splitFraction_eq (cs : List Char) : ∃ point fraction rest,
    splitFraction cs = (fraction, rest) ∧ cs = point ++ (fraction ++ rest) ∧
      (point = ['.'] ∨ point = [] ∧ fraction = []) ∧ ∀ c ∈ fraction, isDigit c = true := by
  unfold splitFraction
  split
  · next rest =>
    exact ⟨['.'], _, _, rfl, congrArg (List.cons '.') List.takeWhile_append_dropWhile.symm,
      .inl rfl, fun c => List.mem_takeWhile_imp⟩
  · exact ⟨[], [], cs, rfl, rfl, .inr ⟨rfl, rfl⟩, fun c hc => absurd hc List.not_mem_nil⟩

/-- A fraction before an exponent is split off, and stands behind no digit. -/
theorem splitFraction_append {point fraction rest : List Char}
    (hpoint : point = ['.'] ∨ point = [] ∧ fraction = [])
    (hfraction : ∀ c ∈ fraction, isDigit c = true) (hrest : ∀ c ∈ rest.head?, c = 'e') :
    splitFraction (point ++ (fraction ++ rest)) = (fraction, rest) ∧
      ∀ c ∈ (point ++ (fraction ++ rest)).head?, isDigit c = false := by
  have hstop : ∀ c ∈ rest.head?, isDigit c = false := fun c hc => by
    rw [hrest c hc]
    rfl
  rcases hpoint with rfl | ⟨rfl, rfl⟩
  · obtain ⟨htake, hdrop⟩ := Content.takeWhile_append_separate hfraction hstop
    refine ⟨Prod.ext htake hdrop, fun c hc => ?_⟩
    rw [← Option.some.inj hc]
    rfl
  · refine ⟨?_, hstop⟩
    show splitFraction rest = _
    unfold splitFraction
    split
    · exact absurd (hrest '.' rfl) (by decide)
    · rfl

/-- **A decimal without a sign** is read to the nearest double. -/
theorem unsigned?_eq_some {cs : List Char} {x : Float} :
    unsigned? cs = some x ↔ ∃ q, DecimalText cs q ∧ IsNearest q x := by
  constructor
  · intro h
    obtain ⟨point, fraction, rest, hsplit, hafter, hpoint, hfraction⟩ :=
      splitFraction_eq (cs.dropWhile isDigit)
    have hcs : cs = cs.takeWhile isDigit ++ (point ++ (fraction ++ rest)) := by
      rw [← hafter, List.takeWhile_append_dropWhile]
    have hwhole : ∀ c ∈ cs.takeWhile isDigit, isDigit c = true := fun c => List.mem_takeWhile_imp
    rw [unsigned?, hsplit] at h
    generalize cs.takeWhile isDigit = whole at h hcs hwhole
    dsimp only at h
    rw [Option.ite_none_left_eq_some, Option.map_eq_some_iff] at h
    obtain ⟨hne, e, he, hx⟩ := h
    have hdigits : ∀ c ∈ whole ++ fraction, isDigit c = true := fun c hc =>
      (List.mem_append.mp hc).elim (hwhole c) (hfraction c)
    have hne : whole ++ fraction ≠ [] := by
      rintro hnil
      obtain ⟨rfl, rfl⟩ := List.append_eq_nil_iff.mp hnil
      exact hne rfl
    rw [hcs]
    exact ⟨_, .mk hpoint hne (writes_ten_iff.mpr ⟨hdigits, rfl⟩) (exponentValue?_eq_some.mp he),
      (isNearest_decimal_iff _ _ _).mpr hx.symm⟩
  · rintro ⟨_, @⟨whole, point, fraction, exponent, n, e, hpoint, hne, hwrites, hexponent⟩, hx⟩
    obtain ⟨hdigits, rfl⟩ := writes_ten_iff.mp hwrites
    have hexp := exponentValue?_eq_some.mpr hexponent
    obtain ⟨hsplit, hafter⟩ := splitFraction_append hpoint
      (fun c hc => hdigits c (List.mem_append_right whole hc)) (head?_of_exponentText hexponent)
    obtain ⟨htake, hdrop⟩ := Content.takeWhile_append_separate
      (fun c hc => hdigits c (List.mem_append_left fraction hc)) hafter
    have hsome : ¬ (whole.isEmpty && fraction.isEmpty) = true := by
      rw [Bool.and_eq_true, List.isEmpty_iff, List.isEmpty_iff]
      rintro ⟨rfl, rfl⟩
      exact hne rfl
    rw [unsigned?, htake, hdrop, hsplit]
    dsimp only
    rw [if_neg hsome, hexp, (isNearest_decimal_iff _ _ _).mp hx]
    rfl

/-- **A decimal with an optional sign.** -/
theorem decimal?_eq_some {cs : List Char} {x : Float} :
    decimal? cs = some x ↔ ∃ sign unsigned negative q y, cs = sign ++ unsigned ∧
      SignText sign negative ∧ DecimalText unsigned q ∧ IsNearest q y ∧
      x = withSign negative y := by
  constructor
  · intro h
    unfold decimal? at h
    split at h
    · obtain ⟨y, hy, rfl⟩ := Option.map_eq_some_iff.mp h
      obtain ⟨q, hq, hnear⟩ := unsigned?_eq_some.mp hy
      exact ⟨['-'], _, true, q, y, rfl, .minus, hq, hnear, rfl⟩
    · obtain ⟨q, hq, hnear⟩ := unsigned?_eq_some.mp h
      exact ⟨['+'], _, false, q, x, rfl, .plus, hq, hnear, rfl⟩
    · obtain ⟨q, hq, hnear⟩ := unsigned?_eq_some.mp h
      exact ⟨[], _, false, q, x, rfl, .none, hq, hnear, rfl⟩
  · rintro ⟨sign, unsigned, negative, q, y, rfl, hsign, hdecimal, hnear, rfl⟩
    have hread := unsigned?_eq_some.mpr ⟨q, hdecimal, hnear⟩
    cases hsign with
    | minus => exact congrArg (Option.map (- ·)) hread
    | plus => exact hread
    | none =>
      -- no decimal without a sign begins with one
      show decimal? unsigned = some y
      unfold decimal?
      split
      · exact absurd hread (Option.some_ne_none y).symm
      · exact absurd hread (Option.some_ne_none y).symm
      · exact hread

/-! ## Texts -/

/-- **A text that writes a number**: nothing at all for zero, an integer below `2 ^ 64` in one
of three bases, or a decimal with an optional sign. -/
inductive NumberText : List Char → Float → Prop where
  | empty : NumberText [] 0
  | radix {letter : Char} {base : ℕ} {plus digits : List Char} {n : ℕ} {x : Float}
    (hbase : (letter, base) ∈ [('x', 16), ('o', 8), ('b', 2)]) (hplus : plus = [] ∨ plus = ['+'])
    (hne : digits ≠ []) (hdigits : Writes base digits n) (hsize : n < 2 ^ 64)
    (hx : IsNearest n x) : NumberText ('0' :: letter :: (plus ++ digits)) x
  | decimal {sign unsigned : List Char} {negative : Bool} {q : ℚ} {x : Float}
    (hsign : SignText sign negative) (hdecimal : DecimalText unsigned q) (hx : IsNearest q x) :
    NumberText (sign ++ unsigned) (withSign negative x)

theorem isNearest_natCast_iff (n : ℕ) (x : Float) : IsNearest n x ↔ x = ofNat n := by
  rw [ofNat, ← isNearest_iff n one_ne_zero, Nat.cast_one, div_one]

section Integers

variable {letter : Char} {base : ℕ} {digits : List Char} {x : Float}
  (hbase : (letter, base) ∈ [('x', 16), ('o', 8), ('b', 2)])
include hbase

theorem base_bounds : base ≤ 16 ∧ 0 < base := by
  have hall : ∀ entry ∈ [('x', 16), ('o', 8), ('b', 2)], entry.2 ≤ 16 ∧ 0 < entry.2 := by decide
  exact hall _ hbase

/-- An integer behind its prefix. -/
theorem numberText_of_inBase? (h : (inBase? base digits).map ofNat = some x) :
    NumberText ('0' :: letter :: digits) x := by
  obtain ⟨hle, hpos⟩ := base_bounds hbase
  obtain ⟨n, hn, rfl⟩ := Option.map_eq_some_iff.mp h
  obtain ⟨plus, rest, rfl, hplus, hne, hwrites, hsize⟩ := (inBase?_eq_some hle hpos).mp hn
  exact .radix hbase hplus hne hwrites hsize ((isNearest_natCast_iff n _).mpr rfl)

theorem ofText?_of_letter :
    ofText? ('0' :: letter :: digits) = (inBase? base digits).map ofNat := by
  simp only [List.mem_cons, Prod.mk.injEq, List.not_mem_nil, or_false] at hbase
  rcases hbase with ⟨rfl, rfl⟩ | ⟨rfl, rfl⟩ | ⟨rfl, rfl⟩ <;> rfl

end Integers

/-- **A text is read to the number that it writes.** -/
theorem ofText?_eq_some {cs : List Char} {x : Float} : ofText? cs = some x ↔ NumberText cs x := by
  constructor
  · intro h
    unfold ofText? at h
    split at h
    · obtain rfl := Option.some.inj h
      exact .empty
    · exact numberText_of_inBase? (.head _) h
    · exact numberText_of_inBase? (.tail _ (.head _)) h
    · exact numberText_of_inBase? (.tail _ (.tail _ (.head _))) h
    · obtain ⟨sign, unsigned, negative, q, y, rfl, hsign, hdecimal, hnear, rfl⟩ :=
        decimal?_eq_some.mp h
      exact .decimal hsign hdecimal hnear
  · intro h
    cases h with
    | empty => rfl
    | radix hbase hplus hne hwrites hsize hx =>
      obtain ⟨hle, hpos⟩ := base_bounds hbase
      have hread := (inBase?_eq_some hle hpos).mpr ⟨_, _, rfl, hplus, hne, hwrites, hsize⟩
      rw [ofText?_of_letter hbase, hread, (isNearest_natCast_iff _ _).mp hx]
      rfl
    | decimal hsign hdecimal hx =>
      have hread := decimal?_eq_some.mpr ⟨_, _, _, _, _, rfl, hsign, hdecimal, hx, rfl⟩
      -- no decimal is empty or has the letter of a prefix behind a zero
      unfold ofText?
      split
      · next heq => exact absurd (heq ▸ hread) (Option.some_ne_none _).symm
      · next heq => exact absurd (heq ▸ hread) (Option.some_ne_none _).symm
      · next heq => exact absurd (heq ▸ hread) (Option.some_ne_none _).symm
      · next heq => exact absurd (heq ▸ hread) (Option.some_ne_none _).symm
      · exact hread

/-- A decimal is read as bits of a number. -/
theorem exists_bits_nearest (n : ℕ) (e : Int) :
    ∃ bits ≤ infinityBits, nearest n e = .ofBits bits.toUInt64 := by
  have hzero : (0 : Float) = .ofBits (0 : ℕ).toUInt64 := rfl
  have hbits : ∀ p q : ℕ, nearestBits p q ≤ infinityBits := by
    intro p q
    unfold nearestBits
    split
    · exact Nat.zero_le _
    · exact Nat.min_le_right _ _
  unfold nearest
  dsimp only
  split
  · exact ⟨0, Nat.zero_le _, hzero⟩
  split
  · exact ⟨infinityBits, le_refl _, rfl⟩
  split
  · exact ⟨0, Nat.zero_le _, hzero⟩
  · exact ⟨_, hbits _ _, rfl⟩

/-- **What a text writes is a number.** -/
theorem NumberText.isNaN {cs : List Char} {x : Float} (h : NumberText cs x) : x.isNaN = false := by
  have hnearest : ∀ n e negative, (withSign negative (nearest n e)).isNaN = false := by
    intro n e negative
    obtain ⟨bits, hle, hbits⟩ := exists_bits_nearest n e
    rw [hbits]
    exact isNaN_withSign hle negative
  cases h with
  | empty => rfl
  | @radix _ _ _ _ n _ _ _ _ _ _ hx =>
    have hdecimal : IsNearest (n * 10 ^ (0 : Int)) x := by rwa [zpow_zero, mul_one]
    rw [(isNearest_decimal_iff n 0 x).mp hdecimal]
    exact hnearest n 0 false
  | decimal _ hdecimal hx =>
    cases hdecimal
    rw [(isNearest_decimal_iff _ _ _).mp hx]
    exact hnearest _ _ _

/-! ## Numerals -/

/-- **The numerals**, and their numbers: a dash for none, the three signs for amounts below
zero, and the texts that write numbers. -/
inductive IsNumeral : List Char → Option Float → Prop where
  | dash : IsNumeral ['-'] none
  | letter : IsNumeral ['x'] (some (-2))
  | star : IsNumeral ['*'] (some (-3))
  | mark : IsNumeral ['?'] (some (-4))
  | number {cs : List Char} {x : Float} (h : NumberText cs x) : IsNumeral cs (some x)

theorem IsNumeral.isNaN {cs : List Char} {r : Option Float} (h : IsNumeral cs r) :
    ∀ x, r = some x → x.isNaN = false := by
  rintro x hr
  cases h with
  | dash => cases hr
  | letter | star | mark =>
    rw [← Option.some.inj hr]
    rfl
  | number h => exact Option.some.inj hr ▸ h.isNaN

end CardQuery.Number

namespace CardQuery.Value

open Number

/-- None of the four signs writes a number. -/
theorem not_numberText_sign {c : Char} (h : c ∈ ['-', 'x', '*', '?']) (x : Float) :
    ¬ NumberText [c] x := by
  intro hx
  have hread := ofText?_eq_some.mpr hx
  simp only [List.mem_cons, List.not_mem_nil, or_false] at h
  rcases h with rfl | rfl | rfl | rfl <;>
    exact absurd hread (Option.some_ne_none x).symm

theorem numberOfText_eq_ok {s : String} {r : Option Float} :
    numberOfText s = .ok r ↔ IsNumeral (Text.lowercase (Text.trim s)).toList r := by
  have hsign : ∀ {c : Char} {x : Float}, NumberText [c] x → c ∉ ['-', 'x', '*', '?'] :=
    fun hx hc => not_numberText_sign hc _ hx
  unfold numberOfText
  generalize (Text.lowercase (Text.trim s)).toList = t
  constructor
  · intro h
    split at h
    · exact Except.ok.inj h ▸ .dash
    · exact Except.ok.inj h ▸ .letter
    · exact Except.ok.inj h ▸ .star
    · exact Except.ok.inj h ▸ .mark
    · split at h
      · next hx => exact Except.ok.inj h ▸ .number (ofText?_eq_some.mp hx)
      · cases h
  · intro h
    cases h with
    | dash | letter | star | mark => rfl
    | number hx =>
      split
      · exact absurd (by decide) (hsign hx)
      · exact absurd (by decide) (hsign hx)
      · exact absurd (by decide) (hsign hx)
      · exact absurd (by decide) (hsign hx)
      · rw [ofText?_eq_some.mpr hx]

theorem numberOfText_eq_error {s : String} {e : EvalError} :
    numberOfText s = .error e ↔ e = .notNumeric s ∧
      ∀ r, ¬ IsNumeral (Text.lowercase (Text.trim s)).toList r := by
  have hkind : ∀ {e}, numberOfText s = .error e → e = .notNumeric s := by
    intro e h
    unfold numberOfText at h
    split at h
    · cases h
    · cases h
    · cases h
    · cases h
    · split at h
      · cases h
      · exact (Except.error.inj h).symm
  constructor
  · intro h
    refine ⟨hkind h, fun r hr => ?_⟩
    rw [numberOfText_eq_ok.mpr hr] at h
    cases h
  · rintro ⟨rfl, hnone⟩
    cases hresult : numberOfText s with
    | ok r => exact absurd (numberOfText_eq_ok.mp hresult) (hnone r)
    | error e => rw [hkind hresult]

/-- **A string is the number of its numeral**, which is looked for in lowercase and without the
blanks at the ends, and an error that shows the string if it is none. What is not a number is
never the result. -/
theorem toNumber_string (s : String) :
    (∀ r, (string s).toNumber = .ok r ↔ IsNumeral (Text.lowercase (Text.trim s)).toList r) ∧
      (∀ e, (string s).toNumber = .error e ↔ e = .notNumeric s ∧
        ∀ r, ¬ IsNumeral (Text.lowercase (Text.trim s)).toList r) ∧
      ∀ x, (string s).toNumber = .ok (some x) → x.isNaN = false := by
  have hstring : (string s).toNumber = numberOfText s := rfl
  rw [hstring]
  exact ⟨fun r => numberOfText_eq_ok, fun e => numberOfText_eq_error, fun x hx =>
    (numberOfText_eq_ok.mp hx).isNaN x rfl⟩

end CardQuery.Value
