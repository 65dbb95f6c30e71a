import CardQuery.Proofs.Text.Lowercase
import CardQuery.Proofs.Text.Words
import CardQuery.Text.Unmarked
import Mathlib.Data.List.Basic

/-!
# Marks, case and blanks

To drop the marks of a text and to put it in lowercase are two steps, and it does not matter
for a character which one comes first (`flatMap_unmarked_lowercaseChar`). Nor does it matter
whether marks are dropped once or twice (`unmarked_of_mem`), or before or after the blanks around
a text (`trimChars_flatMap_unmarked`).

These are facts about tables of thousands of characters, which are checked entry by entry. A
check asks many times whether a code point is in some table, so the tables are first turned into
sets, each of them one number with a bit for every code point (`codeSet`).
-/

namespace CardQuery.Text

/-! ## Sets of code points -/

/-- **A set of code points** as the bits of a number. -/
def codeSet (codes : List Nat) : Nat := codes.foldr (fun n set => set ||| 1 <<< n) 0

theorem testBit_codeSet {codes : List Nat} {n : Nat} :
    (codeSet codes).testBit n = true ↔ n ∈ codes := by
  induction codes with
  | nil => simp [codeSet]
  | cons m codes ih =>
    have hset : codeSet (m :: codes) = codeSet codes ||| 1 <<< m := rfl
    rw [hset, Nat.testBit_or, Bool.or_eq_true, ih, Nat.one_shiftLeft, Nat.testBit_two_pow,
      decide_eq_true_iff, List.mem_cons, or_comm, eq_comm]

/-- The code points of a range. -/
def CodeRange.codes (r : CodeRange) : List Nat :=
  List.range' r.first ((r.last - r.first) / r.step + 1) r.step

theorem CodeRange.mem_codes {r : CodeRange} {n : Nat} (h : r.holds n = true) (hn : n ≤ r.last) :
    n ∈ r.codes := by
  simp only [holds, Bool.and_eq_true, decide_eq_true_eq, beq_iff_eq] at h
  obtain ⟨hfirst, hmod⟩ := h
  refine List.mem_range'.mpr ⟨(n - r.first) / r.step, ?_, ?_⟩
  · exact Nat.lt_succ_of_le (Nat.div_le_div_right (Nat.sub_le_sub_right hn r.first))
  · have hdiv := Nat.div_add_mod (n - r.first) r.step
    omega

theorem CodeRange.holds_of_mem_codes {r : CodeRange} {n : Nat} (h : n ∈ r.codes) :
    r.holds n = true := by
  obtain ⟨i, -, rfl⟩ := List.mem_range'.mp h
  rw [holds, Nat.add_sub_cancel_left, Nat.mul_mod_right, decide_eq_true (Nat.le_add_right _ _)]
  rfl

/-- The code points of a range as a set. Without gaps they are a run of ones. -/
def CodeRange.set (r : CodeRange) : Nat :=
  bif r.step.beq 1 then (1 <<< (r.last + 1 - r.first) - 1) <<< r.first else codeSet r.codes

/-- The code points of a table as a set. -/
def tableSet (table : List CodeRange) : Nat := table.foldr (fun r set => set ||| r.set) 0

theorem CodeRange.testBit_set {r : CodeRange} {n : Nat} (h : r.holds n = true)
    (hn : n ≤ r.last) : r.set.testBit n = true := by
  unfold set
  cases hstep : r.step.beq 1 with
  | true =>
    have hfirst : r.first ≤ n := of_decide_eq_true ((Bool.and_eq_true _ _).mp h).1
    rw [cond_true, Nat.testBit_shiftLeft, Nat.one_shiftLeft, Nat.testBit_two_pow_sub_one,
      Bool.and_eq_true, decide_eq_true_iff, decide_eq_true_iff]
    omega
  | false => exact testBit_codeSet.mpr (mem_codes h hn)

theorem testBit_tableSet {table : List CodeRange} {n : Nat} (h : tableHolds table n = true) :
    (tableSet table).testBit n = true := by
  induction table with
  | nil => cases h
  | cons r rest ih =>
    have hset : tableSet (r :: rest) = tableSet rest ||| r.set := rfl
    rw [tableHolds] at h
    rw [hset, Nat.testBit_or, Bool.or_eq_true]
    split at h
    · next hlast => exact .inr (CodeRange.testBit_set h hlast)
    · exact .inl (ih h)

/-- All marks. -/
def markSet : Nat :=
  tableSet nonspacingMarkTable ||| tableSet spacingMarkTable ||| tableSet enclosingMarkTable

/-- All characters that lowercasing moves, but for the capital I with a dot. -/
def capitalSet : Nat := codeSet (lowercaseShifts.flatMap fun s => s.range.codes)

/-- All characters whose decomposition is in the table of bases. -/
def composedSet : Nat := codeSet (baseTable.map Prod.fst)

theorem testBit_markSet {c : Char} (h : isMark c = true) : markSet.testBit c.toNat = true := by
  rw [isMark, Bool.or_eq_true, Bool.or_eq_true] at h
  rw [markSet, Nat.testBit_or, Nat.testBit_or, Bool.or_eq_true, Bool.or_eq_true]
  exact h.imp (Or.imp testBit_tableSet testBit_tableSet) testBit_tableSet

theorem testBit_capitalSet {n : Nat} {s : CodeShift} (hs : s ∈ lowercaseShifts)
    (hholds : s.range.holds n = true) (hle : n ≤ s.range.last) : capitalSet.testBit n = true :=
  testBit_codeSet.mpr (List.mem_flatMap.mpr ⟨s, hs, CodeRange.mem_codes hholds hle⟩)

/-- **An ascending table of shifts moves what a range of it holds.** -/
theorem shiftCode_of_mem {start n : Nat} {shifts : List CodeShift}
    (h : ascends start (shifts.map (·.range)) = true) {s : CodeShift} (hs : s ∈ shifts)
    (hholds : s.range.holds n = true) (hn : n ≤ s.range.last) :
    shiftCode shifts n = ((n : Int) + s.distance).toNat := by
  induction shifts generalizing start with
  | nil => cases hs
  | cons t rest ih =>
    rw [List.map_cons, ascends, Bool.and_eq_true] at h
    rw [shiftCode]
    rcases List.mem_cons.mp hs with rfl | hs
    · rw [if_pos hn, if_pos hholds]
    · have hfirst := le_first_of_ascends h.2 (List.mem_map_of_mem hs)
      have hge : s.range.first ≤ n := of_decide_eq_true ((Bool.and_eq_true _ _).mp hholds).1
      rw [if_neg (by omega)]
      exact ih h.2 hs

/-- What is no capital stays. -/
theorem shiftCode_of_not_capital {n : Nat} (h : capitalSet.testBit n = false) :
    shiftCode lowercaseShifts n = n := by
  refine (shiftCode_cases lowercaseShifts n).resolve_right fun ⟨s, hs, hholds, hle, _⟩ => ?_
  rw [testBit_capitalSet hs hholds hle] at h
  cases h

/-! ## Bases -/

/-- Whether a code point is neither a syllable of Hangul nor a vowel sign with several
bases. -/
def isSimple (n : Nat) : Bool :=
  !(Nat.ble 0xAC00 n && Nat.ble n 0xD7A3) && !(Nat.ble 0x16D68 n && Nat.ble n 0x16D6A)

/-- The base of a simple code point. -/
def baseOf (n : Nat) : Nat := ((baseTable.find? (·.1 == n)).map Prod.snd).getD n

theorem baseOf_cases (n : Nat) :
    composedSet.testBit n = false ∧ baseTable.find? (·.1 == n) = none ∧ baseOf n = n ∨
      ∃ e ∈ baseTable, e.1 = n ∧ baseTable.find? (·.1 == n) = some e ∧ baseOf n = e.2 := by
  unfold baseOf
  cases h : baseTable.find? (·.1 == n) with
  | none =>
    refine .inl ⟨Bool.eq_false_iff.mpr fun hn => ?_, rfl, rfl⟩
    obtain ⟨e, he, rfl⟩ := List.mem_map.mp (testBit_codeSet.mp hn)
    exact absurd (beq_self_eq_true e.1) (List.find?_eq_none.mp h e he)
  | some e =>
    exact .inr ⟨e, List.mem_of_find?_eq_some h, beq_iff_eq.mp (List.find?_some h :), rfl, rfl⟩

theorem baseOf_of_not_composed {n : Nat} (h : composedSet.testBit n = false) : baseOf n = n := by
  rcases baseOf_cases n with ⟨-, -, hbase⟩ | ⟨e, he, rfl, -⟩
  · exact hbase
  · rw [composedSet, testBit_codeSet.mpr (List.mem_map_of_mem he)] at h
    cases h

/-! ## What the tables agree on -/

/-- Whether a number is the code point of a character. -/
def isCode (n : Nat) : Bool := Nat.blt n 0xD800 || Nat.blt 0xDFFF n && Nat.blt n 0x110000

/-- **Whether a code point is a base of its own**: no mark, and without a decomposition. -/
def isBase (n : Nat) : Bool :=
  isCode n && isSimple n && !markSet.testBit n && !composedSet.testBit n

/-- Whether a code point is a base of its own that stays in lowercase. -/
def isSmallBase (n : Nat) : Bool := isBase n && !capitalSet.testBit n && !n.beq 0x130

/-- The check of the table of bases: what a decomposition leaves is a base of its own, and one
that stays in lowercase if the whole does. It is neither the dotted capital nor the capital
sigma. -/
def basesAgree : Bool :=
  baseTable.all fun e => Nat.ble 0xC0 e.1 && isBase e.2 && !e.2.beq 0x130 && !e.2.beq 0x3A3 &&
    (e.1.beq 0x130 || !capitalSet.testBit e.2 || capitalSet.testBit e.1)

/-- The check of what has several bases, which are the letters of Hangul syllables and the parts
of vowel signs: they are bases of their own that stay in lowercase. So are the small sigmas bases
of their own. -/
def partsAgree : Bool :=
  (List.range' 0x1100 0x100).all isSmallBase &&
    (severalBasesTable.all fun e => !composedSet.testBit e.1 && e.2.all isSmallBase) &&
    isBase 'ς'.toNat && isBase 'σ'.toNat

/-- The bases of all letters with case, 18 bits for each code point. -/
def letterBases : Nat :=
  baseTable.foldr (fun e word => bif e.1.blt 0x2200 then word ||| e.2 <<< (18 * e.1) else word) 0

/-- The base of a letter as it is looked up there. -/
def letterBase (n : Nat) : Nat :=
  bif composedSet.testBit n then letterBases >>> (18 * n) % 0x40000 else n

/-- Whether the words of bases say what their table says. -/
def letterBasesAgree : Bool := baseTable.all fun e => !e.1.blt 0x2200 || (letterBase e.1).beq e.2

/-- The check of a capital and its small character: **the base of the small one is the small
base**. Each of them has one base, and the small one is no mark. -/
def capitalAgrees (n small : Nat) : Bool :=
  isSimple n && isCode small && isSimple small && !markSet.testBit small &&
    bif composedSet.testBit n then
      n.blt 0x2200 && small.blt 0x2200 &&
        (letterBase small).beq (shiftCode lowercaseShifts (letterBase n))
    else !composedSet.testBit small

/-- The check of all capitals. -/
def capitalsAgree : Bool :=
  ascends 0 (lowercaseShifts.map (·.range)) && (markSet &&& capitalSet).beq 0 &&
    (lowercaseShifts.all fun s => s.range.codes.all fun n =>
      n.ble s.range.last && capitalAgrees n ((n : Int) + s.distance).toNat) &&
    (lowercaseChar 'İ').flatMap unmarked == (unmarked 'İ').flatMap lowercaseChar

/-- The check of the blanks: the base of a blank is a blank, and no blank is a letter. -/
def blanksAgree : Bool :=
  blankCodes.all fun n => isSimple n && !isLetter (.ofNat n) &&
    (!composedSet.testBit n || n.blt 0x2200 && isBlank (.ofNat (letterBase n)))

set_option maxRecDepth 100000 in
/-- **The tables of marks, bases, capitals and blanks agree.** -/
theorem tables_agree : basesAgree = true ∧ partsAgree = true ∧ letterBasesAgree = true ∧
    capitalsAgree = true ∧ blanksAgree = true := by
  decide +kernel

/-! ## Bases of code points -/

/-- What a base from the table is. -/
theorem isBase_of_mem_baseTable {e : Nat × Nat} (he : e ∈ baseTable) :
    0xC0 ≤ e.1 ∧ isBase e.2 = true ∧ e.2 ≠ 0x130 ∧ e.2 ≠ 0x3A3 ∧
      (e.1 ≠ 0x130 → capitalSet.testBit e.1 = false → capitalSet.testBit e.2 = false) := by
  have hall := List.all_eq_true.mp tables_agree.1 e he
  simp only [Bool.and_eq_true, Bool.or_eq_true, Bool.not_eq_true', Nat.ble_eq, Nat.beq_eq,
    ← Bool.not_eq_true] at hall
  obtain ⟨⟨⟨⟨hle, hbase⟩, hdot⟩, hsigma⟩, hcase⟩ := hall
  refine ⟨hle, hbase, hdot, hsigma, fun hne hstays => ?_⟩
  rcases hcase with (heq | hsmall) | hmoves
  · exact absurd heq hne
  · exact Bool.eq_false_iff.mpr hsmall
  · rw [hstays] at hmoves
    cases hmoves

theorem find?_severalBasesTable {n : Nat} (h : isSimple n = true) :
    severalBasesTable.find? (·.1 == n) = none := by
  rw [List.find?_eq_none]
  simp only [isSimple, Bool.and_eq_true, Bool.not_eq_true', ← Bool.not_eq_true,
    Nat.ble_eq] at h
  simp only [severalBasesTable, List.forall_mem_cons, beq_iff_eq]
  refine ⟨?_, ?_, ?_, fun _ hmem => absurd hmem List.not_mem_nil⟩ <;> omega

/-- **A simple code point has one base.** -/
theorem bases_of_isSimple {n : Nat} (h : isSimple n = true) : bases n = [baseOf n] := by
  have hseveral := find?_severalBasesTable h
  simp only [isSimple, Bool.and_eq_true, Bool.not_eq_true', ← Bool.not_eq_true,
    Nat.ble_eq] at h
  rw [bases, if_neg (by omega)]
  rcases baseOf_cases n with ⟨-, hnone, hbase⟩ | ⟨e, he, rfl, hfind, hbase⟩
  · rw [hnone, hseveral, hbase, ite_self]
  · obtain ⟨hle, -⟩ := isBase_of_mem_baseTable he
    rw [if_neg (by omega), hfind, hbase]

/-- The base of a code point below `0x2200`. -/
theorem baseOf_eq_letterBase {n : Nat} (h : n < 0x2200) : baseOf n = letterBase n := by
  rcases baseOf_cases n with ⟨hcomposed, -, hbase⟩ | ⟨e, he, rfl, -, hbase⟩
  · rw [hbase, letterBase, hcomposed, cond_false]
  · have hall := List.all_eq_true.mp tables_agree.2.2.1 e he
    rw [Nat.blt_eq.mpr h, Bool.not_true, Bool.false_or] at hall
    rw [hbase, Nat.eq_of_beq_eq_true hall]

theorem bases_of_mem_severalBasesTable {e : Nat × List Nat} (he : e ∈ severalBasesTable)
    (h : composedSet.testBit e.1 = false) : bases e.1 = e.2 := by
  have hnone : baseTable.find? (·.1 == e.1) = none := by
    rcases baseOf_cases e.1 with ⟨-, hnone, -⟩ | ⟨d, hd, hcode, -⟩
    · exact hnone
    · rw [composedSet, testBit_codeSet.mpr (hcode ▸ List.mem_map_of_mem hd)] at h
      cases h
  have hrange : ∀ e ∈ severalBasesTable, 0xD7A3 < e.1 ∧
      severalBasesTable.find? (·.1 == e.1) = some e := by decide
  obtain ⟨hle, hfind⟩ := hrange e he
  rw [bases, if_neg (by omega), if_neg (by omega), hnone, hfind]

theorem parts_agree : (List.range' 0x1100 0x100).all isSmallBase = true ∧
    (severalBasesTable.all fun e => !composedSet.testBit e.1 && e.2.all isSmallBase) = true ∧
    isBase 'ς'.toNat = true ∧ isBase 'σ'.toNat = true := by
  simpa only [partsAgree, Bool.and_eq_true, and_assoc] using tables_agree.2.1

/-- **What has several bases** has small ones. -/
theorem isSmallBase_of_not_isSimple {n : Nat} (h : isSimple n = false) :
    ∀ m ∈ bases n, isSmallBase m = true := by
  intro m hm
  simp only [isSimple, Bool.and_eq_false_iff, Bool.not_eq_false', Bool.and_eq_true,
    Nat.ble_eq] at h
  rcases h with hhangul | hvowel
  · rw [bases, if_pos hhangul] at hm
    refine List.all_eq_true.mp parts_agree.1 m ?_
    rw [List.mem_range'_1]
    simp only [hangulLetters] at hm
    split at hm <;> simp only [List.mem_cons, List.not_mem_nil, or_false] at hm <;> omega
  · obtain ⟨e, he, rfl⟩ : ∃ e ∈ severalBasesTable, e.1 = n := by
      obtain rfl | rfl | rfl : n = 0x16D68 ∨ n = 0x16D69 ∨ n = 0x16D6A := by omega
      · exact ⟨_, .head _, rfl⟩
      · exact ⟨_, .tail _ (.head _), rfl⟩
      · exact ⟨_, .tail _ (.tail _ (.head _)), rfl⟩
    have hall := List.all_eq_true.mp parts_agree.2.1 e he
    rw [Bool.and_eq_true, Bool.not_eq_true'] at hall
    rw [bases_of_mem_severalBasesTable he hall.1] at hm
    exact List.all_eq_true.mp hall.2 m hm

/-! ## Characters -/

theorem toNat_ofNat_of_isCode {n : Nat} (h : isCode n = true) : (Char.ofNat n).toNat = n := by
  simp only [isCode, Bool.or_eq_true, Bool.and_eq_true, Nat.blt_eq] at h
  rw [Char.ofNat, dif_pos (show n.isValidChar from h)]
  rfl

theorem isSmallBase_iff {n : Nat} : isSmallBase n = true ↔
    isBase n = true ∧ capitalSet.testBit n = false ∧ n ≠ 0x130 := by
  rw [isSmallBase, Bool.and_eq_true, Bool.and_eq_true, Bool.not_eq_true', Bool.not_eq_true',
    and_assoc, ← Bool.not_eq_true (n.beq 0x130), Nat.beq_eq]

theorem isCode_of_isBase {n : Nat} (h : isBase n = true) : isCode n = true := by
  simp only [isBase, Bool.and_eq_true] at h
  exact h.1.1.1

theorem eq_toNat_of_isBase {n : Nat} {c : Char} (h : isBase n = true) (hc : c = Char.ofNat n) :
    n = c.toNat := by
  rw [hc, toNat_ofNat_of_isCode (isCode_of_isBase h)]

theorem isMark_eq_false {c : Char} (h : markSet.testBit c.toNat = false) : isMark c = false :=
  Bool.eq_false_iff.mpr fun hmark => by rw [testBit_markSet hmark] at h; cases h

/-- What a simple character is without its marks. -/
theorem unmarked_of_isSimple {c : Char} (hmark : isMark c = false)
    (h : isSimple c.toNat = true) : unmarked c = [Char.ofNat (baseOf c.toNat)] := by
  rw [unmarked, hmark, bases_of_isSimple h]
  rfl

/-- **A base of its own has no marks to lose.** -/
theorem unmarked_ofNat {n : Nat} (h : isBase n = true) : unmarked (.ofNat n) = [.ofNat n] := by
  simp only [isBase, Bool.and_eq_true, Bool.not_eq_true'] at h
  obtain ⟨⟨⟨hcode, hsimple⟩, hmark⟩, hcomposed⟩ := h
  have hnat := toNat_ofNat_of_isCode hcode
  rw [unmarked_of_isSimple (isMark_eq_false (hnat.symm ▸ hmark)) (hnat.symm ▸ hsimple), hnat,
    baseOf_of_not_composed hcomposed]

theorem lowercaseChar_ofNat {n : Nat} (hcode : isCode n = true) (hdot : n ≠ 0x130) :
    lowercaseChar (.ofNat n) = [.ofNat (shiftCode lowercaseShifts n)] := by
  have hnat := toNat_ofNat_of_isCode hcode
  rw [lowercaseChar, if_neg, shiftChar, hnat]
  exact fun heq => hdot (hnat.symm.trans (congrArg Char.toNat heq))

/-- A character that is no capital stays in lowercase. -/
theorem lowercaseChar_eq_self {c : Char} (hdot : c ≠ 'İ')
    (h : capitalSet.testBit c.toNat = false) : lowercaseChar c = [c] := by
  rw [lowercaseChar, if_neg hdot, shiftChar, shiftCode_of_not_capital h, Char.ofNat_toNat]

/-- **The ways a character loses its marks**: it is a mark, it stays, it has one base in the
table, or it has several. -/
theorem unmarked_cases (c : Char) :
    unmarked c = [] ∨ unmarked c = [c] ∨
      (∃ e ∈ baseTable, e.1 = c.toNat ∧ unmarked c = [Char.ofNat e.2]) ∨
      ∃ ns : List Nat, unmarked c = ns.map Char.ofNat ∧ ∀ n ∈ ns, isSmallBase n = true := by
  cases hmark : isMark c with
  | true => exact .inl (by rw [unmarked, hmark, if_pos rfl])
  | false =>
    refine .inr ?_
    by_cases hsimple : isSimple c.toNat = true
    · rw [unmarked_of_isSimple hmark hsimple]
      rcases baseOf_cases c.toNat with ⟨-, -, hbase⟩ | ⟨e, he, hcode, -, hbase⟩
      · exact .inl (by rw [hbase, Char.ofNat_toNat])
      · exact .inr (.inl ⟨e, he, hcode, by rw [hbase]⟩)
    · refine .inr (.inr ⟨bases c.toNat, by rw [unmarked, hmark]; rfl, ?_⟩)
      exact isSmallBase_of_not_isSimple (Bool.eq_false_iff.mpr hsimple)

/-- **What is left of a character has no more marks to lose.** -/
theorem unmarked_of_mem {c d : Char} (h : d ∈ unmarked c) : unmarked d = [d] := by
  rcases unmarked_cases c with hc | hc | ⟨e, he, -, hc⟩ | ⟨ns, hc, hns⟩
  · rw [hc] at h
    cases h
  · rw [hc] at h
    rw [List.mem_singleton.mp h, hc]
  · rw [hc] at h
    rw [List.mem_singleton.mp h]
    exact unmarked_ofNat (isBase_of_mem_baseTable he).2.1
  · rw [hc] at h
    obtain ⟨n, hn, rfl⟩ := List.mem_map.mp h
    exact unmarked_ofNat (isSmallBase_iff.mp (hns n hn)).1

/-- Nothing but a capital sigma leaves a capital sigma. -/
theorem sigma_of_mem_unmarked {c : Char} (h : 'Σ' ∈ unmarked c) : c = 'Σ' := by
  rcases unmarked_cases c with hc | hc | ⟨e, he, -, hc⟩ | ⟨ns, hc, hns⟩
  · rw [hc] at h
    cases h
  · rw [hc] at h
    exact (List.mem_singleton.mp h).symm
  · obtain ⟨-, hbase, -, hsigma, -⟩ := isBase_of_mem_baseTable he
    rw [hc] at h
    exact absurd (eq_toNat_of_isBase hbase (List.mem_singleton.mp h)) hsigma
  · rw [hc] at h
    obtain ⟨n, hn, heq⟩ := List.mem_map.mp h
    obtain ⟨hbase, hcapital, -⟩ := isSmallBase_iff.mp (hns n hn)
    rw [eq_toNat_of_isBase hbase heq.symm] at hcapital
    -- the capital sigma is moved itself
    exact absurd (shiftCode_of_not_capital hcapital) (by decide)

/-! ## Case and marks -/

/-- A text stays if each of its characters does. -/
theorem flatMap_eq_self {f : Char → List Char} {cs : List Char} (h : ∀ c ∈ cs, f c = [c]) :
    cs.flatMap f = cs := by
  rw [List.flatMap_congr h, List.flatMap_singleton']

theorem capitals_agree : ascends 0 (lowercaseShifts.map (·.range)) = true ∧
    markSet &&& capitalSet = 0 ∧
    (∀ s ∈ lowercaseShifts, ∀ n ∈ s.range.codes, n ≤ s.range.last ∧
      capitalAgrees n ((n : Int) + s.distance).toNat = true) ∧
    (lowercaseChar 'İ').flatMap unmarked = (unmarked 'İ').flatMap lowercaseChar := by
  simpa only [capitalsAgree, Bool.and_eq_true, Nat.beq_eq, List.all_eq_true, Nat.ble_eq,
    beq_iff_eq, and_assoc] using tables_agree.2.2.2.1

/-- A capital is no mark. -/
theorem isMark_of_capital {c : Char} (h : capitalSet.testBit c.toNat = true) :
    isMark c = false := by
  have hboth : (markSet &&& capitalSet).testBit c.toNat = false := by
    rw [capitals_agree.2.1, Nat.zero_testBit]
  rw [Nat.testBit_and, h, Bool.and_true] at hboth
  exact isMark_eq_false hboth

/-- What is left of a character that stays in lowercase stays, too. -/
theorem lowercaseChar_of_mem_unmarked {c d : Char} (hdot : c ≠ 'İ')
    (hc : capitalSet.testBit c.toNat = false) (h : d ∈ unmarked c) :
    lowercaseChar d = [d] := by
  rcases unmarked_cases c with hbases | hbases | ⟨e, he, hcode, hbases⟩ | ⟨ns, hbases, hns⟩
  · rw [hbases] at h
    cases h
  · rw [hbases] at h
    rw [List.mem_singleton.mp h, lowercaseChar_eq_self hdot hc]
  · obtain ⟨-, hbase, hne, -, hstays⟩ := isBase_of_mem_baseTable he
    rw [hbases] at h
    rw [List.mem_singleton.mp h, lowercaseChar_ofNat (isCode_of_isBase hbase) hne,
      shiftCode_of_not_capital]
    refine hstays (fun heq => hdot ?_) (hcode.symm ▸ hc)
    exact Char.toNat_inj.mp (hcode.symm.trans heq)
  · rw [hbases] at h
    obtain ⟨n, hn, rfl⟩ := List.mem_map.mp h
    obtain ⟨hbase, hcapital, hne⟩ := isSmallBase_iff.mp (hns n hn)
    rw [lowercaseChar_ofNat (isCode_of_isBase hbase) hne, shiftCode_of_not_capital hcapital]

/-- **The base of what a capital moves to is what its base moves to.** -/
theorem unmarked_shiftChar {c : Char} (hdot : c ≠ 'İ')
    (hcapital : capitalSet.testBit c.toNat = true) :
    unmarked (shiftChar lowercaseShifts c) = (unmarked c).flatMap lowercaseChar := by
  obtain ⟨s, hs, hmem⟩ := List.mem_flatMap.mp (testBit_codeSet.mp hcapital)
  obtain ⟨hle, hsmall⟩ := capitals_agree.2.2.1 s hs _ hmem
  have hcode := shiftCode_of_mem capitals_agree.1 hs (CodeRange.holds_of_mem_codes hmem) hle
  rw [shiftChar, hcode]
  generalize ((c.toNat : Int) + s.distance).toNat = small at hcode hsmall
  simp only [capitalAgrees, Bool.and_eq_true, Bool.not_eq_true'] at hsmall
  obtain ⟨⟨⟨⟨hsimple, hvalid⟩, hone⟩, hmark⟩, hbases⟩ := hsmall
  have hnat := toNat_ofNat_of_isCode hvalid
  rw [unmarked_of_isSimple (isMark_of_capital hcapital) hsimple,
    unmarked_of_isSimple (isMark_eq_false (hnat.symm ▸ hmark)) (hnat.symm ▸ hone), hnat,
    List.flatMap_singleton]
  rcases baseOf_cases c.toNat with ⟨hcomposed, -, hbase⟩ | ⟨e, he, hecode, -, hbase⟩
  · -- neither has a decomposition
    rw [hcomposed, cond_false, Bool.not_eq_true'] at hbases
    rw [hbase, Char.ofNat_toNat, lowercaseChar, if_neg hdot, shiftChar, hcode,
      baseOf_of_not_composed hbases]
  · have hcomposed : composedSet.testBit c.toNat = true :=
      testBit_codeSet.mpr (hecode ▸ List.mem_map_of_mem he)
    rw [hcomposed, cond_true, Bool.and_eq_true, Bool.and_eq_true, Nat.blt_eq, Nat.blt_eq,
      Nat.beq_eq] at hbases
    obtain ⟨⟨hlow, hsmalllow⟩, hmoves⟩ := hbases
    rw [← baseOf_eq_letterBase hlow, ← baseOf_eq_letterBase hsmalllow, hbase] at hmoves
    obtain ⟨-, hcbase, hne, -⟩ := isBase_of_mem_baseTable he
    rw [hmoves, hbase, lowercaseChar_ofNat (isCode_of_isBase hcbase) hne]

/-- **Case and marks do not interfere.** A character in lowercase without its marks is the
character without its marks in lowercase. -/
theorem flatMap_unmarked_lowercaseChar (c : Char) :
    (lowercaseChar c).flatMap unmarked = (unmarked c).flatMap lowercaseChar := by
  by_cases hdot : c = 'İ'
  · rw [hdot]
    exact capitals_agree.2.2.2
  cases hcapital : capitalSet.testBit c.toNat with
  | true =>
    rw [lowercaseChar, if_neg hdot, List.flatMap_singleton, unmarked_shiftChar hdot hcapital]
  | false =>
    have hstays : (unmarked c).flatMap lowercaseChar = unmarked c :=
      flatMap_eq_self fun d hd => lowercaseChar_of_mem_unmarked hdot hcapital hd
    rw [hstays, lowercaseChar_eq_self hdot hcapital, List.flatMap_singleton]

/-! ## Texts -/

/-- **To drop the marks twice is to drop them once.** -/
theorem stripMarks_stripMarks (s : String) : stripMarks (stripMarks s) = stripMarks s := by
  rw [stripMarks, stripMarks, String.toList_ofList, flatMap_eq_self fun d hd => ?_]
  obtain ⟨c, -, hc⟩ := List.mem_flatMap.mp hd
  exact unmarked_of_mem hc

/-- **A blank is blank without its marks.** -/
theorem isBlank_of_mem_unmarked {c d : Char} (hc : isBlank c = true) (h : d ∈ unmarked c) :
    isBlank d = true := by
  have hall := List.all_eq_true.mp tables_agree.2.2.2.2 _ (mem_blankCodes hc)
  simp only [Bool.and_eq_true, Bool.or_eq_true, Bool.not_eq_true', Nat.blt_eq] at hall
  obtain ⟨⟨hsimple, -⟩, hbase⟩ := hall
  cases hmark : isMark c with
  | true =>
    rw [unmarked, hmark] at h
    cases h
  | false =>
    rw [unmarked_of_isSimple hmark hsimple, List.mem_singleton] at h
    rw [h]
    rcases hbase with hcomposed | ⟨hlow, hblank⟩
    · rwa [baseOf_of_not_composed hcomposed, Char.ofNat_toNat]
    · rwa [baseOf_eq_letterBase hlow]

/-- A letter is no blank. -/
theorem isBlank_of_isLetter {c : Char} (h : isLetter c = true) : isBlank c = false := by
  refine Bool.eq_false_iff.mpr fun hblank => ?_
  have hall := List.all_eq_true.mp tables_agree.2.2.2.2 _ (mem_blankCodes hblank)
  rw [Char.ofNat_toNat, h, Bool.not_true, Bool.and_false, Bool.false_and] at hall
  cases hall

/-- **What is no blank is none in lowercase.** -/
theorem exists_lowercaseChar_of_not_blank {c : Char} (h : isBlank c = false) :
    ∃ d ∈ lowercaseChar c, isBlank d = false := by
  by_cases hdot : c = 'İ'
  · subst hdot
    exact ⟨'i', List.mem_cons_self, by decide⟩
  rw [lowercaseChar, if_neg hdot]
  refine ⟨_, List.mem_singleton_self _, ?_⟩
  rcases shiftChar_cases c with hself | ⟨hletter, -⟩
  · rw [hself, h]
  · exact isBlank_of_isLetter hletter

/-- Blanks around a text may be dropped before the marks, too. -/
theorem trimChars_flatMap_unmarked (cs : List Char) :
    trimChars ((trimChars cs).flatMap unmarked) = trimChars (cs.flatMap unmarked) := by
  obtain ⟨xs, ys, hcs, hxs, hys⟩ := exists_trimChars cs
  have hblanks : ∀ {g : List Char}, (∀ c ∈ g, isBlank c = true) →
      ∀ d ∈ g.flatMap unmarked, isBlank d = true := by
    intro g hg d hd
    obtain ⟨c, hc, hd⟩ := List.mem_flatMap.mp hd
    exact isBlank_of_mem_unmarked (hg c hc) hd
  conv_rhs => rw [hcs]
  rw [List.flatMap_append, List.flatMap_append, trimChars_append_blanks (hblanks hys),
    trimChars_blanks_append (hblanks hxs)]

/-- A text without a capital sigma is in lowercase when each of its characters is. -/
theorem lowercaseAfter_eq_flatMap {before cs : List Char} (h : 'Σ' ∉ cs) :
    lowercaseAfter before cs = cs.flatMap lowercaseChar := by
  induction cs generalizing before with
  | nil => rfl
  | cons c cs ih =>
    rw [List.mem_cons, not_or] at h
    rw [lowercaseAfter, if_neg (Ne.symm h.1), ih h.2, List.flatMap_cons]

/-- **Case and marks do not interfere** in a text without a capital sigma. -/
theorem flatMap_unmarked_lowercaseAfter {before cs : List Char} (h : 'Σ' ∉ cs) :
    (lowercaseAfter before cs).flatMap unmarked = (cs.flatMap unmarked).flatMap lowercaseChar := by
  rw [lowercaseAfter_eq_flatMap h, List.flatMap_assoc, List.flatMap_assoc]
  exact List.flatMap_congr fun c _ => flatMap_unmarked_lowercaseChar c

end CardQuery.Text
