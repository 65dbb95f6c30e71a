import CardQuery.Text.Letter
import CardQuery.Text.Lowercase

/-!
# Lowercasing twice is lowercasing once

A character that has a lowercase moves onto a letter that stays where it is.
That is a fact about two tables, the letters and the shifts, and it is
checked range by range: every range of shifts has its images in one range of
letters, and apart from every range of shifts.

The capital I with a dot is the only character that leaves something else
behind, namely the dot (`lowercaseAfter_cons`).
-/

namespace CardQuery.Text

/-! ## Tables

The tests below are run on tables of hundreds of ranges, so they compare
numerals by functions that need no further evaluation.
-/

/-- Whether the ranges of a table ascend from a code point on. -/
def ascends (start : Nat) : List CodeRange → Bool
  | [] => true
  | r :: rest => decide (start ≤ r.first) && decide (r.first ≤ r.last) && ascends (r.last + 1) rest

theorem le_first_of_ascends {start : Nat} {table : List CodeRange} (h : ascends start table = true)
    {r : CodeRange} (hr : r ∈ table) : start ≤ r.first := by
  induction table generalizing start with
  | nil => cases hr
  | cons s rest ih =>
    simp only [ascends, Bool.and_eq_true, decide_eq_true_eq] at h
    obtain ⟨⟨hstart, hle⟩, hrest⟩ := h
    rcases List.mem_cons.mp hr with rfl | hr
    · exact hstart
    · have hfirst := ih hrest hr
      omega

/-- **An ascending table holds what a range of it holds.** -/
theorem tableHolds_of_mem {start n : Nat} {table : List CodeRange}
    (h : ascends start table = true) {r : CodeRange} (hr : r ∈ table) (hholds : r.holds n = true)
    (hn : n ≤ r.last) : tableHolds table n = true := by
  induction table generalizing start with
  | nil => cases hr
  | cons s rest ih =>
    simp only [ascends, Bool.and_eq_true, decide_eq_true_eq] at h
    obtain ⟨-, hrest⟩ := h
    rw [tableHolds]
    rcases List.mem_cons.mp hr with rfl | hr
    · rw [if_pos hn]
      exact hholds
    · have hfirst := le_first_of_ascends hrest hr
      have hge : r.first ≤ n := by
        rw [CodeRange.holds, Bool.and_eq_true, decide_eq_true_eq] at hholds
        exact hholds.1
      rw [if_neg (by omega)]
      exact ih hrest hr

/-- Whether a range without gaps reaches over all of another range. -/
def CodeRange.covers (r s : CodeRange) : Bool :=
  r.step.beq 1 && r.first.ble s.first && s.last.ble r.last

theorem CodeRange.holds_of_covers {r s : CodeRange} {n : Nat} (h : r.covers s = true)
    (hfirst : s.first ≤ n) (hlast : n ≤ s.last) : r.holds n = true ∧ n ≤ r.last := by
  simp only [covers, Bool.and_eq_true, Nat.beq_eq, Nat.ble_eq] at h
  obtain ⟨⟨hstep, hle⟩, hge⟩ := h
  refine ⟨?_, by omega⟩
  rw [holds, hstep, Nat.mod_one, decide_eq_true (by omega)]
  rfl

/-- Whether all code points of a range have the same parity. -/
def CodeRange.hasParity (r : CodeRange) : Bool := (r.step % 2).beq 0 || r.first.beq r.last

theorem CodeRange.parity_of_holds {r : CodeRange} {n : Nat} (hparity : r.hasParity = true)
    (h : r.holds n = true) (hn : n ≤ r.last) : n % 2 = r.first % 2 := by
  simp only [holds, Bool.and_eq_true, beq_iff_eq, decide_eq_true_eq] at h
  simp only [hasParity, Bool.or_eq_true, Nat.beq_eq] at hparity
  obtain ⟨hle, hmod⟩ := h
  rcases hparity with hstep | hsingle
  · have hdvd : 2 ∣ n - r.first :=
      Nat.dvd_trans (Nat.dvd_of_mod_eq_zero hstep) (Nat.dvd_of_mod_eq_zero hmod)
    omega
  · omega

/-- Whether two ranges share no code point: one ends before the other
starts, or the code points of one are even and those of the other odd. -/
def CodeRange.apart (r s : CodeRange) : Bool :=
  r.last.blt s.first || s.last.blt r.first ||
    r.hasParity && s.hasParity && !(r.first % 2).beq (s.first % 2)

theorem CodeRange.holds_eq_false_of_apart {r s : CodeRange} {n : Nat} (h : r.apart s = true)
    (hholds : r.holds n = true) (hr : n ≤ r.last) (hs : n ≤ s.last) : s.holds n = false := by
  refine Bool.eq_false_iff.mpr fun hboth => ?_
  have hfirst : r.first ≤ n ∧ s.first ≤ n := by
    simp only [holds, Bool.and_eq_true, decide_eq_true_eq] at hholds hboth
    exact ⟨hholds.1, hboth.1⟩
  simp only [apart, Bool.or_eq_true, Bool.and_eq_true, Bool.not_eq_true', Nat.blt_eq] at h
  rcases h with (hbefore | hafter) | ⟨⟨hrp, hsp⟩, hparity⟩
  · omega
  · omega
  · exact Nat.ne_of_beq_eq_false hparity
      ((parity_of_holds hrp hholds hr).symm.trans (parity_of_holds hsp hboth hs))

/-! ## Shifts -/

/-- What no range of shifts holds stays. -/
theorem shiftCode_eq_self {shifts : List CodeShift} {n : Nat}
    (h : ∀ s ∈ shifts, n ≤ s.range.last → s.range.holds n = false) : shiftCode shifts n = n := by
  induction shifts with
  | nil => rfl
  | cons s rest ih =>
    obtain ⟨hfirst, hothers⟩ := List.forall_mem_cons.mp h
    rw [shiftCode]
    split
    · next hle =>
      rw [hfirst hle, if_neg Bool.false_ne_true]
    · exact ih hothers

/-- What a table of shifts moves is in one of its ranges. -/
theorem shiftCode_cases (shifts : List CodeShift) (n : Nat) :
    shiftCode shifts n = n ∨ ∃ s ∈ shifts, s.range.holds n = true ∧ n ≤ s.range.last ∧
      shiftCode shifts n = ((n : Int) + s.distance).toNat := by
  induction shifts with
  | nil => exact .inl rfl
  | cons s rest ih =>
    rw [shiftCode]
    split
    · next hle =>
      split
      · next hholds => exact .inr ⟨s, List.mem_cons_self, hholds, hle, rfl⟩
      · exact .inl rfl
    · rcases ih with hself | ⟨t, ht, hmoves⟩
      · exact .inl hself
      · exact .inr ⟨t, List.mem_cons_of_mem s ht, hmoves⟩

/-- Where the characters of a range move. -/
def CodeShift.image (s : CodeShift) : CodeRange where
  first := ((s.range.first : Int) + s.distance).toNat
  last := ((s.range.last : Int) + s.distance).toNat
  step := s.range.step

theorem CodeShift.image_holds {s : CodeShift} {n : Nat}
    (hpos : 0 ≤ (s.range.first : Int) + s.distance) (h : s.range.holds n = true)
    (hn : n ≤ s.range.last) :
    s.image.holds ((n : Int) + s.distance).toNat = true ∧
      s.image.first ≤ ((n : Int) + s.distance).toNat ∧
      ((n : Int) + s.distance).toNat ≤ s.image.last := by
  simp only [CodeRange.holds, Bool.and_eq_true, beq_iff_eq, decide_eq_true_eq] at h ⊢
  obtain ⟨hle, hmod⟩ := h
  have hoffset : ((n : Int) + s.distance).toNat - s.image.first = n - s.range.first := by
    show ((n : Int) + s.distance).toNat - ((s.range.first : Int) + s.distance).toNat = _
    omega
  have hfirst : s.image.first ≤ ((n : Int) + s.distance).toNat := by
    show ((s.range.first : Int) + s.distance).toNat ≤ _
    omega
  have hlast : ((n : Int) + s.distance).toNat ≤ s.image.last := by
    show _ ≤ ((s.range.last : Int) + s.distance).toNat
    omega
  exact ⟨⟨hfirst, by rw [hoffset]; exact hmod⟩, hfirst, hlast⟩

/-- The code point of the capital I with a dot, as a range. -/
def dottedRange : CodeRange := ⟨0x130, 0x130, 1⟩

/-- **Whether the images of a range are letters that stay where they are.**
They are code points of characters, and the dotted capital is none of
them. -/
def CodeShift.settles (s : CodeShift) : Bool :=
  decide (0 ≤ (s.range.first : Int) + s.distance) &&
    (decide (s.image.last < 0xD800) ||
      decide (0xDFFF < s.image.first) && decide (s.image.last < 0x110000)) &&
    letterTable.any (·.covers s.image) && s.image.apart dottedRange &&
    lowercaseShifts.all fun t => s.image.apart t.range

set_option maxRecDepth 10000 in
theorem ascends_letterTable : ascends 0 letterTable = true := by decide +kernel

set_option maxRecDepth 10000 in
theorem settles_lowercaseShifts : lowercaseShifts.all CodeShift.settles = true := by decide +kernel

/-! ## Small characters -/

/-- **A character that lowercasing leaves as it is**, wherever it stands. -/
def IsSmall (c : Char) : Prop := c ≠ 'Σ' ∧ lowercaseChar c = [c]

/-- Where the shifts move a character, they move it to a small letter. -/
theorem shiftChar_cases (c : Char) :
    shiftChar lowercaseShifts c = c ∨
      isLetter (shiftChar lowercaseShifts c) = true ∧ IsSmall (shiftChar lowercaseShifts c) := by
  rcases shiftCode_cases lowercaseShifts c.toNat with hself | ⟨s, hs, hholds, hle, hcode⟩
  · refine .inl ?_
    rw [shiftChar, hself, Char.ofNat_toNat]
  · right
    have hsettles := List.all_eq_true.mp settles_lowercaseShifts s hs
    simp only [CodeShift.settles, Bool.and_eq_true, Bool.or_eq_true, decide_eq_true_eq,
      List.any_eq_true, List.all_eq_true] at hsettles
    obtain ⟨⟨⟨⟨hpos, hvalid⟩, r, hr, hcovers⟩, hdotted⟩, hapart⟩ := hsettles
    obtain ⟨himage, hfirst, hlast⟩ := CodeShift.image_holds hpos hholds hle
    -- from here on only the code point it moves to matters, and the range of its images
    rw [shiftChar, hcode]
    generalize ((c.toNat : Int) + s.distance).toNat = n at himage hfirst hlast
    have hnat : (Char.ofNat n).toNat = n := by
      have hchar : n.isValidChar := by
        rcases hvalid with hlow | ⟨hhigh, htop⟩
        · exact .inl (by omega)
        · exact .inr ⟨by omega, by omega⟩
      rw [Char.ofNat, dif_pos hchar]
      rfl
    have hstays : shiftCode lowercaseShifts n = n :=
      shiftCode_eq_self fun t ht hn =>
        CodeRange.holds_eq_false_of_apart (hapart t ht) himage hlast hn
    refine ⟨?_, ?_, ?_⟩
    · obtain ⟨hcovered, hn⟩ := CodeRange.holds_of_covers hcovers hfirst hlast
      rw [isLetter, inTable, hnat]
      exact tableHolds_of_mem ascends_letterTable hr hcovered hn
    · -- the capital sigma is moved itself
      intro hsigma
      rw [← hnat, hsigma] at hstays
      revert hstays
      decide
    · rw [lowercaseChar, if_neg, shiftChar, hnat, hstays]
      intro hdot
      have hn : n = 0x130 := hnat.symm.trans (congrArg Char.toNat hdot)
      subst hn
      exact absurd (CodeRange.holds_eq_false_of_apart hdotted himage hlast (Nat.le_refl _))
        (by decide)

/-- **What stands for a character in lowercase** is a small character, either
a letter or the character itself, with nothing but dots behind it. Dots stand
only behind the dotted capital. -/
theorem lowercaseAfter_cons (before : List Char) (c : Char) (rest : List Char) :
    ∃ d dots, lowercaseAfter before (c :: rest) = d :: (dots ++ lowercaseAfter (c :: before) rest) ∧
      IsSmall d ∧ (isLetter d = true ∨ d = c) ∧ ∀ x ∈ dots, x = '\u0307' := by
  rw [lowercaseAfter]
  by_cases hsigma : c = 'Σ'
  · rw [if_pos hsigma]
    split
    · exact ⟨'ς', [], rfl, by unfold IsSmall; decide, .inl (by decide), fun x hx => by cases hx⟩
    · exact ⟨'σ', [], rfl, by unfold IsSmall; decide, .inl (by decide), fun x hx => by cases hx⟩
  rw [if_neg hsigma, lowercaseChar]
  by_cases hdotted : c = 'İ'
  · rw [if_pos hdotted]
    exact ⟨'i', ['\u0307'], rfl, by unfold IsSmall; decide, .inl (by decide),
      fun x hx => List.mem_singleton.mp hx⟩
  rw [if_neg hdotted]
  refine ⟨_, [], rfl, ?_⟩
  rcases shiftChar_cases c with hself | ⟨hletter, hsmall⟩
  -- what does not move is small as it is
  · refine ⟨⟨by rw [hself]; exact hsigma, ?_⟩, .inr hself, fun x hx => by cases hx⟩
    rw [hself, lowercaseChar, if_neg hdotted, hself]
  · exact ⟨hsmall, .inl hletter, fun x hx => by cases hx⟩

/-- **Every character of a lowercase text is small**, a letter or a character
of the text, but for the dots. -/
theorem mem_lowercaseAfter {before cs : List Char} {d : Char} (h : d ∈ lowercaseAfter before cs) :
    d = '\u0307' ∨ IsSmall d ∧ (isLetter d = true ∨ d ∈ cs) := by
  induction cs generalizing before with
  | nil => cases h
  | cons c rest ih =>
    obtain ⟨small, dots, hlower, hsmall, hkind, hdots⟩ := lowercaseAfter_cons before c rest
    rw [hlower] at h
    rcases List.mem_cons.mp h with rfl | h
    · exact .inr ⟨hsmall, hkind.imp_right fun heq => by rw [heq]; exact List.mem_cons_self⟩
    rcases List.mem_append.mp h with hdot | hrest
    · exact .inl (hdots d hdot)
    · rcases ih hrest with hdot | ⟨hsmall, hkind⟩
      · exact .inl hdot
      · exact .inr ⟨hsmall, hkind.imp_right (List.mem_cons_of_mem c)⟩

/-- A text of small characters is its own lowercase. -/
theorem lowercaseAfter_eq_self {before cs : List Char} (h : ∀ c ∈ cs, IsSmall c) :
    lowercaseAfter before cs = cs := by
  induction cs generalizing before with
  | nil => rfl
  | cons c rest ih =>
    obtain ⟨⟨hsigma, hlower⟩, hrest⟩ := List.forall_mem_cons.mp h
    rw [lowercaseAfter]
    rw [if_neg hsigma, hlower, ih hrest]
    rfl

/-- **What is in lowercase stays as it is.** -/
theorem lowercase_eq_self {cs : List Char} (h : ∀ c ∈ cs, IsSmall c) :
    lowercase (.ofList cs) = .ofList cs := by
  rw [lowercase, String.toList_ofList, lowercaseAfter_eq_self h]

end CardQuery.Text
