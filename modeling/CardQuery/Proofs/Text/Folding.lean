import CardQuery.Text.Folding
import CardQuery.Proofs.Text.Lowercase

/-!
# Characters without case

A character has no case when nothing else folds as it does. Whether the shifts
of the case folding leave a code point alone is checked range by range: no
range of shifts reaches over it, and neither does the range of their images
(`hasNoCase`).
-/

namespace CardQuery.Text

/-- Whether a range of shifts neither moves a code point nor moves another one
there. -/
def CodeShift.avoids (s : CodeShift) (n : Nat) : Bool :=
  decide (0 ≤ (s.range.first : Int) + s.distance) &&
    (n.blt s.range.first || s.range.last.blt n) && (n.blt s.image.first || s.image.last.blt n)

theorem CodeShift.holds_eq_false_of_avoids {s : CodeShift} {n : Nat} (h : s.avoids n = true)
    (hn : n ≤ s.range.last) : s.range.holds n = false := by
  simp only [avoids, Bool.and_eq_true, Bool.or_eq_true, Nat.blt_eq] at h
  have hfirst : ¬ s.range.first ≤ n := by omega
  rw [CodeRange.holds, decide_eq_false hfirst, Bool.false_and]

theorem CodeShift.ne_of_avoids {s : CodeShift} {n m : Nat} (h : s.avoids n = true)
    (hholds : s.range.holds m = true) (hm : m ≤ s.range.last) :
    ((m : Int) + s.distance).toNat ≠ n := by
  simp only [avoids, Bool.and_eq_true, Bool.or_eq_true, Nat.blt_eq, decide_eq_true_eq] at h
  obtain ⟨-, hfirst, hlast⟩ := image_holds h.1.1 hholds hm
  omega

/-- **A character that every range of shifts avoids is the image of itself
alone.** -/
theorem shiftChar_eq_iff {shifts : List CodeShift} {c : Char} (hc : c ≠ '\x00')
    (h : ∀ s ∈ shifts, s.avoids c.toNat = true) (d : Char) :
    shiftChar shifts d = shiftChar shifts c ↔ d = c := by
  have hself : shiftChar shifts c = c := by
    rw [shiftChar, shiftCode_eq_self fun s hs => CodeShift.holds_eq_false_of_avoids (h s hs),
      Char.ofNat_toNat]
  refine ⟨fun heq => ?_, fun heq => by rw [heq]⟩
  rw [hself] at heq
  rcases shiftCode_cases shifts d.toNat with hstays | ⟨s, hs, hholds, hle, hcode⟩
  · rw [shiftChar, hstays, Char.ofNat_toNat] at heq
    exact heq
  · -- what it moves to is no code point of `c`, and no character stands for others than the null
    rw [shiftChar, hcode] at heq
    by_cases hvalid : ((d.toNat : Int) + s.distance).toNat.isValidChar
    · rw [Char.ofNat, dif_pos hvalid] at heq
      exact absurd (congrArg Char.toNat heq) (CodeShift.ne_of_avoids (h s hs) hholds hle)
    · rw [Char.ofNat, dif_neg hvalid] at heq
      exact absurd heq.symm hc

/-- **Whether the case folding leaves a character alone**: it neither moves it
nor moves another one there. -/
def hasNoCase (c : Char) : Bool := c != '\x00' && foldShifts.all (·.avoids c.toNat)

/-- **A character without case is the same as itself alone.** -/
theorem sameCase_iff_of_hasNoCase {c : Char} (h : hasNoCase c = true) (d : Char) :
    sameCase c d = true ↔ d = c := by
  rw [hasNoCase, Bool.and_eq_true, bne_iff_ne, List.all_eq_true] at h
  rw [sameCase, beq_iff_eq, eq_comm]
  exact shiftChar_eq_iff h.1 h.2 d

end CardQuery.Text
