import CardQuery.Proofs.Text.Folding
import CardQuery.Text.Blank

/-!
# Words and the blanks between them

A text without blanks at its ends is its words with runs of blanks between
them (`Trimmed.spaced`). A piece of a text that has no blanks at its own ends
stays where it is when the text loses those at its ends
(`trimChars_append`), so trimming both a piece and the text leaves a piece
(`isInfix_trimChars`).

Blanks have no case. So whatever reads as a word up to case has no blanks
in it either (`isBlank_of_sameCase`).
-/

namespace CardQuery.Text

/-! ## Trimming -/

/-- **A text without blanks at its ends.** -/
structure Trimmed (cs : List Char) : Prop where
  first : ∀ c ∈ cs.head?, isBlank c = false
  last : ∀ c ∈ cs.getLast?, isBlank c = false

/-- What is dropped off the front of a text ends before the first character
that stays. -/
theorem dropWhile_append_cons {p : Char → Bool} {c : Char} (h : p c = false) (xs ys : List Char) :
    (xs ++ c :: ys).dropWhile p = xs.dropWhile p ++ c :: ys := by
  have hys : (c :: ys).dropWhile p = c :: ys :=
    List.dropWhile_cons_of_neg (Bool.eq_false_iff.mp h)
  rw [List.dropWhile_append, hys]
  split
  · next hnil => rw [List.isEmpty_iff.mp hnil, List.nil_append]
  · rfl

theorem trimEnd_append_cons {c : Char} (h : isBlank c = false) (xs ys : List Char) :
    trimEnd (xs ++ c :: ys) = xs ++ c :: trimEnd ys := by
  have hreverse : (xs ++ c :: ys).reverse = ys.reverse ++ c :: xs.reverse := by simp
  rw [trimEnd, hreverse, dropWhile_append_cons h, trimEnd]
  simp

/-- **Trimming around a text without blanks at its ends** leaves it where it
is. -/
theorem trimChars_append {p : List Char} (h : Trimmed p) (hne : p ≠ []) (xs ys : List Char) :
    trimChars (xs ++ p ++ ys) = xs.dropWhile isBlank ++ p ++ trimEnd ys := by
  obtain ⟨c, rest, rfl⟩ := List.exists_cons_of_ne_nil hne
  obtain ⟨before, d, hd⟩ : ∃ before d, c :: rest = before ++ [d] :=
    ⟨_, _, (List.dropLast_concat_getLast hne).symm⟩
  have hlast : isBlank d = false := h.last d (by rw [hd]; simp)
  rw [List.append_assoc, List.cons_append, trimChars, dropWhile_append_cons (h.first c rfl),
    ← List.cons_append, hd, List.append_assoc, ← List.append_assoc, List.singleton_append,
    trimEnd_append_cons hlast]
  simp

theorem trimmed_trimEnd {cs : List Char} (h : ∀ c ∈ cs.head?, isBlank c = false) :
    Trimmed (trimEnd cs) := by
  refine ⟨?_, ?_⟩
  · cases cs with
    | nil => exact fun c hc => by cases hc
    | cons c rest =>
      have hc := h c rfl
      rw [← List.nil_append (c :: rest), trimEnd_append_cons hc]
      rintro _ ⟨⟩
      exact hc
  · intro c hc
    rw [trimEnd, List.getLast?_reverse] at hc
    have hdrop := List.head?_dropWhile_not isBlank cs.reverse
    rwa [hc] at hdrop

theorem trimmed_trimChars (cs : List Char) : Trimmed (trimChars cs) := by
  refine trimmed_trimEnd fun c hc => ?_
  have hdrop := List.head?_dropWhile_not isBlank cs
  rwa [hc] at hdrop

/-- A text is what trimming leaves of it, and blanks around that. -/
theorem exists_trimChars (cs : List Char) : ∃ xs ys, cs = xs ++ trimChars cs ++ ys ∧
    (∀ c ∈ xs, isBlank c = true) ∧ ∀ c ∈ ys, isBlank c = true := by
  refine ⟨cs.takeWhile isBlank, ((cs.dropWhile isBlank).reverse.takeWhile isBlank).reverse, ?_,
    List.all_eq_true.mp List.all_takeWhile, fun c hc => ?_⟩
  · have hend : trimChars cs ++ ((cs.dropWhile isBlank).reverse.takeWhile isBlank).reverse
        = cs.dropWhile isBlank := by
      rw [trimChars, trimEnd, ← List.reverse_append, List.takeWhile_append_dropWhile,
        List.reverse_reverse]
    rw [List.append_assoc, hend, List.takeWhile_append_dropWhile]
  · exact List.all_eq_true.mp List.all_takeWhile c (List.mem_reverse.mp hc)

theorem trimChars_of_trimmed {p : List Char} (h : Trimmed p) : trimChars p = p := by
  by_cases hne : p = []
  · rw [hne]
    rfl
  · have happend := trimChars_append h hne [] []
    rw [List.nil_append, List.append_nil] at happend
    rw [happend]
    exact List.append_nil p

theorem isInfix_trimChars_self (cs : List Char) : trimChars cs <:+: cs := by
  obtain ⟨xs, ys, hcs, -⟩ := exists_trimChars cs
  exact ⟨xs, ys, hcs.symm⟩

/-- Trimming leaves nothing of blanks only. -/
theorem isBlank_of_trimChars_eq_nil {cs : List Char} (h : trimChars cs = []) :
    ∀ c ∈ cs, isBlank c = true := by
  obtain ⟨xs, ys, hcs, hxs, hys⟩ := exists_trimChars cs
  rw [h, List.append_nil] at hcs
  rw [hcs]
  exact List.forall_mem_append.mpr ⟨hxs, hys⟩

/-- Blanks in front of a text do not outlast trimming. -/
theorem trimChars_blanks_append {xs : List Char} (h : ∀ c ∈ xs, isBlank c = true)
    (cs : List Char) : trimChars (xs ++ cs) = trimChars cs := by
  rw [trimChars, List.dropWhile_append_of_pos h, trimChars]

/-- And neither do blanks behind it. -/
theorem trimChars_append_blanks {ys : List Char} (h : ∀ c ∈ ys, isBlank c = true)
    (cs : List Char) : trimChars (cs ++ ys) = trimChars cs := by
  have hys : (ys ++ []).dropWhile isBlank = [] := List.dropWhile_append_of_pos h
  rw [List.append_nil] at hys
  rw [trimChars, trimChars, List.dropWhile_append, hys]
  split
  · next hnil => rw [List.isEmpty_iff.mp hnil]
  · rw [trimEnd, List.reverse_append,
      List.dropWhile_append_of_pos fun c hc => h c (List.mem_reverse.mp hc), ← trimEnd]

/-- **Trimming a piece and its text leaves a piece.** -/
theorem isInfix_trimChars {piece cs : List Char} (h : piece <:+: cs) :
    trimChars piece <:+: trimChars cs := by
  obtain ⟨before, behind, rfl⟩ := h
  obtain ⟨xs, ys, hpiece, -⟩ := exists_trimChars piece
  have hp := trimmed_trimChars piece
  generalize trimChars piece = p at hpiece hp
  subst hpiece
  by_cases hnil : p = []
  · rw [hnil]
    exact List.nil_infix
  · have htext : before ++ (xs ++ p ++ ys) ++ behind = (before ++ xs) ++ p ++ (ys ++ behind) := by
      simp
    rw [htext, trimChars_append hp hnil]
    exact ⟨_, _, rfl⟩

/-! ## Words -/

/-- Whether a text is one word. -/
def IsWord (w : List Char) : Prop := w ≠ [] ∧ ∀ c ∈ w, isBlank c = false

/-- Whether a text is nothing but blanks. -/
def IsRun (g : List Char) : Prop := ∀ c ∈ g, isBlank c = true

theorem wordsAfter_append {w : List Char} (h : ∀ c ∈ w, isBlank c = false)
    (word rest : List Char) :
    wordsAfter word (w ++ rest) = wordsAfter (w.reverse ++ word) rest := by
  induction w generalizing word with
  | nil => rfl
  | cons c w ih =>
    obtain ⟨hc, hw⟩ := List.forall_mem_cons.mp h
    rw [List.cons_append, wordsAfter, if_neg (Bool.eq_false_iff.mp hc), ih hw]
    simp

theorem words_run_append {g : List Char} (h : IsRun g) (rest : List Char) :
    words (g ++ rest) = words rest := by
  induction g with
  | nil => rfl
  | cons c g ih =>
    obtain ⟨hc, hg⟩ := List.forall_mem_cons.mp h
    rw [List.cons_append, words, wordsAfter, if_pos hc]
    exact ih hg

/-- **A word ends at a run of blanks.** -/
theorem words_append_run {w g : List Char} (hw : IsWord w) (hg : IsRun g) (hne : g ≠ [])
    (rest : List Char) : words (w ++ g ++ rest) = w :: words rest := by
  obtain ⟨c, g, rfl⟩ := List.exists_cons_of_ne_nil hne
  obtain ⟨hc, hrun⟩ := List.forall_mem_cons.mp hg
  have hword : ¬ (w.reverse ++ []).isEmpty = true := by
    simpa using hw.1
  rw [List.append_assoc, words, wordsAfter_append hw.2, List.cons_append, wordsAfter, if_pos hc,
    if_neg hword, ← words, words_run_append hrun]
  simp

theorem words_of_isWord {w : List Char} (h : IsWord w) : words w = [w] := by
  have hword : ¬ (w.reverse ++ []).isEmpty = true := by
    simpa using h.1
  have happend := wordsAfter_append h.2 [] []
  rw [List.append_nil, wordsAfter, if_neg hword] at happend
  rw [words, happend]
  simp

/-- **Some words with runs of blanks between them.** -/
inductive Spaced : List (List Char) → List Char → Prop where
  /-- The last word. -/
  | last {w : List Char} (h : IsWord w) : Spaced [w] w
  /-- A word, blanks, and the words after them. -/
  | next {w g rest : List Char} {ws : List (List Char)} (h : IsWord w) (hg : IsRun g)
    (hne : g ≠ []) (hrest : Spaced ws rest) : Spaced (w :: ws) (w ++ g ++ rest)

theorem Spaced.isWord {ws : List (List Char)} {p : List Char} (h : Spaced ws p) :
    ∀ w ∈ ws, IsWord w := by
  induction h with
  | last h => exact List.forall_mem_singleton.mpr h
  | next h hg hne hrest ih => exact List.forall_mem_cons.mpr ⟨h, ih⟩

/-- A text without blanks at its ends is a word, or it goes on after one word
and some blanks in the same way. -/
theorem Trimmed.split {p : List Char} (h : Trimmed p) (hne : p ≠ []) :
    IsWord p ∨ ∃ w g rest, p = w ++ g ++ rest ∧ IsWord w ∧ IsRun g ∧ g ≠ [] ∧ Trimmed rest ∧
      rest ≠ [] := by
  let solid : Char → Bool := fun c => !isBlank c
  have hsolid : ∀ c ∈ p.takeWhile solid, isBlank c = false := fun c hc => by
    simpa [solid] using List.all_eq_true.mp List.all_takeWhile c hc
  have hword : IsWord (p.takeWhile solid) := by
    obtain ⟨c, rest, rfl⟩ := List.exists_cons_of_ne_nil hne
    refine ⟨?_, hsolid⟩
    rw [List.takeWhile_cons_of_pos (by simpa [solid] using h.first c rfl)]
    exact List.cons_ne_nil c _
  have hp : p.takeWhile solid ++ p.dropWhile solid = p := List.takeWhile_append_dropWhile
  have hhead := List.head?_dropWhile_not solid p
  generalize p.takeWhile solid = w at hword hp
  generalize p.dropWhile solid = d at hhead hp
  cases d with
  | nil =>
    rw [List.append_nil] at hp
    exact .inl (hp ▸ hword)
  | cons c d =>
    refine .inr ⟨w, (c :: d).takeWhile isBlank, (c :: d).dropWhile isBlank, ?_, hword, ?_, ?_, ?_⟩
    · rw [List.append_assoc, List.takeWhile_append_dropWhile, hp]
    · exact fun c hc => List.all_eq_true.mp List.all_takeWhile c hc
    · rw [List.takeWhile_cons_of_pos (by simpa [solid] using hhead)]
      exact List.cons_ne_nil c _
    · have hlast : ∀ x ∈ (c :: d).getLast?, isBlank x = false := fun x hx =>
        h.last x (by rw [← hp, List.getLast?_append, hx]; rfl)
      have hfirst := List.head?_dropWhile_not isBlank (c :: d)
      have htake : (c :: d).takeWhile isBlank ++ (c :: d).dropWhile isBlank = c :: d :=
        List.takeWhile_append_dropWhile
      by_cases hnil : (c :: d).dropWhile isBlank = []
      · rw [hnil, List.append_nil] at htake
        have hblank := List.all_eq_true.mp (htake ▸ List.all_takeWhile) _
          (List.getLast_mem (List.cons_ne_nil c d))
        rw [hlast _ (List.getLast?_eq_some_getLast (List.cons_ne_nil c d))] at hblank
        cases hblank
      · refine ⟨⟨fun x hx => by rwa [hx] at hfirst, fun x hx => hlast x ?_⟩, hnil⟩
        rw [← htake, List.getLast?_append, hx]
        rfl

/-- **A text without blanks at its ends is spaced.** -/
theorem Trimmed.spaced {p : List Char} (h : Trimmed p) (hne : p ≠ []) : Spaced (words p) p := by
  -- by the length of the text, word by word
  induction hlength : p.length using Nat.strongRecOn generalizing p with
  | ind n ih =>
    rcases h.split hne with hword | ⟨w, g, rest, rfl, hw, hg, hgne, hrest, hrne⟩
    · rw [words_of_isWord hword]
      exact .last hword
    · have hlt : rest.length < n := by
        have hpos := List.length_pos_iff.mpr hw.1
        simp only [List.length_append] at hlength
        omega
      rw [words_append_run hw hg hgne]
      exact .next hw hg hgne (ih rest.length hlt hrest hrne rfl)

/-! ## Blanks have no case -/

/-- The code points of blanks. -/
def blankCodes : List Nat :=
  blankTable.flatMap fun r => List.range' r.first (r.last - r.first + 1)

theorem exists_range_of_tableHolds {table : List CodeRange} {n : Nat}
    (h : tableHolds table n = true) : ∃ r ∈ table, r.first ≤ n ∧ n ≤ r.last := by
  induction table with
  | nil => cases h
  | cons r rest ih =>
    rw [tableHolds] at h
    split at h
    · next hlast =>
      have hfirst : r.first ≤ n := of_decide_eq_true ((Bool.and_eq_true _ _).mp h).1
      exact ⟨r, List.mem_cons_self, hfirst, hlast⟩
    · obtain ⟨r', hr', hbounds⟩ := ih h
      exact ⟨r', List.mem_cons_of_mem r hr', hbounds⟩

theorem mem_blankCodes {c : Char} (h : isBlank c = true) : c.toNat ∈ blankCodes := by
  obtain ⟨r, hr, hfirst, hlast⟩ := exists_range_of_tableHolds h
  exact List.mem_flatMap.mpr ⟨r, hr, List.mem_range'_1.mpr ⟨hfirst, by omega⟩⟩

theorem avoids_blankCodes :
    (blankCodes.all fun n => foldShifts.all (·.avoids n)) = true := by
  decide +kernel

/-- **A blank has no case.** -/
theorem hasNoCase_of_isBlank {c : Char} (h : isBlank c = true) : hasNoCase c = true := by
  have hnull : c ≠ '\x00' := by
    rintro rfl
    exact absurd h (by decide)
  have havoids := List.all_eq_true.mp avoids_blankCodes _ (mem_blankCodes h)
  rw [hasNoCase, bne_iff_ne.mpr hnull, havoids]
  rfl

/-- What is the same as a character up to case is a blank if that one is. -/
theorem isBlank_of_sameCase {c d : Char} (h : sameCase c d = true) : isBlank d = isBlank c := by
  have hcomm : sameCase d c = true := by
    rwa [sameCase, beq_iff_eq, eq_comm, ← beq_iff_eq]
  cases hc : isBlank c with
  | true => rw [(sameCase_iff_of_hasNoCase (hasNoCase_of_isBlank hc) d).mp h, hc]
  | false =>
    cases hd : isBlank d with
    | true =>
      rw [(sameCase_iff_of_hasNoCase (hasNoCase_of_isBlank hd) c).mp hcomm, hd] at hc
      cases hc
    | false => rfl

end CardQuery.Text
