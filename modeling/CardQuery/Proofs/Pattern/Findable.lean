import CardQuery.Proofs.Pattern.Needle
import CardQuery.Proofs.Text.Words

/-!
# A needle in its own text

A text that is looked for in itself, word by word, need not be found. What
stands between two of its words has to fit in a gap, and a gap takes only so
many characters, and no newline. A text is `Needle.Findable` if it has words,
all that stands between them fits, and its needle is compiled.

Then it is found in itself as it stands (`Needle.strewn_of_spaced`). Otherwise it
is not found there at all: its words have as many characters as the text has
that are no blanks, so wherever they are found, it is the whole text
(`Needle.eq_of_strewn`), and found as it stands (`Needle.findable_iff_strewn`).
-/

namespace CardQuery

namespace Text

/-! ## Runs of blanks in a text -/

/-- A run of blanks in a text is no longer than allowed. -/
def RunsWithin (gap : Nat) (cs : List Char) : Prop := ∀ g, g <:+: cs → IsRun g → g.length ≤ gap

theorem RunsWithin.mono {gap : Nat} {cs ds : List Char} (h : RunsWithin gap ds) (hcs : cs <:+: ds) :
    RunsWithin gap cs :=
  fun g hg hrun => h g (hg.trans hcs) hrun

theorem runsWithin_of_length_le {gap : Nat} {cs : List Char} (h : cs.length ≤ gap) :
    RunsWithin gap cs :=
  fun _ hg _ => Nat.le_trans hg.length_le h

theorem runsWithin_nil (gap : Nat) : RunsWithin gap [] := runsWithin_of_length_le (Nat.zero_le gap)

/-- A run of blanks does not start with anything else. -/
theorem IsRun.eq_nil_of_leads {g cs : List Char} (hg : IsRun g) {c : Char}
    (hc : isBlank c = false) (h : g <+: c :: cs) : g = [] := by
  rcases List.prefix_cons_iff.mp h with hnil | ⟨t, rfl, -⟩
  · exact hnil
  · exact absurd (hg c List.mem_cons_self) (by rw [hc]; exact Bool.false_ne_true)

/-- A trimmed text starts with no blanks. -/
theorem Trimmed.eq_nil_of_prefix {p g : List Char} (hp : Trimmed p) (h : g <+: p) (hg : IsRun g) :
    g = [] := by
  cases g with
  | nil => rfl
  | cons c g =>
    obtain ⟨rest, rfl⟩ := h
    exact hg.eq_nil_of_leads (hp.first c rfl) (List.prefix_refl (c :: g))

/-- A trimmed text ends with no blanks. -/
theorem Trimmed.eq_nil_of_suffix {p g : List Char} (hp : Trimmed p) (h : g <:+ p) (hg : IsRun g) :
    g = [] := by
  refine Classical.byContradiction fun hne => ?_
  obtain ⟨rest, rfl⟩ := h
  have hlast := hp.last (g.getLast hne) (by
    rw [List.getLast?_append, List.getLast?_eq_some_getLast hne]
    rfl)
  rw [hg _ (List.getLast_mem hne)] at hlast
  cases hlast

/-- A run of blanks stands on one side of what is no blank. -/
theorem runsWithin_append {gap : Nat} {xs ys : List Char} {c : Char} (hc : isBlank c = false)
    (hxs : RunsWithin gap xs) (hys : RunsWithin gap ys) : RunsWithin gap (xs ++ c :: ys) := by
  intro g hg hrun
  rcases List.infix_append_iff.mp hg with hg | hg | ⟨g₁, g₂, rfl, hsuffix, hprefix⟩
  · exact hxs g hg hrun
  · rcases List.infix_cons_iff.mp hg with hprefix | hg
    · rw [hrun.eq_nil_of_leads hc hprefix]
      exact Nat.zero_le gap
    · exact hys g hg hrun
  · have hrun₂ : IsRun g₂ := (List.forall_mem_append.mp hrun).2
    rw [hrun₂.eq_nil_of_leads hc hprefix, List.append_nil] at hrun ⊢
    exact hxs g₁ hsuffix.isInfix hrun

/-- There is no run of blanks in a word. -/
theorem runsWithin_word_append {gap : Nat} {w cs : List Char} (hw : ∀ c ∈ w, isBlank c = false)
    (hcs : RunsWithin gap cs) : RunsWithin gap (w ++ cs) := by
  induction w with
  | nil => exact hcs
  | cons c w ih =>
    obtain ⟨hc, hw⟩ := List.forall_mem_cons.mp hw
    exact runsWithin_append hc (runsWithin_nil gap) (ih hw)

/-! ## Characters that are no blanks -/

/-- How many characters of a text are no blanks. -/
def ink (cs : List Char) : Nat := cs.countP fun c => !isBlank c

theorem ink_append (xs ys : List Char) : ink (xs ++ ys) = ink xs + ink ys :=
  List.countP_append

theorem ink_eq_length {w : List Char} (h : ∀ c ∈ w, isBlank c = false) : ink w = w.length :=
  List.countP_eq_length.mpr fun c hc => by rw [h c hc]; rfl

theorem ink_eq_zero {g : List Char} : ink g = 0 ↔ IsRun g := by
  rw [ink, List.countP_eq_zero]
  exact forall₂_congr fun c _ => by cases isBlank c <;> decide

/-- What is alike to a word is a word. -/
theorem IsWord.of_alike {v w : List Char} (hw : IsWord w) (h : Alike v w) : IsWord v := by
  refine ⟨?_, fun c hc => ?_⟩
  · rw [← List.length_pos_iff, h.length_eq]
    exact List.length_pos_iff.mpr hw.1
  · obtain ⟨k, hk, rfl⟩ := List.mem_iff_getElem.mp hc
    have hk' : k < w.length := h.length_eq ▸ hk
    obtain ⟨d, hd, hsame⟩ := h.sameCase (List.getElem?_eq_getElem hk')
    rw [List.getElem?_eq_getElem hk] at hd
    rw [Option.some.inj hd, isBlank_of_sameCase hsame]
    exact hw.2 _ (List.getElem_mem hk')

theorem Spaced.ink_eq {ws : List (List Char)} {p : List Char} (h : Spaced ws p) :
    ink p = ws.flatten.length := by
  induction h with
  | last h => rw [ink_eq_length h.2, List.flatten_singleton]
  | next h hg hne hrest ih =>
    rw [ink_append, ink_append, ink_eq_length h.2, ink_eq_zero.mpr hg, ih, List.flatten_cons,
      List.length_append, Nat.add_zero]

end Text

namespace Needle

open Text

/-! ## As it stands -/

/-- **A text is found as it stands** if the blanks between its words fit in a
gap. -/
theorem strewn_of_spaced {gap : Nat} {ws : List (List Char)} {p : List Char}
    (h : Spaced ws p) (hruns : RunsWithin gap p) (hline : '\n' ∉ p) : Strewn gap ws p := by
  induction h with
  | last h => exact .last rfl
  | @next w g rest ws h hg hne hrest ih =>
    have hgap : g <:+: w ++ g ++ rest := ⟨w, rest, rfl⟩
    have hafter : rest <:+ w ++ g ++ rest := List.suffix_append (w ++ g) rest
    exact .next rfl (hruns g hgap hg) (fun hmem => hline (hgap.subset hmem))
      (ih (hruns.mono hafter.isInfix) fun hmem => hline (hafter.subset hmem))

/-! ## Only as it stands -/

section Strewn

variable {gap : Nat} {ws : List (List Char)} {v : List Char}

/-- What some words look like has all their characters. -/
theorem Strewn.length_le_ink (h : Strewn gap ws v) (hws : ∀ w ∈ ws, IsWord w) :
    ws.flatten.length ≤ ink v := by
  induction h with
  | @last w v h =>
    have hv := (hws w List.mem_cons_self).of_alike h
    rw [List.flatten_singleton, ink_eq_length hv.2, h.length_eq]
  | @next w v g rest after h hgap hline hrest ih =>
    obtain ⟨hw, hrest⟩ := List.forall_mem_cons.mp hws
    have hle := ih hrest
    rw [List.flatten_cons, List.length_append, ink_append, ink_append,
      ink_eq_length (hw.of_alike h).2, h.length_eq]
    omega

theorem Strewn.exists_cons (h : Strewn gap ws v) (hws : ∀ w ∈ ws, IsWord w) :
    ∃ c cs, v = c :: cs ∧ isBlank c = false := by
  have hword : ∀ {w v : List Char}, Alike v w → w ∈ ws → ∀ cs, ∃ d ds,
      v ++ cs = d :: ds ∧ isBlank d = false := by
    intro w v halike hw cs
    obtain ⟨hne, hsolid⟩ := (hws w hw).of_alike halike
    obtain ⟨d, ds, rfl⟩ := List.exists_cons_of_ne_nil hne
    exact ⟨d, ds ++ cs, rfl, hsolid d List.mem_cons_self⟩
  cases h with
  | last h =>
    obtain ⟨d, ds, hv, hd⟩ := hword h List.mem_cons_self []
    exact ⟨d, ds, by rw [← hv, List.append_nil], hd⟩
  | @next w v g rest after h hgap hline hrest =>
    rw [List.append_assoc]
    exact hword h List.mem_cons_self (g ++ after)

/-- There is no newline in what some words look like. -/
theorem Strewn.line (h : Strewn gap ws v) (hws : ∀ w ∈ ws, IsWord w) : '\n' ∉ v := by
  have hsolid : ∀ {w v : List Char}, IsWord w → Alike v w → '\n' ∉ v := by
    intro w v hw halike hmem
    have hblank : isBlank '\n' = false := (hw.of_alike halike).2 _ hmem
    cases hblank
  induction h with
  | last h => exact hsolid (hws _ List.mem_cons_self) h
  | next h hgap hline hrest ih =>
    obtain ⟨hw, hrestws⟩ := List.forall_mem_cons.mp hws
    simp only [List.mem_append, not_or]
    exact ⟨⟨hsolid hw h, hline⟩, ih hrestws⟩

/-- **Where the words make up all that is no blank**, nothing stands in the gaps
but blanks, and these are all the blanks there are. -/
theorem Strewn.runsWithin (h : Strewn gap ws v) (hws : ∀ w ∈ ws, IsWord w)
    (hink : ink v ≤ ws.flatten.length) : RunsWithin gap v := by
  induction h with
  | @last w v h =>
    have hv := (hws w List.mem_cons_self).of_alike h
    rw [← List.append_nil v]
    exact runsWithin_word_append hv.2 (runsWithin_nil gap)
  | @next w v g rest after h hgap hline hrest ih =>
    obtain ⟨hw, hrestws⟩ := List.forall_mem_cons.mp hws
    have hle := hrest.length_le_ink hrestws
    rw [List.flatten_cons, List.length_append, ink_append, ink_append,
      ink_eq_length (hw.of_alike h).2, h.length_eq] at hink
    have hafter := ih hrestws (by omega)
    obtain ⟨c, cs, rfl, hc⟩ := hrest.exists_cons hrestws
    rw [List.append_assoc]
    exact runsWithin_word_append (hw.of_alike h).2 (runsWithin_append hc
      (runsWithin_of_length_le hgap) (hafter.mono (List.suffix_cons c cs).isInfix))

end Strewn

/-- **The words of a text are found in it only where it is the whole text.** -/
theorem eq_of_strewn {gap : Nat} {p v : List Char} (hp : Trimmed p) (hne : p ≠ [])
    (hpiece : v <:+: p) (h : Strewn gap (Text.words p) v) : v = p := by
  have hspaced := hp.spaced hne
  have hlower := h.length_le_ink hspaced.isWord
  have hink := hspaced.ink_eq
  obtain ⟨u, z, rfl⟩ := hpiece
  rw [ink_append, ink_append] at hink
  -- there are blanks only around what is found, and none at the ends
  have hu : u = [] := hp.eq_nil_of_prefix (List.append_assoc u v z ▸ List.prefix_append u (v ++ z))
    (ink_eq_zero.mp (by omega))
  have hz : z = [] := hp.eq_nil_of_suffix (List.suffix_append (u ++ v) z)
    (ink_eq_zero.mp (by omega))
  rw [hu, hz, List.nil_append, List.append_nil]

/-! ## Findable texts -/

theorem ne_nil_of_words_ne_nil {p : List Char} (h : Text.words p ≠ []) : p ≠ [] := by
  rintro rfl
  exact h rfl

section Findable

variable [PatternCompiler]

/-- **Whether a text as texts are compared is found where it stands**: it has
words, what stands between them fits in a gap, and its needle is compiled. -/
structure Findable (gap : Nat) (p : List Char) : Prop where
  words : Text.words p ≠ []
  runs : RunsWithin gap p
  line : '\n' ∉ p
  compiled : compiles ⟨Text.words p, gap⟩ = true

theorem Findable.strewn {gap : Nat} {p : List Char} (h : Findable gap p) (hp : Trimmed p) :
    Strewn gap (Text.words p) p :=
  strewn_of_spaced (hp.spaced (ne_nil_of_words_ne_nil h.words)) h.runs h.line

/-- **A text is findable exactly if its words are found in it**, and make a needle
that is compiled. -/
theorem findable_iff_strewn {gap : Nat} {p : List Char} (hp : Trimmed p) :
    Findable gap p ↔ Text.words p ≠ [] ∧ compiles ⟨Text.words p, gap⟩ = true ∧
      ∃ v, v <:+: p ∧ Strewn gap (Text.words p) v := by
  constructor
  · exact fun h => ⟨h.words, h.compiled, p, List.infix_refl p, h.strewn hp⟩
  · rintro ⟨hwords, hcompiled, v, hpiece, hstrewn⟩
    have hne := ne_nil_of_words_ne_nil hwords
    have hspaced := hp.spaced hne
    obtain rfl := eq_of_strewn hp hne hpiece hstrewn
    exact ⟨hwords, hstrewn.runsWithin hspaced.isWord (Nat.le_of_eq hspaced.ink_eq),
      hstrewn.line hspaced.isWord, hcompiled⟩

end Findable

end Needle

end CardQuery
