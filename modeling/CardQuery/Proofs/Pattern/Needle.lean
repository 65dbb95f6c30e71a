import CardQuery.Proofs.Pattern.Escaping
import CardQuery.Proofs.Pattern.Language
import CardQuery.Proofs.Text.Folding

/-!
# Finding a needle

A needle is found in a text when its words stand there in order, with gaps
that are short enough and stay on their line (`Needle.Strewn`). The words of
the text may differ from those of the needle in case alone, and not even in
that where a character has a meaning in regular expressions.

The pattern of a needle and its regular expression describe the same texts,
because both are products of the languages of single characters and gaps. What
is said about one search therefore holds for the other
(`Needle.isIn_iff_strewn`).
-/

namespace CardQuery

namespace Text

/-- **The same text up to case**, character by character. -/
def Alike (v w : List Char) : Prop := v.map foldCase = w.map foldCase

theorem alike_nil_iff {v : List Char} : Alike v [] ↔ v = [] := List.map_eq_nil_iff

theorem alike_cons_iff {v w : List Char} {c : Char} :
    Alike v (c :: w) ↔ ∃ d v', v = d :: v' ∧ sameCase c d = true ∧ Alike v' w := by
  simp only [Alike, List.map_cons, List.map_eq_cons_iff, sameCase, beq_iff_eq]
  exact exists_congr fun d => exists_congr fun v' => and_congr_right fun _ =>
    and_congr_left fun _ => eq_comm

/-- Alike texts have alike characters at every place. -/
theorem Alike.sameCase {v w : List Char} (h : Alike v w) {k : Nat} {c : Char}
    (hc : w[k]? = some c) : ∃ d, v[k]? = some d ∧ Text.sameCase c d = true := by
  have hmap : (v.map foldCase)[k]? = (w.map foldCase)[k]? := by rw [h]
  rw [List.getElem?_map, List.getElem?_map, hc] at hmap
  obtain ⟨d, hd, hfold⟩ := Option.map_eq_some_iff.mp hmap
  exact ⟨d, hd, beq_iff_eq.mpr hfold.symm⟩

theorem Alike.length_eq {v w : List Char} (h : Alike v w) : v.length = w.length := by
  rw [← List.length_map (f := foldCase), h, List.length_map]

/-- A word is not empty. -/
theorem ne_nil_of_mem_wordsAfter {word cs w : List Char} (h : w ∈ wordsAfter word cs) : w ≠ [] := by
  have hreverse : ∀ {u : List Char}, ¬ u.isEmpty = true → u.reverse ≠ [] := by
    intro u hu
    rwa [Ne, List.reverse_eq_nil_iff, ← List.isEmpty_iff]
  fun_induction wordsAfter word cs with
  | case1 => cases h
  | case2 word hword => exact List.mem_singleton.mp h ▸ hreverse hword
  | case3 word c rest _ _ ih => exact ih h
  | case4 word c rest _ hword ih =>
    rcases List.mem_cons.mp h with rfl | h
    · exact hreverse hword
    · exact ih h
  | case5 word c rest _ ih => exact ih h

theorem ne_nil_of_mem_words {cs w : List Char} (h : w ∈ words cs) : w ≠ [] :=
  ne_nil_of_mem_wordsAfter h

end Text

namespace Needle

open PatternReader (charPiece wordPieces)

/-! ## Metacharacters -/

/-- **A character with a meaning in regular expressions has no case.** -/
theorem hasNoCase_of_isMeta {c : Char} (h : isMeta c = true) : Text.hasNoCase c = true := by
  refine List.all_eq_true.mp ?_ c (List.contains_iff_mem.mp h)
  decide +kernel

/-! ## Words in a text -/

/-- **What some words look like in a text**: each stands there as it is but
for case, in order, with at most so many characters between one and the next,
none of them a newline. -/
inductive Strewn (gap : Nat) : List (List Char) → List Char → Prop where
  /-- The last word. -/
  | last {word v : List Char} (h : Text.Alike v word) : Strewn gap [word] v
  /-- A word, a gap, and the words after it. -/
  | next {word v g : List Char} {rest : List (List Char)} {after : List Char}
    (h : Text.Alike v word) (hgap : g.length ≤ gap) (hline : '\n' ∉ g)
    (hrest : Strewn gap rest after) : Strewn gap (word :: rest) (v ++ g ++ after)

theorem mem_language_wordPattern {word v : List Char} :
    v ∈ (wordPattern word).language ↔ Text.Alike v word := by
  rw [wordPattern, Pattern.language_sequence, List.map_map]
  induction word generalizing v with
  | nil => exact Text.alike_nil_iff.symm
  | cons c word ih =>
    rw [List.map_cons, List.prod_cons, Language.mem_mul, Text.alike_cons_iff]
    constructor
    · rintro ⟨_, ⟨d, hsame, rfl⟩, v, hv, rfl⟩
      exact ⟨d, v, rfl, hsame, ih.mp hv⟩
    · rintro ⟨d, v, rfl, hsame, hv⟩
      exact ⟨[d], ⟨d, hsame, rfl⟩, v, ih.mpr hv, rfl⟩

theorem mem_language_gapPattern {gap : Nat} {g : List Char} :
    g ∈ (gapPattern gap).language ↔ g.length ≤ gap ∧ '\n' ∉ g := by
  have hline : (∀ c ∈ g, (c != '\n') = true) ↔ '\n' ∉ g := by
    simp only [bne_iff_ne]
    exact ⟨fun h hmem => h _ hmem rfl, fun h c hc heq => h (heq ▸ hc)⟩
  constructor
  · rintro ⟨more, hmost, hg⟩
    rw [Nat.zero_add] at hg
    obtain ⟨hlen, hall⟩ := Pattern.mem_language_char_pow.mp hg
    exact ⟨hlen ▸ hmost gap rfl, hline.mp hall⟩
  · rintro ⟨hlen, hnot⟩
    refine ⟨g.length, ?_, ?_⟩
    · rintro m ⟨⟩
      exact hlen
    · rw [Nat.zero_add]
      exact Pattern.mem_language_char_pow.mpr ⟨rfl, hline.mpr hnot⟩

/-- **The pattern of some words describes what they look like in a text.** -/
theorem mem_language_wordsPattern {gap : Nat} {words : List (List Char)} (hwords : words ≠ [])
    {v : List Char} : v ∈ (wordsPattern gap words).language ↔ Strewn gap words v := by
  fun_induction wordsPattern gap words generalizing v with
  | case1 => exact absurd rfl hwords
  | case2 word =>
    rw [mem_language_wordPattern]
    constructor
    · exact .last
    · rintro (h | ⟨-, -, -, hrest⟩)
      · exact h
      · cases hrest
  | case3 word rest hmore ih =>
    show v ∈ (wordPattern word).language *
      ((gapPattern gap).language * (wordsPattern gap rest).language) ↔ _
    rw [← mul_assoc, Language.mem_mul]
    constructor
    · rintro ⟨_, ⟨v, hv, g, hg, rfl⟩, after, hafter, rfl⟩
      obtain ⟨hgap, hline⟩ := mem_language_gapPattern.mp hg
      exact .next (mem_language_wordPattern.mp hv) hgap hline ((ih hmore).mp hafter)
    · rintro (h | ⟨h, hgap, hline, hrest⟩)
      · exact absurd rfl hmore
      · exact ⟨_, Language.append_mem_mul (mem_language_wordPattern.mpr h)
          (mem_language_gapPattern.mpr ⟨hgap, hline⟩), _, (ih hmore).mpr hrest, rfl⟩

/-! ## The two patterns of a needle -/

theorem lookFree_wordPattern (word : List Char) : (wordPattern word).LookFree := by
  refine Pattern.lookFree_sequence fun p hp => ?_
  obtain ⟨c, -, rfl⟩ := List.mem_map.mp hp
  trivial

theorem lookFree_wordsPattern (gap : Nat) (words : List (List Char)) :
    (wordsPattern gap words).LookFree := by
  fun_induction wordsPattern gap words with
  | case1 => trivial
  | case2 word => exact lookFree_wordPattern word
  | case3 word rest _ ih => exact ⟨lookFree_wordPattern word, trivial, ih⟩

theorem lookFree_of_mem_wordPieces {gap : Nat} {words : List (List Char)} {p : PatternReader.Piece}
    (h : p ∈ wordPieces gap words) : p.pattern.LookFree := by
  rcases PatternReader.mem_wordPieces h with ⟨c, rfl⟩ | rfl
  · trivial
  · trivial

/-! ## Alike needles -/

/-- A pattern does not tell alike words apart. -/
theorem wordPattern_congr {v w : List Char} (h : Text.Alike v w) :
    wordPattern v = wordPattern w := by
  have hfold : ∀ u : List Char, wordPattern u =
      .sequence ((u.map Text.foldCase).map fun k => .char fun d => k == Text.foldCase d) := by
    intro u
    rw [wordPattern, List.map_map]
    rfl
  rw [hfold, hfold, h]

theorem wordsPattern_congr {gap : Nat} {ws ws' : List (List Char)}
    (h : List.Forall₂ Text.Alike ws ws') : wordsPattern gap ws = wordsPattern gap ws' := by
  induction h with
  | nil => rfl
  | cons hword hrest ih =>
    cases hrest with
    | nil => exact wordPattern_congr hword
    | cons hnext hrest =>
      exact congrArg₂ (fun p q => p.seq ((gapPattern gap).seq q)) (wordPattern_congr hword) ih

/-- **Of alike needles both are compiled**, or neither is. -/
theorem compiles_congr [PatternCompiler] {gap : Nat} {ws ws' : List (List Char)}
    (h : List.Forall₂ Text.Alike ws ws') : compiles ⟨ws, gap⟩ = compiles ⟨ws', gap⟩ := by
  rw [compiles, compiles, pattern, pattern, wordsPattern_congr h, h.length_eq]

/-- **The pieces that the regular expression is read as** have the language of
the pattern. -/
theorem language_wordPieces (gap : Nat) (words : List (List Char)) :
    (Pattern.sequence ((wordPieces gap words).map (·.pattern))).language =
      (wordsPattern gap words).language := by
  have hword : ∀ word : List Char, (((word.map charPiece).map (·.pattern)).map
      Pattern.language).prod = (wordPattern word).language := by
    intro word
    simp only [wordPattern, Pattern.language_sequence, List.map_map]
    rfl
  rw [Pattern.language_sequence]
  fun_induction wordPieces gap words with
  | case1 => rfl
  | case2 word => exact hword word
  | case3 word rest hmore ih =>
    rw [List.map_append, List.map_append, List.prod_append, hword, List.map_cons, List.map_cons,
      List.prod_cons, ih]
    obtain ⟨next, rest, rfl⟩ := List.exists_cons_of_ne_nil hmore
    rfl

/-! ## Searches -/

/-- **What a needle is made of.** A text makes one if it has words, and if what
they make is compiled. -/
theorem ofText?_eq_some_iff [PatternCompiler] {text : String} {gap : Nat} {n : Needle} :
    ofText? text gap = some n ↔
      Text.words (prepare text) ≠ [] ∧ compiles ⟨Text.words (prepare text), gap⟩ = true ∧
        n = ⟨Text.words (prepare text), gap⟩ := by
  unfold ofText?
  generalize Text.words (prepare text) = words
  cases words with
  | nil =>
    constructor
    · intro h
      cases h
    · rintro ⟨hwords, -, -⟩
      exact absurd rfl hwords
  | cons word rest =>
    show (if _ then _ else _) = _ ↔ _
    rw [Option.ite_none_right_eq_some, Option.some.injEq, eq_comm (b := n)]
    exact (and_iff_right (List.cons_ne_nil word rest)).symm

/-- The number of the gap of a needle that is compiled fits in 32 bits, if it
has a gap. -/
theorem gap_lt_of_compiles [PatternCompiler] {n : Needle} (h : n.compiles = true) :
    n.words.length ≤ 1 ∨ n.gap < Nat.pow 2 32 := by
  have hgap := (Bool.and_eq_true_iff.mp h).1
  rwa [Bool.or_eq_true, decide_eq_true_eq, decide_eq_true_eq] at hgap

/-- A search for some words finds what they look like. -/
theorem foundBy_wordsPattern {gap : Nat} {words : List (List Char)} (hwords : words ≠ [])
    {t : String} : foundBy (wordsPattern gap words) t = true ↔
      ∃ u v z, prepare t = u ++ v ++ z ∧ Strewn gap words v := by
  rw [foundBy, Pattern.isMatch_iff_language (lookFree_wordsPattern gap words)]
  simp only [mem_language_wordsPattern hwords]

/-- The regular expression of some words finds what their pattern finds. -/
theorem foundBy_wordPieces (gap : Nat) (words : List (List Char)) :
    foundBy (.sequence ((wordPieces gap words).map (·.pattern))) =
      foundBy (wordsPattern gap words) := by
  have hpieces : (Pattern.sequence ((wordPieces gap words).map (·.pattern))).LookFree := by
    refine Pattern.lookFree_sequence fun p hp => ?_
    obtain ⟨q, hq, rfl⟩ := List.mem_map.mp hp
    exact lookFree_of_mem_wordPieces hq
  funext t
  rw [Bool.eq_iff_iff, foundBy, foundBy, Pattern.isMatch_iff_language hpieces,
    Pattern.isMatch_iff_language (lookFree_wordsPattern gap words), language_wordPieces]

/-- **A needle is found exactly where its words stand in order.** A needle
has at least one word. It is in one of some texts when a piece of that text,
as texts are compared, is what the words look like with short gaps on one
line. Its regular expression can be read and finds the same, and where a word
has a character with a meaning in regular expressions, the text has that very
character. -/
theorem isIn_iff_strewn [PatternCompiler] {text : String} {gap : Nat} {n : Needle}
    (h : ofText? text gap = some n) :
    Text.words (prepare text) ≠ [] ∧
      (∀ texts : List String, n.isIn texts = true ↔
        ∃ t ∈ texts, ∃ u v z, prepare t = u ++ v ++ z ∧
          Strewn gap (Text.words (prepare text)) v) ∧
      (∃ p, Pattern.ofRegex? n.source.toList = some p ∧
        ∀ texts : List String, texts.any (foundBy p) = n.isIn texts) ∧
      ∀ w ∈ Text.words (prepare text), ∀ v : List Char, Text.Alike v w →
        ∀ (k : Nat) (c : Char), w[k]? = some c → isMeta c = true → v[k]? = some c := by
  obtain ⟨hwords, hcompiles, rfl⟩ := ofText?_eq_some_iff.mp h
  have hgap := gap_lt_of_compiles hcompiles
  have hne : ∀ w ∈ Text.words (prepare text), w ≠ [] := fun w hw => Text.ne_nil_of_mem_words hw
  clear h hcompiles
  generalize Text.words (prepare text) = words at hwords hgap hne ⊢
  refine ⟨hwords, fun texts => ?_, ?_, ?_⟩
  · rw [isIn, List.any_eq_true]
    exact exists_congr fun t => and_congr_right fun _ => foundBy_wordsPattern hwords
  · have hread := ofRegex?_source (n := ⟨words, gap⟩) hne hgap
    refine ⟨_, hread, fun texts => ?_⟩
    rw [foundBy_wordPieces]
    rfl
  · intro w _ v halike k c hc hmeta
    obtain ⟨d, hd, hsame⟩ := halike.sameCase hc
    rw [hd, (Text.sameCase_iff_of_hasNoCase (hasNoCase_of_isMeta hmeta) d).mp hsame]

/-- A plus in a needle is no sign of a repetition, and case and diacritics do
not matter. -/
theorem isIn_iff_strewn_plus :
    ofText? "a +b" 3 = some ⟨[['a'], ['+', 'b']], 3⟩ ∧
      (⟨[['a'], ['+', 'b']], 3⟩ : Needle).isIn ["xÁ123+By"] = true := by
  have hneedle : ofText? "a +b" 3 = some ⟨[['a'], ['+', 'b']], 3⟩ :=
    ofText?_eq_some_iff.mpr ⟨List.cons_ne_nil _ _, by decide +kernel, rfl⟩
  refine ⟨hneedle, ((isIn_iff_strewn hneedle).2.1 _).mpr ⟨_, List.mem_singleton_self _, ['x'],
    ['A'] ++ ['1', '2', '3'] ++ ['+', 'B'], ['y'], rfl, ?_⟩⟩
  exact .next (by unfold Text.Alike; decide +kernel) (by decide) (by decide)
    (.last (by unfold Text.Alike; decide +kernel))

end Needle

end CardQuery
