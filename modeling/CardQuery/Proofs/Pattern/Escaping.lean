import CardQuery.Pattern.Needle
import CardQuery.Pattern.Reader
import Mathlib.Tactic.FinCases

/-!
# The regular expression of a needle

The regular expression of a needle has its words one after another, with what
has a meaning escaped, and `.{0,n}` between them. Read as any regular
expression is, it is the characters of the words, each up to case, and the
gaps (`Needle.ofRegex?_source`). No character of a word is taken for an
operator, and none is taken for a part of the gap before it: a question mark
there would be, if it were not escaped.
-/

namespace CardQuery.PatternReader

open Needle (isMeta escape gapSource gapPattern)

/-! ## Pieces -/

/-- The piece of a character that stands for itself. -/
def charPiece (c : Char) : Piece := .leaf (.char (Text.sameCase c))

/-- The piece of a gap. -/
def gapPiece (gap : Nat) : Piece := (Piece.leaf (.char (· != '\n'))).iterate 0 (some gap)

/-- **The pieces of some words**, in order. -/
def wordPieces (gap : Nat) : List (List Char) → List Piece
  | [] => []
  | [word] => word.map charPiece
  | word :: rest => word.map charPiece ++ gapPiece gap :: wordPieces gap rest

/-- A reading of pieces outside of all groups, where nothing has been set. The
pieces are given backwards. -/
def State.reading (pieces : List Piece) : State := ⟨.start, [], [], pieces, []⟩

/-- A piece of some words is a character or a gap. -/
theorem mem_wordPieces {gap : Nat} {words : List (List Char)} {p : Piece}
    (h : p ∈ wordPieces gap words) : (∃ c, p = charPiece c) ∨ p = gapPiece gap := by
  have hchars : ∀ {word : List Char}, p ∈ word.map charPiece → ∃ c, p = charPiece c := by
    intro word hp
    obtain ⟨c, -, rfl⟩ := List.mem_map.mp hp
    exact ⟨c, rfl⟩
  fun_induction wordPieces gap words with
  | case1 => cases h
  | case2 word => exact .inl (hchars h)
  | case3 word rest _ ih =>
    rcases List.mem_append.mp h with hword | hrest
    · exact .inl (hchars hword)
    rcases List.mem_cons.mp hrest with hgap | hrest
    · exact .inr hgap
    · exact ih hrest

theorem height_le_one_of_mem_wordPieces {gap : Nat} {words : List (List Char)} {p : Piece}
    (h : p ∈ wordPieces gap words) : p.height ≤ 1 := by
  rcases mem_wordPieces h with ⟨c, rfl⟩ | rfl
  · exact Nat.zero_le 1
  · exact Nat.le_refl 1

theorem foldl_max_le {l : List Nat} {a b : Nat} (ha : a ≤ b) (h : ∀ x ∈ l, x ≤ b) :
    l.foldl max a ≤ b := by
  induction l generalizing a with
  | nil => exact ha
  | cons x l ih =>
    obtain ⟨hx, hl⟩ := List.forall_mem_cons.mp h
    exact ih (Nat.max_le.mpr ⟨ha, hx⟩) hl

/-- **What has been read ends well** if no piece nests deeply: the pattern is
the sequence of the pieces. -/
theorem finish?_reading {ps : List Piece} (h : ∀ p ∈ ps, p.height ≤ 1) :
    finish? (.reading ps) = some (.sequence (ps.reverse.map (·.pattern))) := by
  have hheight : (Piece.inRow ps).height ≤ 2 := by
    unfold Piece.inRow
    split
    · exact Nat.zero_le 2
    · next p => exact Nat.le_succ_of_le (h p List.mem_cons_self)
    · refine Nat.succ_le_succ (foldl_max_le (Nat.zero_le 1) fun x hx => ?_)
      obtain ⟨p, hp, rfl⟩ := List.mem_map.mp hx
      exact h p hp
  have hpattern : (Piece.inRow ps).pattern = .sequence (ps.reverse.map (·.pattern)) := by
    unfold Piece.inRow
    split
    · rfl
    · rfl
    · rfl
  show (if (true && decide ((Piece.inRow ps).height ≤ deepest)) = true
    then some (Piece.inRow ps).pattern else none) = _
  rw [decide_eq_true (Nat.le_trans hheight (by decide : 2 ≤ deepest)), hpattern]
  rfl

/-! ## Characters -/

theorem readRest_of_step {ps qs : List Piece} {c : Char} {rest after : List Char}
    (h : step (.reading ps) (c :: rest) = some (.reading qs, after))
    (hlen : after.length ≤ rest.length) :
    readRest (.reading ps) (c :: rest) = readRest (.reading qs) after := by
  have hskip : (State.reading ps).flags.skip (c :: rest) = c :: rest := rfl
  rw [readRest, hskip]
  simp only [h]
  exact if_pos (Nat.lt_succ_of_le hlen)

/-- A character without a meaning is read as itself. -/
theorem step_literal {c : Char} (h : isMeta c = false) (ps : List Piece) (rest : List Char) :
    step (.reading ps) (c :: rest) = some (.reading (charPiece c :: ps), rest) := by
  have hne : ∀ d, isMeta d = true → c ≠ d := by
    rintro d hd rfl
    rw [hd] at h
    cases h
  rw [step]
  · rfl
  all_goals exact hne _ (by decide)

/-- A character with a meaning is read as itself after a backslash. -/
theorem step_escaped {c : Char} (h : isMeta c = true) (ps : List Piece) (rest : List Char) :
    step (.reading ps) ('\\' :: c :: rest) = some (.reading (charPiece c :: ps), rest) := by
  have hmem := List.contains_iff_mem.mp h
  fin_cases hmem <;> rfl

theorem readRest_escape (c : Char) (ps : List Piece) (rest : List Char) :
    readRest (.reading ps) (escape c ++ rest) = readRest (.reading (charPiece c :: ps)) rest := by
  unfold escape
  split
  · next hmeta => exact readRest_of_step (step_escaped hmeta ps rest) (Nat.le_succ _)
  · next hmeta =>
    exact readRest_of_step (step_literal (Bool.eq_false_iff.mpr hmeta) ps rest) (Nat.le_refl _)

/-- **A word is read as its characters.** -/
theorem readRest_word (word : List Char) (ps : List Piece) (rest : List Char) :
    readRest (.reading ps) (word.flatMap escape ++ rest) =
      readRest (.reading ((word.map charPiece).reverse ++ ps)) rest := by
  induction word generalizing ps with
  | nil => rfl
  | cons c word ih =>
    rw [List.flatMap_cons, List.append_assoc, readRest_escape, ih, List.map_cons,
      List.reverse_cons, List.append_assoc]
    rfl

/-! ## Gaps -/

/-- A digit is not blank. -/
theorem isBlank_eq_false_of_isDigit {c : Char} (h : Number.isDigit c = true) :
    Text.isBlank c = false := by
  have hle : '0' ≤ c ∧ c ≤ '9' := by
    simpa only [Number.isDigit, Bool.and_eq_true, decide_eq_true_eq] using h
  have hlow : 48 ≤ c.toNat := hle.1
  have hhigh : c.toNat ≤ 57 := hle.2
  simp only [Text.isBlank, Text.inTable, Text.blankTable, Text.tableHolds, Text.CodeRange.holds]
  rw [if_neg (by omega), if_neg (by omega), if_pos (by omega), decide_eq_false (by omega)]
  rfl

theorem cutDigits_append {digits rest : List Char} (h : ∀ c ∈ digits, Number.isDigit c = true)
    (hrest : cutDigits .start false rest = ([], rest)) :
    cutDigits .start false (digits ++ rest) = (digits, rest) := by
  induction digits with
  | nil => exact hrest
  | cons c digits ih =>
    obtain ⟨hc, hdigits⟩ := List.forall_mem_cons.mp h
    rw [List.cons_append, cutDigits, if_neg Bool.false_ne_true, if_pos hc, ih hdigits]

/-- **A number is read up to the closing brace.** -/
theorem readCount_digits {digits : List Char} (hne : digits ≠ [])
    (h : ∀ c ∈ digits, Number.isDigit c = true) (hvalue : Number.digitsValue digits < Nat.pow 2 32)
    (rest : List Char) :
    readCount .start (digits ++ '}' :: rest) = some (Number.digitsValue digits, '}' :: rest) := by
  have hblank : (digits ++ '}' :: rest).dropWhile Text.isBlank = digits ++ '}' :: rest := by
    obtain ⟨c, digits, rfl⟩ := List.exists_cons_of_ne_nil hne
    rw [List.cons_append, List.dropWhile_cons,
      if_neg (Bool.eq_false_iff.mp (isBlank_eq_false_of_isDigit (h c List.mem_cons_self)))]
  have hcount : (digits.isEmpty || decide (Number.digitsValue digits ≥ Nat.pow 2 32)) = false := by
    rw [List.isEmpty_eq_false_iff.mpr hne, Bool.false_or]
    exact decide_eq_false (Nat.not_le.mpr hvalue)
  rw [readCount, hblank, cutDigits_append h rfl]
  show (if (digits.isEmpty || decide (Number.digitsValue digits ≥ Nat.pow 2 32)) = true
    then none else _) = _
  rw [hcount]
  rfl

/-- The digits of a number write it. -/
theorem digitsValue_toDigits (n : Nat) : Number.digitsValue (Nat.toDigits 10 n) = n :=
  Nat.ofDigitChars_ten_toDigits

theorem isDigit_of_mem_toDigits {n : Nat} {c : Char} (h : c ∈ Nat.toDigits 10 n) :
    Number.isDigit c = true :=
  Nat.isDigit_of_mem_toDigits (by decide) (by decide) h

theorem readBounds_upTo {cs rest : List Char} {most : Nat} (hcs : ∀ after, cs ≠ '}' :: after)
    (h : readCount .start cs = some (most, '}' :: rest)) :
    readBounds .start ('0' :: ',' :: cs) = some (0, some most, rest) := by
  have hzero : readCount .start ('0' :: ',' :: cs) = some (0, ',' :: cs) := rfl
  have hskip : ∀ ds, Flags.start.skip ds = ds := fun ds => rfl
  simp only [readBounds, hskip, hzero, h, Option.bind_eq_bind, Option.bind_some, Nat.zero_le,
    if_true]
  rfl

theorem readBounds_gap {gap : Nat} (h : gap < Nat.pow 2 32) (rest : List Char) :
    readBounds .start ('0' :: ',' :: (Nat.toDigits 10 gap ++ '}' :: rest)) =
      some (0, some gap, rest) := by
  refine readBounds_upTo (fun after heq => ?_) ?_
  · obtain ⟨d, digits, hdigits⟩ :=
      List.exists_cons_of_ne_nil (Nat.toDigits_ne_nil (b := 10) (n := gap))
    rw [hdigits, List.cons_append] at heq
    have hd : Number.isDigit d = true :=
      isDigit_of_mem_toDigits (hdigits ▸ List.mem_cons_self)
    rw [(List.cons.inj heq).1] at hd
    exact absurd hd (by decide)
  · have hcount := readCount_digits Nat.toDigits_ne_nil (fun _ => isDigit_of_mem_toDigits)
      ((digitsValue_toDigits gap).symm ▸ h) rest
    rwa [digitsValue_toDigits] at hcount

/-- **A gap is read as a gap**, unless what follows is read as a part of
it. -/
theorem readRest_gap {gap : Nat} (h : gap < Nat.pow 2 32) {rest : List Char}
    (hrest : skipLazy rest = rest) (ps : List Piece) :
    readRest (.reading ps) (gapSource gap ++ rest) =
      readRest (.reading (gapPiece gap :: ps)) rest := by
  have hsource : gapSource gap ++ rest =
      '.' :: '{' :: '0' :: ',' :: (Nat.toDigits 10 gap ++ '}' :: rest) := by
    simp [gapSource]
  have hdot : step (.reading ps)
      ('.' :: '{' :: '0' :: ',' :: (Nat.toDigits 10 gap ++ '}' :: rest)) =
      some (.reading (.leaf (.char (· != '\n')) :: ps),
        '{' :: '0' :: ',' :: (Nat.toDigits 10 gap ++ '}' :: rest)) := rfl
  have hstep : step (.reading (.leaf (.char (· != '\n')) :: ps))
      ('{' :: '0' :: ',' :: (Nat.toDigits 10 gap ++ '}' :: rest)) =
        some (.reading (gapPiece gap :: ps), rest) := by
    show (readBounds .start ('0' :: ',' :: (Nat.toDigits 10 gap ++ '}' :: rest))).bind
      (fun r => readSign (.reading (.leaf (.char (· != '\n')) :: ps)) r.1 r.2.1 r.2.2) = _
    rw [readBounds_gap h]
    show some (State.reading (gapPiece gap :: ps), skipLazy rest) = _
    rw [hrest]
  rw [hsource, readRest_of_step hdot (Nat.le_refl _), readRest_of_step hstep]
  simp only [List.length_cons, List.length_append]
  omega

/-! ## Needles -/

/-- What an escaped character starts with is not read as a part of a gap. -/
theorem skipLazy_escape (c : Char) (after : List Char) :
    skipLazy (escape c ++ after) = escape c ++ after := by
  unfold escape
  split
  · rfl
  · next hmeta =>
    have hc : c ≠ '?' := fun hc => hmeta (hc ▸ rfl)
    rw [List.singleton_append, skipLazy]
    rintro after heq
    exact hc (List.cons.inj heq).1

theorem exists_intercalate_cons {α : Type} (sep word : List α) (rest : List (List α)) :
    ∃ after, sep.intercalate (word :: rest) = word ++ after := by
  cases rest with
  | nil => exact ⟨[], by rw [List.intercalate_singleton, List.append_nil]⟩
  | cons next rest =>
    exact ⟨sep ++ sep.intercalate (next :: rest),
      by rw [List.intercalate_cons_cons, List.append_assoc]⟩

/-- **Some words are read as their pieces.** -/
theorem readRest_words {gap : Nat} {words : List (List Char)} (hwords : ∀ w ∈ words, w ≠ [])
    (hgap : words.length ≤ 1 ∨ gap < Nat.pow 2 32) (ps : List Piece) :
    readRest (.reading ps) ((gapSource gap).intercalate (words.map (·.flatMap escape))) =
      readRest (.reading ((wordPieces gap words).reverse ++ ps)) [] := by
  fun_induction wordPieces gap words generalizing ps with
  | case1 => rfl
  | case2 word =>
    have hword := readRest_word word ps []
    rw [List.append_nil] at hword
    rw [List.map_singleton, List.intercalate_singleton, hword]
  | case3 word rest hmore ih =>
    obtain ⟨next, rest, rfl⟩ := List.exists_cons_of_ne_nil hmore
    have hrest : ∀ w ∈ next :: rest, w ≠ [] := fun w hw => hwords w (List.mem_cons_of_mem word hw)
    have hfits : gap < Nat.pow 2 32 := hgap.resolve_left (by simp)
    have hlazy : skipLazy ((gapSource gap).intercalate ((next :: rest).map (·.flatMap escape))) =
        (gapSource gap).intercalate ((next :: rest).map (·.flatMap escape)) := by
      obtain ⟨c, next, rfl⟩ := List.exists_cons_of_ne_nil (hrest next List.mem_cons_self)
      obtain ⟨after, hafter⟩ := exists_intercalate_cons (gapSource gap)
        ((c :: next).flatMap escape) (rest.map (·.flatMap escape))
      rw [List.map_cons, hafter, List.flatMap_cons, List.append_assoc, skipLazy_escape]
    rw [List.map_cons, List.map_cons, List.intercalate_cons_cons, ← List.map_cons,
      List.append_assoc, readRest_word, readRest_gap hfits hlazy, ih hrest (.inr hfits)]
    simp

end CardQuery.PatternReader

namespace CardQuery.Needle

open PatternReader (wordPieces)

/-- **The regular expression of a needle is read as the pieces of its
words.** -/
theorem ofRegex?_source {n : Needle} (hwords : ∀ w ∈ n.words, w ≠ [])
    (hgap : n.words.length ≤ 1 ∨ n.gap < Nat.pow 2 32) :
    Pattern.ofRegex? n.source.toList =
      some (.sequence ((wordPieces n.gap n.words).map (·.pattern))) := by
  have hread := PatternReader.readRest_words hwords hgap []
  have hheight : ∀ p ∈ (wordPieces n.gap n.words).reverse, p.height ≤ 1 := fun p hp =>
    PatternReader.height_le_one_of_mem_wordPieces (List.mem_reverse.mp hp)
  rw [List.append_nil] at hread
  rw [source, String.toList_ofList, Pattern.ofRegex?]
  refine hread.trans ?_
  rw [PatternReader.readRest]
  show PatternReader.finish? (.reading (wordPieces n.gap n.words).reverse) = _
  rw [PatternReader.finish?_reading hheight, List.reverse_reverse]

end CardQuery.Needle
