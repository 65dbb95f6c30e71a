import CardQuery.Proofs.Evaluation.Leaves
import CardQuery.Proofs.Text.Unmarking

/-!
# Accents in equalities

Searches drop the marks of the needle and of the text, so what they see of a string is no more
than its bare text (`Equality.bare`): the string without marks, in lowercase and without blanks
around it. A loose search sees that much of every string, up to case
(`Equality.alike_prepare`), and a strict one on a text field sees that much of a tidy string
(`Equality.Tidy`).

Which string is the needle is decided before the marks are dropped. So accents do tell equalities
apart where they count for the length: a decomposed accent makes a text longer than its letters
are. `Matcher.equalValues_eq_of_stripMarks_iff` says exactly when that happens.
-/

namespace CardQuery

/-! ## Texts that are alike -/

namespace Text

theorem Alike.append {v w v' w' : List Char} (h : Alike v w) (h' : Alike v' w') :
    Alike (v ++ v') (w ++ w') := by
  rw [Alike, List.map_append, List.map_append, h, h']

theorem Alike.reverse {v w : List Char} (h : Alike v w) : Alike v.reverse w.reverse := by
  rw [Alike, List.map_reverse, List.map_reverse, h]

theorem Alike.dropWhile_isBlank {v w : List Char} (h : Alike v w) :
    Alike (v.dropWhile isBlank) (w.dropWhile isBlank) := by
  induction w generalizing v with
  | nil =>
    rw [alike_nil_iff.mp h]
    rfl
  | cons c w ih =>
    obtain ⟨d, v, rfl, hsame, hrest⟩ := alike_cons_iff.mp h
    have hblank := isBlank_of_sameCase hsame
    cases hc : isBlank c with
    | true =>
      rw [List.dropWhile_cons_of_pos hc, List.dropWhile_cons_of_pos (hblank.trans hc)]
      exact ih hrest
    | false =>
      rw [List.dropWhile_cons_of_neg (Bool.eq_false_iff.mp hc),
        List.dropWhile_cons_of_neg (Bool.eq_false_iff.mp (hblank.trans hc))]
      exact h

theorem Alike.trimChars {v w : List Char} (h : Alike v w) :
    Alike (trimChars v) (trimChars w) :=
  h.dropWhile_isBlank.reverse.dropWhile_isBlank.reverse

theorem Alike.wordsAfter {v w word word' : List Char} (hword : Alike word word') (h : Alike v w) :
    List.Forall₂ Alike (wordsAfter word v) (wordsAfter word' w) := by
  have hempty : ∀ {word word' : List Char}, Alike word word' → word.isEmpty = word'.isEmpty := by
    intro word word' hword
    rw [Bool.eq_iff_iff, List.isEmpty_iff_length_eq_zero, List.isEmpty_iff_length_eq_zero,
      hword.length_eq]
  induction w generalizing v word word' with
  | nil =>
    rw [alike_nil_iff.mp h, Text.wordsAfter, Text.wordsAfter, hempty hword]
    split
    · exact .nil
    · exact .cons hword.reverse .nil
  | cons c w ih =>
    obtain ⟨d, v, rfl, hsame, hrest⟩ := alike_cons_iff.mp h
    rw [Text.wordsAfter, Text.wordsAfter, isBlank_of_sameCase hsame, hempty hword]
    split
    · split
      · exact ih rfl hrest
      · exact .cons hword.reverse (ih rfl hrest)
    · exact ih (alike_cons_iff.mpr ⟨d, word, rfl, hsame, hword⟩) hrest

/-- **Alike texts have alike words.** -/
theorem Alike.words {v w : List Char} (h : Alike v w) : List.Forall₂ Alike (words v) (words w) :=
  Alike.wordsAfter rfl h

/-- A piece of a text is alike to a piece of every text alike to that one. -/
theorem Alike.exists_isInfix {v w u : List Char} (h : Alike v w) (hu : u <:+: v) :
    ∃ u', u' <:+: w ∧ Alike u u' := by
  obtain ⟨x, y, rfl⟩ := hu
  obtain ⟨w', z, rfl, hw, hz⟩ := List.map_eq_append_iff.mp ((List.map_append ..).symm.trans h).symm
  obtain ⟨x', u', rfl, -, hu⟩ := List.map_eq_append_iff.mp (hw.trans (List.map_append ..))
  exact ⟨u', ⟨x', z, rfl⟩, hu.symm⟩

/-- Both small sigmas are what a capital sigma is in lowercase, up to case. -/
theorem alike_unmarked_sigma {c : Char} (h : c = 'ς' ∨ c = 'σ') :
    Alike ([c].flatMap unmarked) ((unmarked 'Σ').flatMap lowercaseChar) := by
  have hsmall : unmarked 'σ' = ['σ'] := unmarked_ofNat parts_agree.2.2.2
  have hfinal : unmarked 'ς' = ['ς'] := unmarked_ofNat parts_agree.2.2.1
  have hlower : lowercaseChar 'Σ' = ['σ'] := by decide
  rw [← flatMap_unmarked_lowercaseChar, hlower, List.flatMap_singleton, List.flatMap_singleton]
  rcases h with rfl | rfl
  · rw [hsmall, hfinal]
    unfold Alike
    decide
  · rfl

/-- **Case and marks do not interfere**, but for the two small sigmas. -/
theorem alike_flatMap_unmarked_lowercaseAfter (before cs : List Char) :
    Alike ((lowercaseAfter before cs).flatMap unmarked)
      ((cs.flatMap unmarked).flatMap lowercaseChar) := by
  induction cs generalizing before with
  | nil => rfl
  | cons c cs ih =>
    rw [lowercaseAfter, List.flatMap_append, List.flatMap_cons, List.flatMap_append]
    refine .append ?_ (ih (c :: before))
    by_cases hsigma : c = 'Σ'
    · rw [if_pos hsigma, hsigma]
      split
      · exact alike_unmarked_sigma (.inl rfl)
      · exact alike_unmarked_sigma (.inr rfl)
    · rw [if_neg hsigma, flatMap_unmarked_lowercaseChar]
      rfl

end Text

/-! ## Searches -/

namespace Needle

/-- **What some words look like, alike words look like, and every text alike to it.** -/
theorem Strewn.congr {gap : Nat} {ws ws' : List (List Char)} {v v' : List Char}
    (h : Strewn gap ws v) (hws : List.Forall₂ Text.Alike ws ws') (hv : Text.Alike v v') :
    Strewn gap ws' v' := by
  induction h generalizing ws' v' with
  | last h =>
    cases hws with
    | cons hword hnil =>
      cases hnil
      exact .last (hv.symm.trans (h.trans hword))
  | next h hgap hline _ ih =>
    cases hws with
    | cons hword hrest =>
      rw [Text.Alike, List.map_append, List.map_append] at hv
      obtain ⟨_, after, rfl, hv, hafter⟩ := List.map_eq_append_iff.mp hv.symm
      obtain ⟨v', g', rfl, hv, hg⟩ := List.map_eq_append_iff.mp hv
      refine .next (hv.trans (h.trans hword)) ?_ (fun hmem => hline ?_) (ih hrest hafter.symm)
      · exact (Text.Alike.length_eq hg).le.trans hgap
      · -- a newline has no case
        obtain ⟨k, hk, hk'⟩ := List.mem_iff_getElem.mp hmem
        obtain ⟨d, hd, hsame⟩ := Text.Alike.sameCase hg.symm
          (List.getElem?_eq_some_iff.mpr ⟨hk, hk'⟩)
        have hnocase : Text.hasNoCase '\n' = true := Text.hasNoCase_of_isBlank (by decide)
        rw [(Text.sameCase_iff_of_hasNoCase hnocase d).mp hsame] at hd
        exact List.mem_of_getElem? hd

end Needle

namespace Equality

/-- **A loose search cannot tell alike texts apart.** -/
theorem seeks_loose_congr [PatternCompiler] {gap : Nat} {type : Option FieldType}
    {needle needle' text text' : String}
    (hneedle : Text.Alike (Needle.prepare needle) (Needle.prepare needle'))
    (htext : Text.Alike (Needle.prepare text) (Needle.prepare text')) :
    seeks gap .loose type needle text = seeks gap .loose type needle' text' := by
  have hfinds : ∀ {needle needle' text text' : String},
      Text.Alike (Needle.prepare needle) (Needle.prepare needle') →
      Text.Alike (Needle.prepare text) (Needle.prepare text') →
      seeks gap .loose type needle text = true → seeks gap .loose type needle' text' = true := by
    intro needle needle' text text' hneedle htext h
    obtain ⟨hne, hcompiles, v, hpiece, hstrewn⟩ := seeks_loose_iff.mp h
    have hwords := hneedle.words
    obtain ⟨v', hpiece', hv⟩ := htext.exists_isInfix hpiece
    refine seeks_loose_iff.mpr ⟨?_, ?_, v', hpiece', hstrewn.congr hwords hv⟩
    · rwa [← List.length_pos_iff, ← hwords.length_eq, List.length_pos_iff]
    · exact (Needle.compiles_congr hwords).symm.trans hcompiles
  exact Bool.eq_iff_iff.mpr ⟨hfinds hneedle htext, hfinds hneedle.symm htext.symm⟩

/-! ## Bare texts -/

/-- **What is left of a string when accents are ignored**: its characters without marks, in
lowercase and without blanks around them. -/
def bare (s : String) : List Char :=
  Text.trimChars ((Text.stripMarks s).toList.flatMap Text.lowercaseChar)

theorem toList_normalize (s : String) :
    (normalize s).toList = Text.trimChars (Text.lowercaseAfter [] s.toList) := by
  rw [normalize, Text.trim, Text.lowercase, String.toList_ofList, String.toList_ofList]

theorem prepare_normalize (s : String) : Needle.prepare (normalize s) =
    Text.trimChars ((Text.lowercaseAfter [] s.toList).flatMap Text.unmarked) := by
  rw [Needle.prepare, Text.stripMarks, String.toList_ofList, toList_normalize,
    Text.trimChars_flatMap_unmarked]

/-- **A loose search sees the bare text of a string**, up to case. -/
theorem alike_prepare (s : String) : Text.Alike (Needle.prepare (normalize s)) (bare s) := by
  rw [prepare_normalize, bare, Text.stripMarks, String.toList_ofList]
  exact (Text.alike_flatMap_unmarked_lowercaseAfter [] s.toList).trimChars

/-- **A string whose bare text strict equality sees.** Lowercasing a capital sigma depends on the
characters around it, so there is none, and no mark stands between the rest of the string and
blanks at its ends. -/
structure Tidy (s : String) : Prop where
  sigma : 'Σ' ∉ s.toList
  ends : Text.Trimmed (Text.stripMarks (normalize s)).toList

/-- **A strict search on a text field sees the bare text of a tidy string.** -/
theorem Tidy.toList_stripMarks {s : String} (h : Tidy s) :
    (Text.stripMarks (normalize s)).toList = bare s := by
  have hprepare : Needle.prepare (normalize s) = bare s := by
    rw [prepare_normalize, Text.flatMap_unmarked_lowercaseAfter h.sigma, bare, Text.stripMarks,
      String.toList_ofList]
  rw [← hprepare, Needle.prepare, Text.trimChars_of_trimmed h.ends]

/-- **A tidy string stays tidy without its marks.** -/
theorem Tidy.stripMarks {s : String} (h : Tidy s) : Tidy (Text.stripMarks s) := by
  have hsigma : 'Σ' ∉ (Text.stripMarks s).toList := by
    rw [Text.stripMarks, String.toList_ofList]
    intro hmem
    obtain ⟨c, hc, hsigma⟩ := List.mem_flatMap.mp hmem
    exact h.sigma (Text.sigma_of_mem_unmarked hsigma ▸ hc)
  refine ⟨hsigma, ?_⟩
  -- what is left is in lowercase without its marks, so nothing is dropped after the blanks are
  have hplain : (Text.lowercaseAfter [] (Text.stripMarks s).toList).flatMap Text.unmarked
      = Text.lowercaseAfter [] (Text.stripMarks s).toList := by
    have htwice := congrArg String.toList (Text.stripMarks_stripMarks s)
    rw [Text.stripMarks, String.toList_ofList] at htwice
    rw [Text.flatMap_unmarked_lowercaseAfter hsigma, htwice, Text.lowercaseAfter_eq_flatMap hsigma]
  have hkept : (normalize (Text.stripMarks s)).toList.flatMap Text.unmarked
      = (normalize (Text.stripMarks s)).toList := by
    refine Text.flatMap_eq_self fun d hd => ?_
    rw [toList_normalize] at hd
    have hmem := (Text.isInfix_trimChars_self _).subset hd
    rw [← hplain] at hmem
    obtain ⟨c, -, hc⟩ := List.mem_flatMap.mp hmem
    exact Text.unmarked_of_mem hc
  rw [Text.stripMarks, String.toList_ofList, hkept, toList_normalize]
  exact Text.trimmed_trimChars _

/-- **Tidy strings that are the same without their marks** are still so after the blanks are
dropped. -/
theorem Tidy.stripMarks_normalize_eq {a a' : String} (ha : Tidy a) (ha' : Tidy a')
    (h : Text.stripMarks a = Text.stripMarks a') :
    Text.stripMarks (normalize a) = Text.stripMarks (normalize a') := by
  have hbare : bare a = bare a' := by rw [bare, bare, h]
  exact String.toList_inj.mp (by rw [ha.toList_stripMarks, ha'.toList_stripMarks, hbare])

/-! ## Needles and texts -/

/-- **A string with a character that is neither a mark nor a blank.** -/
def Inked (s : String) : Prop := ∃ c ∈ (Text.stripMarks s).toList, Text.isBlank c = false

theorem Inked.normalize_ne {s : String} (h : Inked s) : normalize s ≠ "" := by
  intro hempty
  have halike := alike_prepare s
  rw [hempty] at halike
  have hbare : bare s = [] := Text.alike_nil_iff.mp halike.symm
  obtain ⟨c, hc, hsolid⟩ := h
  obtain ⟨d, hd, hdsolid⟩ := Text.exists_lowercaseChar_of_not_blank hsolid
  have hblank := Text.isBlank_of_trimChars_eq_nil hbare d (List.mem_flatMap.mpr ⟨c, hc, hd⟩)
  rw [hdsolid] at hblank
  cases hblank

section Search

variable [PatternCompiler] {gap : Nat} {mode : EqualityMode} {type : Option FieldType}

/-- **The searches that drop the marks of two strings**: the loose ones, and those of strict
equality on text fields if the two differ in their marks alone after the blanks are dropped. -/
def Unaccented (mode : EqualityMode) (type : Option FieldType) (a a' : String) : Prop :=
  mode = .loose ∨ mode = .strict ∧ type = some .text ∧
    Text.stripMarks (normalize a) = Text.stripMarks (normalize a')

/-- **Such a search sees strings with the same bare text as the same**, as a needle and as a
text. -/
theorem seeks_of_bare_eq (gap : Nat) {a a' : String} (hbare : bare a = bare a')
    (h : Unaccented mode type a a') (r : String) :
    seeks gap mode type (normalize a) r = seeks gap mode type (normalize a') r ∧
      seeks gap mode type r (normalize a) = seeks gap mode type r (normalize a') := by
  rcases h with rfl | ⟨rfl, rfl, hstrip⟩
  · have halike := alike_prepare a
    rw [hbare] at halike
    replace halike : Text.Alike (Needle.prepare (normalize a)) (Needle.prepare (normalize a')) :=
      halike.trans (alike_prepare a').symm
    have hr : Text.Alike (Needle.prepare r) (Needle.prepare r) := rfl
    exact ⟨seeks_loose_congr halike hr, seeks_loose_congr hr halike⟩
  · simp only [seeks, contains, hstrip, if_true, and_self]

/-- **Two needles that are the same to a search** make the same equality if they are shorter than
the text alike, or if it does not matter which one is the needle. -/
theorem normalizedEqual_eq_iff {l l' r : String} (hl : l ≠ "") (hl' : l' ≠ "") (hr : r ≠ "")
    (hneedle : seeks gap mode type l r = seeks gap mode type l' r)
    (htext : seeks gap mode type r l = seeks gap mode type r l') :
    (normalizedEqual gap mode type l r = normalizedEqual gap mode type l' r ↔
      (r.length < l.length ↔ r.length < l'.length) ∨
        seeks gap mode type l r = seeks gap mode type r l) ∧
    (normalizedEqual gap mode type r l = normalizedEqual gap mode type r l' ↔
      (l.length < r.length ↔ l'.length < r.length) ∨
        seeks gap mode type l r = seeks gap mode type r l) := by
  rw [normalizedEqual_of_ne hl hr, normalizedEqual_of_ne hl' hr, normalizedEqual_of_ne hr hl,
    normalizedEqual_of_ne hr hl']
  simp only [needleOf, haystackOf]
  constructor
  · by_cases h : r.length < l.length <;> by_cases h' : r.length < l'.length <;>
      simp [h, h', hneedle, htext, eq_comm]
  · by_cases h : l.length < r.length <;> by_cases h' : l'.length < r.length <;>
      simp [h, h', hneedle, htext, eq_comm]

end Search

end Equality

/-! ## Matchers -/

namespace Matcher

open Equality

/-- **When accents make no difference to an equality.** Whatever was asked before, let `a` and
`a'` be strings that are the same without their marks, with something left that is no blank, and
let `b` be another string with such a character. In loose mode on every field, and in strict mode
on a text field if `a` and `a'` are still the same without their marks after the blanks around
them are dropped, `a` and `a'` are equal to `b` alike if and only if

* each of the two is longer than `b` or neither is, as they are compared, so that the needle is on
  the same side, or
* `a` is found in `b` just as `b` is found in `a`, so that it does not matter which is the needle;

and the same goes for `b` on the left side, if they are both shorter than `b` or neither is. One
such `a'` is `a` without its marks, in strict mode if `a` is tidy. -/
theorem equalValues_eq_of_stripMarks_iff [PatternCompiler] {Card Context : Type}
    {s : Scope Card Context} {m n : Matcher Card Context} (hm : Of s m) (hn : Of s n)
    {mode : EqualityMode}
    {type : Option FieldType} {a a' b : String} (ha : Inked a) (hb : Inked b)
    (hsame : Text.stripMarks a = Text.stripMarks a') (hmode : Unaccented mode type a a') :
    ((m.equalValues mode type (.string a) (.string b)).1
        = (n.equalValues mode type (.string a') (.string b)).1 ↔
      ((normalize b).length < (normalize a).length ↔ (normalize b).length < (normalize a').length) ∨
        seeks s.options.gap mode type (normalize a) (normalize b)
          = seeks s.options.gap mode type (normalize b) (normalize a)) ∧
    ((m.equalValues mode type (.string b) (.string a)).1
        = (n.equalValues mode type (.string b) (.string a')).1 ↔
      ((normalize a).length < (normalize b).length ↔ (normalize a').length < (normalize b).length) ∨
        seeks s.options.gap mode type (normalize a) (normalize b)
          = seeks s.options.gap mode type (normalize b) (normalize a)) ∧
    Text.stripMarks a = Text.stripMarks (Text.stripMarks a) ∧
    (Tidy a → Text.stripMarks (normalize a)
      = Text.stripMarks (normalize (Text.stripMarks a))) := by
  have ha' : Inked a' := by rwa [Inked, ← hsame]
  have hbare : bare a = bare a' := by rw [bare, bare, hsame]
  obtain ⟨hneedle, htext⟩ := seeks_of_bare_eq s.options.gap hbare hmode (normalize b)
  obtain ⟨hleft, hright⟩ := normalizedEqual_eq_iff ha.normalize_ne ha'.normalize_ne
    hb.normalize_ne hneedle htext
  have htwice := (Text.stripMarks_stripMarks a).symm
  refine ⟨?_, ?_, htwice, fun htidy => htidy.stripMarks_normalize_eq htidy.stripMarks htwice⟩
  · rw [hm.equalValues_leaves mode type rfl rfl, hn.equalValues_leaves mode type rfl rfl,
      answerOf_scalars_string ha.normalize_ne hb.normalize_ne,
      answerOf_scalars_string ha'.normalize_ne hb.normalize_ne]
    exact hleft
  · rw [hm.equalValues_leaves mode type rfl rfl, hn.equalValues_leaves mode type rfl rfl,
      answerOf_scalars_string hb.normalize_ne ha.normalize_ne,
      answerOf_scalars_string hb.normalize_ne ha'.normalize_ne]
    exact hright

/-- The accents of `élevé` make no difference to `eleve`, which is shorter than the decomposed
spelling and not shorter than the composed one. -/
theorem equalValues_eq_of_stripMarks_iff_spellings :
    let m : Matcher Unit Unit := fresh ⟨.empty, (), .standard⟩
    Inked "e\u0301leve\u0301" ∧ Inked "eleve" ∧
      Text.stripMarks "e\u0301leve\u0301" = Text.stripMarks "élevé" ∧
      Unaccented .strict (some .text) "e\u0301leve\u0301" "élevé" ∧
      (m.equalValues .strict (some .text) (.string "e\u0301leve\u0301") (.string "eleve")).1
        = (m.equalValues .strict (some .text) (.string "élevé") (.string "eleve")).1 := by
  intro m
  obtain ⟨haccented, hplain, hsame, hnormalized, hfound⟩ :
      Text.stripMarks "e\u0301leve\u0301" = "eleve" ∧ Text.stripMarks "eleve" = "eleve" ∧
      Text.stripMarks "e\u0301leve\u0301" = Text.stripMarks "élevé" ∧
      Text.stripMarks (normalize "e\u0301leve\u0301") = Text.stripMarks (normalize "élevé") ∧
      seeks 20 .strict (some .text) (normalize "e\u0301leve\u0301") (normalize "eleve")
        = seeks 20 .strict (some .text) (normalize "eleve") (normalize "e\u0301leve\u0301") := by
    decide +kernel
  have hinked : Inked "e\u0301leve\u0301" := ⟨'l', by rw [haccented]; decide, by decide⟩
  have hother : Inked "eleve" := ⟨'l', by rw [hplain]; decide, by decide⟩
  have hmode : Unaccented .strict (some .text) "e\u0301leve\u0301" "élevé" :=
    .inr ⟨rfl, rfl, hnormalized⟩
  refine ⟨hinked, hother, hsame, hmode, ?_⟩
  -- the needle changes sides, but each is found in the other
  exact (equalValues_eq_of_stripMarks_iff (.fresh m.scope) (.fresh m.scope) hinked hother hsame
    hmode).1.mpr (.inr hfound)

/-- **Accents do make a difference**: `eleves` is not found in a decomposed `élevé`, which is
longer, and the same word without its marks is found in `eleves`. -/
theorem equalValues_ne_stripMarks :
    let m : Matcher Unit Unit := fresh ⟨.empty, (), .standard⟩
    let accented := "e\u0301leve\u0301"
    Text.stripMarks accented = "eleve" ∧ Text.stripMarks "élevé" = "eleve" ∧
      (m.equalValues .loose none (.string accented) (.string "eleves")).1 = false ∧
      (m.equalValues .loose none (.string "eleve") (.string "eleves")).1 = true ∧
      (m.equalValues .strict (some .text) (.string accented) (.string "eleves")).1 = false ∧
      (m.equalValues .strict (some .text) (.string "eleve") (.string "eleves")).1 = true ∧
      (m.equalValues .strict (some .text) (.string "élevé") (.string "eleves")).1 = true := by
  decide +kernel

end Matcher

end CardQuery
