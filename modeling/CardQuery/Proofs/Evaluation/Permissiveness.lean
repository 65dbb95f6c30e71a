import CardQuery.Proofs.Evaluation.Leaves
import CardQuery.Proofs.Pattern.Findable

/-!
# How much an equality admits

Strict equality on a text field admits whatever it admits on other fields,
since a text contains itself. Loose equality admits whatever strict equality
admits on any field, but not without exception: what strict equality finds as
it stands, loose equality looks for word by word. What stands between two words
has to fit in a gap, and the needle has to be compiled. A pair of strings is
`Equality.Obscured` if the one that is looked for could not be found like that
even in itself.

There are such strings, and they are the only exception. Two leaves that are
strictly equal and not obscured strings make all that they are leaves of
loosely equal, and strings that are the same text are loosely equal exactly if
they are not obscured (`Matcher.equalValues_widens`).
-/

namespace CardQuery

namespace Equality

variable [PatternCompiler]

/-! ## Searches -/

section Searches

variable {gap : Nat} {type : Option FieldType} {needle text : String}

/-- On a text field strict equality finds what it finds on any field. -/
theorem seeks_text_of_strict (h : seeks gap .strict type needle text = true) :
    seeks gap .strict (some .text) needle text = true := by
  by_cases htype : type = some .text
  · rwa [htype] at h
  · rw [seeks, if_neg htype, beq_iff_eq] at h
    rw [seeks, if_pos rfl, contains, isPieceOf_iff, h]

/-- What strict equality finds is a piece of the text. -/
theorem isInfix_of_seeks_strict (h : seeks gap .strict type needle text = true) :
    Needle.prepare needle <:+: Needle.prepare text := by
  have hcontains := seeks_text_of_strict h
  rw [seeks, if_pos rfl, contains, isPieceOf_iff] at hcontains
  exact Text.isInfix_trimChars hcontains

/-- **Loose equality finds a findable needle** wherever it is a piece of the
text. -/
theorem seeks_loose_of_isInfix (h : Needle.Findable gap (Needle.prepare needle))
    (hpiece : Needle.prepare needle <:+: Needle.prepare text) :
    seeks gap .loose type needle text = true :=
  seeks_loose_iff.mpr ⟨h.words, h.compiled, _, hpiece, h.strewn (Text.trimmed_trimChars _)⟩

/-- **Loose equality finds a text in itself** exactly if it is findable. -/
theorem seeks_loose_self_iff :
    seeks gap .loose type text text = true ↔ Needle.Findable gap (Needle.prepare text) :=
  seeks_loose_iff.trans (Needle.findable_iff_strewn (Text.trimmed_trimChars _)).symm

end Searches

/-! ## Strings -/

/-- **A pair of strings of which the needle is not findable.** Neither is
empty, and the one that is looked for has no words, or something between two
of its words that fits in no gap, or it makes no needle that is compiled. -/
structure Obscured (gap : Nat) (s t : String) : Prop where
  left : normalize s ≠ ""
  right : normalize t ≠ ""
  lost : ¬ Needle.Findable gap (Needle.prepare (needleOf (normalize s) (normalize t)))

section Texts

variable {gap gap' : Nat} {mode mode' : EqualityMode} {type type' : Option FieldType}

/-- Two texts that are equal remain so where more is found. -/
theorem normalizedEqual_mono {l r : String} (h : normalizedEqual gap mode type l r = true)
    (hseeks : l ≠ "" → r ≠ "" → seeks gap mode type (needleOf l r) (haystackOf l r) = true →
      seeks gap' mode' type' (needleOf l r) (haystackOf l r) = true) :
    normalizedEqual gap' mode' type' l r = true := by
  by_cases hempty : (l.isEmpty || r.isEmpty) = true
  · rw [normalizedEqual, if_pos hempty] at h ⊢
    exact h
  · rw [Bool.or_eq_true, String.isEmpty_iff, String.isEmpty_iff] at hempty
    obtain ⟨hl, hr⟩ := not_or.mp hempty
    rw [normalizedEqual_of_ne hl hr] at h ⊢
    exact hseeks hl hr h

theorem normalizedEqual_loose_of_strict {s t : String} (hobscured : ¬ Obscured gap s t)
    (h : normalizedEqual gap .strict type (normalize s) (normalize t) = true) :
    normalizedEqual gap .loose type' (normalize s) (normalize t) = true := by
  refine normalizedEqual_mono h fun hs ht hseeks => ?_
  have hfindable : Needle.Findable gap (Needle.prepare (needleOf (normalize s) (normalize t))) :=
    Classical.byContradiction fun hlost => hobscured ⟨hs, ht, hlost⟩
  exact seeks_loose_of_isInfix hfindable (isInfix_of_seeks_strict hseeks)

/-- A text is loosely equal to itself exactly if it is findable. -/
theorem normalizedEqual_loose_self_iff {l : String} (hl : l ≠ "") :
    normalizedEqual gap .loose type l l = true ↔ Needle.Findable gap (Needle.prepare l) := by
  rw [normalizedEqual_of_ne hl hl, needleOf, haystackOf, if_neg (Nat.lt_irrefl _),
    seeks_loose_self_iff]

end Texts

/-! ## Values -/

section Values

variable {options options' : SearchOptions} {mode mode' : EqualityMode}
  {type type' : Option FieldType}

/-- **Mode, type and options matter to strings only.** -/
theorem scalars_eq_of_not_strings {a b : Value} (h : ∀ s t, a = .string s → b ≠ .string t) :
    scalars options mode type a b = scalars options' mode' type' a b := by
  unfold scalars
  split
  · rfl
  split
  · rfl
  cases a with
  | string s =>
    cases b with
    | string t => exact absurd rfl (h s t rfl)
    | _ => rfl
  | _ => cases b <;> rfl

/-- Two leaves that are equal remain so where equal texts do. -/
theorem answerOf_scalars_mono {a b : Value}
    (h : answerOf (scalars options mode type a b) = true)
    (htexts : ∀ s t, a = .string s → b = .string t →
      normalizedEqual options.gap mode type (normalize s) (normalize t) = true →
        normalizedEqual options'.gap mode' type' (normalize s) (normalize t) = true) :
    answerOf (scalars options' mode' type' a b) = true := by
  by_cases hstrings : ∃ s t, a = .string s ∧ b = .string t
  · obtain ⟨s, t, rfl, rfl⟩ := hstrings
    rw [answerOf_scalars_strings] at h ⊢
    by_cases hempty : (s.isEmpty || t.isEmpty) = true
    · rwa [if_pos hempty] at h ⊢
    · rw [if_neg hempty] at h ⊢
      exact htexts s t rfl rfl h
  · rwa [← scalars_eq_of_not_strings fun s t hs ht => hstrings ⟨s, t, hs, ht⟩]

theorem answerOf_scalars_text_of_strict {a b : Value}
    (h : answerOf (scalars options .strict type a b) = true) :
    answerOf (scalars options .strict (some .text) a b) = true :=
  answerOf_scalars_mono h fun _ _ _ _ hequal =>
    normalizedEqual_mono hequal fun _ _ hseeks => seeks_text_of_strict hseeks

theorem answerOf_scalars_loose_of_strict {a b : Value}
    (hobscured : ∀ s t, a = .string s → b = .string t → ¬ Obscured options.gap s t)
    (h : answerOf (scalars options .strict type a b) = true) :
    answerOf (scalars options .loose type' a b) = true :=
  answerOf_scalars_mono h fun s t hs ht hequal =>
    normalizedEqual_loose_of_strict (hobscured s t hs ht) hequal

end Values

end Equality

/-! ## Matchers -/

namespace Matcher

open Equality

section Of

variable [PatternCompiler] {Card Context : Type} {s : Scope Card Context}
  {m n : Matcher Card Context}

/-- Two values are equal if and only if two leaves of theirs are. -/
theorem Of.equalValues_iff (h : Of s m) {mode : EqualityMode} {type : Option FieldType}
    {left right : Value} : (m.equalValues mode type left right).1 = true ↔
      ∃ a ∈ left.leaves, ∃ b ∈ right.leaves, (m.equalValues mode type a b).1 = true := by
  rw [h.equalValues_eq, List.any_eq_true]
  simp only [List.any_eq_true]
  refine exists_congr fun a => and_congr_right fun ha => exists_congr fun b =>
    and_congr_right fun hb => ?_
  rw [h.equalValues_leaves mode type (Value.leaves_of_mem ha) (Value.leaves_of_mem hb)]

/-- **Two leaves that are equal make all that they are leaves of equal**, where
what makes them equal in one way makes them equal in another. -/
theorem Of.equalValues_mono (hm : Of s m) (hn : Of s n) {mode mode' : EqualityMode}
    {type type' : Option FieldType} {left right a b : Value} (ha : a ∈ left.leaves)
    (hb : b ∈ right.leaves) (h : (m.equalValues mode type a b).1 = true)
    (hscalars : answerOf (scalars s.options mode type a b) = true →
      answerOf (scalars s.options mode' type' a b) = true) :
    (n.equalValues mode' type' left right).1 = true := by
  have ha' := Value.leaves_of_mem ha
  have hb' := Value.leaves_of_mem hb
  rw [hm.equalValues_leaves mode type ha' hb'] at h
  refine hn.equalValues_iff.mpr ⟨a, ha, b, hb, ?_⟩
  rw [hn.equalValues_leaves mode' type' ha' hb']
  exact hscalars h

/-- Empty strings are equal to themselves. -/
theorem Of.equalValues_self_of_empty (h : Of s m) (mode : EqualityMode) (type : Option FieldType)
    {a : String} (ha : normalize a = "") :
    (m.equalValues mode type (.string a) (.string a)).1 = true := by
  rw [h.equalValues_leaves mode type rfl rfl, answerOf_scalars_strings, ha, Bool.or_self,
    Bool.and_self]
  split
  · next hempty => exact hempty
  · rfl

end Of

/-- **Equality is strict, strict on a text field, and loose, from narrow to
wide**, whatever was asked before. What is strictly equal on any field is so on
a text field. What is strictly equal is loosely equal too, unless all the
leaves that make it so are obscured strings. Two strings that are the same text
are loosely equal exactly if the text is findable, and a string with nothing in
it is always loosely equal to itself. -/
theorem equalValues_widens [PatternCompiler] {Card Context : Type} {s : Scope Card Context}
    {m n : Matcher Card Context} (hm : Of s m) (hn : Of s n) (type : Option FieldType) :
    (∀ left right, (m.equalValues .strict type left right).1 = true →
      (n.equalValues .strict (some .text) left right).1 = true) ∧
    (∀ left right, (m.equalValues .strict type left right).1 = true →
      (n.equalValues .loose type left right).1 = true ∨
      ∀ a ∈ left.leaves, ∀ b ∈ right.leaves, (m.equalValues .strict type a b).1 = true →
        ∃ c d, a = .string c ∧ b = .string d ∧ Obscured s.options.gap c d) ∧
    (∀ a b, normalize a = normalize b → normalize a ≠ "" →
      ((n.equalValues .loose type (.string a) (.string b)).1 = true ↔
        Needle.Findable s.options.gap (Needle.prepare (normalize a)))) ∧
    ∀ a, normalize a = "" →
      (n.equalValues .loose type (.string a) (.string a)).1 = true := by
  refine ⟨fun left right h => ?_, fun left right _ => ?_, fun a b hsame hne => ?_,
    fun a => hn.equalValues_self_of_empty .loose type⟩
  · obtain ⟨a, ha, b, hb, hequal⟩ := hm.equalValues_iff.mp h
    exact hm.equalValues_mono hn ha hb hequal answerOf_scalars_text_of_strict
  · refine or_iff_not_imp_left.mpr fun hloose a ha b hb hequal =>
      Classical.byContradiction fun hclear => hloose ?_
    refine hm.equalValues_mono hn ha hb hequal (answerOf_scalars_loose_of_strict ?_)
    exact fun c d hc hd hobscured => hclear ⟨c, d, hc, hd, hobscured⟩
  · rw [hn.equalValues_leaves .loose type rfl rfl, answerOf_scalars_string hne (hsame ▸ hne),
      ← hsame, normalizedEqual_loose_self_iff hne]

/-- A blank between two words fits in a gap of the standard size. -/
theorem findable_blank : Needle.Findable 20 (Needle.prepare (normalize "a b")) := by
  have hprepare : Needle.prepare (normalize "a b") = ['a', ' ', 'b'] := by decide +kernel
  rw [hprepare]
  exact ⟨by decide +kernel, Text.runsWithin_of_length_le (by decide), by decide,
    by decide +kernel⟩

theorem equalValues_widens_blank :
    let m : Matcher Unit Unit := fresh ⟨.empty, (), .standard⟩
    (m.equalValues .strict (some .text) (.string "a b") (.string "A B")).1 = true ∧
      (m.equalValues .loose none (.array [.null, .string "a b"]) (.string "A B")).1 = true ∧
      (m.equalValues .loose none (.string "A B") (.string "a b")).1 = true ∧
      (m.equalValues .loose none (.string " ") (.string " ")).1 = true := by
  intro m
  obtain ⟨htext, hloose, hself, hempty⟩ :=
    equalValues_widens (.fresh m.scope) (.fresh m.scope) none
  have hstrict : (m.equalValues .strict none (.string "a b") (.string "A B")).1 = true := by
    decide +kernel
  have hsame : normalize "A B" = normalize "a b" := by decide +kernel
  refine ⟨htext _ _ hstrict, ?_, ?_, hempty " " (by decide +kernel)⟩
  · have hmany : (m.equalValues .strict none (.array [.null, .string "a b"])
        (.string "A B")).1 = true := by decide +kernel
    refine (hloose _ _ hmany).resolve_right fun hobscured => ?_
    obtain ⟨c, d, hc, hd, -, -, hlost⟩ :=
      hobscured (.string "a b") (by simp [Value.leaves, Value.leavesOf]) (.string "A B")
        (by simp [Value.leaves]) hstrict
    obtain rfl := Value.string.inj hc
    obtain rfl := Value.string.inj hd
    rw [hsame, needleOf, if_neg (Nat.lt_irrefl _)] at hlost
    exact hlost findable_blank
  · refine (hself "A B" "a b" hsame (by decide +kernel)).mpr ?_
    rw [hsame]
    exact findable_blank

/-- Strict equality as such is not narrower: where nothing may stand between
two words, a text of two words is not loosely equal to itself. -/
theorem equalValues_not_widens :
    let m : Matcher Unit Unit := fresh ⟨.empty, (), ⟨0, 1000⟩⟩
    (m.equalValues .strict none (.string "a b") (.string "a b")).1 = true ∧
      (m.equalValues .loose none (.string "a b") (.string "a b")).1 = false := by
  decide +kernel

end Matcher

end CardQuery
