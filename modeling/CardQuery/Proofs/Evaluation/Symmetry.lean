import CardQuery.Proofs.Evaluation.Leaves
import CardQuery.Proofs.Number.Bits
import CardQuery.Proofs.Text.Words

/-!
# Equality from both sides

Numbers, truth values and blanks are equal to each other from both sides, and
so are two texts of which one is shorter, because that one is looked for in
the other whichever side it stands on. Where two texts are equally long, the
left one is looked for. They may then be equal from one side only, and such a
pair is `Equality.Lopsided`.

A pair is lopsided only where length does not tell what is in a text: if
diacritics count for the length but not in the search, or if one of the texts
has several words, which need not stand side by side in the other
(`Equality.Lopsided.shape`). Nothing else can tell the sides of an equality
apart, be it of values (`Equality.answerOf_values_comm`) or of operands in a
query (`Scope.answer_compares_comm`).
-/

namespace CardQuery

namespace Equality

variable [PatternCompiler]

/-! ## Lopsided pairs -/

/-- **A pair of texts that are equal from one side only**: equally long, so that
the left one is looked for, and not found in the same way. -/
structure Lopsided (gap : Nat) (mode : EqualityMode) (type : Option FieldType) (s t : String) :
    Prop where
  left : normalize s ≠ ""
  right : normalize t ≠ ""
  tied : (normalize s).length = (normalize t).length
  differs : seeks gap mode type (normalize s) (normalize t)
    ≠ seeks gap mode type (normalize t) (normalize s)

section Texts

variable {gap : Nat} {type : Option FieldType}

omit [PatternCompiler] in
/-- Equally long texts of which one contains the other are the same. -/
theorem contains_comm {s t : String} (h : (Text.stripMarks s).length = (Text.stripMarks t).length) :
    contains s t = contains t s := by
  have heq : ∀ {s t : String}, (Text.stripMarks s).length = (Text.stripMarks t).length →
      (contains s t = true ↔ (Text.stripMarks s).toList = (Text.stripMarks t).toList) := by
    intro s t hlength
    rw [contains, isPieceOf_iff]
    rw [← String.length_toList, ← String.length_toList] at hlength
    generalize (Text.stripMarks s).toList = piece at hlength ⊢
    generalize (Text.stripMarks t).toList = text at hlength ⊢
    constructor
    · exact fun hpiece => hpiece.eq_of_length hlength
    · rintro rfl
      exact List.infix_refl piece
  rw [Bool.eq_iff_iff, heq h, heq h.symm, eq_comm]

/-- A needle of one word is found in an equally long text without blanks if it is
compiled and the two are alike. -/
theorem seeks_loose_iff_alike {s t : String} (hs : Text.IsWord (Needle.prepare s))
    (hlength : (Needle.prepare s).length = (Needle.prepare t).length) :
    seeks gap .loose type s t = true ↔ Needle.compiles ⟨[Needle.prepare s], gap⟩ = true ∧
      Text.Alike (Needle.prepare t) (Needle.prepare s) := by
  rw [seeks_loose_iff, Text.words_of_isWord hs]
  constructor
  · rintro ⟨-, hcompiles, v, hpiece, hstrewn⟩
    have halike := Needle.strewn_singleton.mp hstrewn
    rw [hpiece.eq_of_length (halike.length_eq.trans hlength)] at halike
    exact ⟨hcompiles, halike⟩
  · rintro ⟨hcompiles, halike⟩
    exact ⟨List.cons_ne_nil _ _, hcompiles, _, List.infix_refl _, .last halike⟩

/-- A strict search is the same from both sides unless diacritics count for
the length. -/
theorem seeks_strict_comm {s t : String}
    (h : type = some .text → (Text.stripMarks s).length = (Text.stripMarks t).length) :
    seeks gap .strict type s t = seeks gap .strict type t s := by
  by_cases htype : type = some .text
  · rw [seeks, seeks, if_pos htype, if_pos htype, contains_comm (h htype)]
  · rw [seeks, seeks, if_neg htype, if_neg htype, BEq.comm]

/-- A loose search is the same from both sides if both texts are one word, and
equally long as they are compared. -/
theorem seeks_loose_comm {s t : String}
    (hlength : (Needle.prepare s).length = (Needle.prepare t).length)
    (hsolid : ∀ c ∈ Needle.prepare s ++ Needle.prepare t, Text.isBlank c = false) :
    seeks gap .loose type s t = seeks gap .loose type t s := by
  obtain ⟨hs, ht⟩ := List.forall_mem_append.mp hsolid
  rw [Bool.eq_iff_iff]
  by_cases hnil : Needle.prepare s = []
  · -- neither has words, so neither makes a needle
    have hnil' : Needle.prepare t = [] := by
      rw [← List.length_eq_zero_iff, ← hlength, hnil]
      rfl
    rw [seeks_loose_iff, seeks_loose_iff, hnil, hnil']
  · have hnil' : Needle.prepare t ≠ [] := by
      rwa [← List.length_pos_iff, ← hlength, List.length_pos_iff]
    rw [seeks_loose_iff_alike ⟨hnil, hs⟩ hlength,
      seeks_loose_iff_alike ⟨hnil', ht⟩ hlength.symm]
    have hcompiles : ∀ {v w : List Char}, Text.Alike v w →
        Needle.compiles ⟨[w], gap⟩ = true → Needle.compiles ⟨[v], gap⟩ = true :=
      fun halike h => (Needle.compiles_congr (.cons halike .nil)).trans h
    exact ⟨fun ⟨h, halike⟩ => ⟨hcompiles halike h, halike.symm⟩,
      fun ⟨h, halike⟩ => ⟨hcompiles halike h, halike.symm⟩⟩

/-- **Where a pair may be lopsided.** Length has to count what the search
does not, or there are blanks between words. -/
theorem Lopsided.shape {mode : EqualityMode} {s t : String} (h : Lopsided gap mode type s t) :
    (mode = .strict ∧ type = some .text ∧
      (Text.stripMarks (normalize s)).length ≠ (Text.stripMarks (normalize t)).length) ∨
    (mode = .loose ∧
      ((Needle.prepare (normalize s)).length ≠ (Needle.prepare (normalize t)).length ∨
        ∃ c ∈ Needle.prepare (normalize s) ++ Needle.prepare (normalize t),
          Text.isBlank c = true)) := by
  cases mode with
  | strict =>
    refine .inl ⟨rfl, Classical.byContradiction fun htype => h.differs ?_, fun hlength =>
      h.differs (seeks_strict_comm fun _ => hlength)⟩
    exact seeks_strict_comm fun htext => absurd htext htype
  | loose =>
    refine .inr ⟨rfl, Classical.byContradiction fun hno => h.differs ?_⟩
    obtain ⟨hlength, hblank⟩ := not_or.mp hno
    exact seeks_loose_comm (Classical.not_not.mp hlength) fun c hc =>
      Bool.eq_false_iff.mpr fun hc' => hblank ⟨c, hc, hc'⟩

/-- Of two equally long texts the left one is looked for in the right one. -/
theorem normalizedEqual_of_tied {mode : EqualityMode} {l r : String} (hl : l ≠ "") (hr : r ≠ "")
    (h : l.length = r.length) : normalizedEqual gap mode type l r = seeks gap mode type l r := by
  have hlt : ¬ r.length < l.length := Nat.not_lt_of_ge (Nat.le_of_eq h)
  rw [normalizedEqual_of_ne hl hr, needleOf, haystackOf, if_neg hlt, if_neg hlt]

/-- Two texts are equal from both sides unless they are lopsided. -/
theorem normalizedEqual_comm {mode : EqualityMode} {s t : String}
    (h : ¬ Lopsided gap mode type s t) :
    normalizedEqual gap mode type (normalize s) (normalize t)
      = normalizedEqual gap mode type (normalize t) (normalize s) := by
  unfold normalizedEqual
  rw [Bool.or_comm]
  split
  · exact BEq.comm
  · next hne =>
    obtain ⟨hright, hleft⟩ := not_or.mp (mt (Bool.or_eq_true _ _).mpr hne)
    rcases Nat.lt_trichotomy (normalize t).length (normalize s).length with hlt | htied | hlt
    · rw [if_pos hlt, if_neg (Nat.lt_asymm hlt)]
    · rw [if_neg (Nat.not_lt_of_ge (Nat.le_of_eq htied.symm)),
        if_neg (Nat.not_lt_of_ge (Nat.le_of_eq htied))]
      refine Classical.byContradiction fun hdiffers => h ⟨?_, ?_, htied.symm, hdiffers⟩
      · exact fun hempty => hleft (String.isEmpty_iff.mpr hempty)
      · exact fun hempty => hright (String.isEmpty_iff.mpr hempty)
    · rw [if_neg (Nat.lt_asymm hlt), if_pos hlt]

end Texts

/-! ## Values -/

section Values

variable {options : SearchOptions} {mode : EqualityMode} {type : Option FieldType}

omit [PatternCompiler] in
theorem asNumbers?_comm (a b : Value) :
    (asNumbers? a b <|> asNumbers? b a) = (asNumbers? b a <|> asNumbers? a b) := by
  -- a string is on one side at most, so one of the two says nothing
  have hnone : asNumbers? a b = none ∨ asNumbers? b a = none := by
    cases a with
    | string s => exact .inl rfl
    | null | array items => exact .inl rfl
    | number x | boolean x =>
      cases b with
      | string s => exact .inr rfl
      | _ => exact .inl rfl
  rcases hnone with h | h <;> rw [h] <;> simp

/-- **Two leaves are equal from both sides** unless they are lopsided
strings. -/
theorem answerOf_scalars_comm {a b : Value}
    (h : ∀ s t, a = .string s → b = .string t → ¬ Lopsided options.gap mode type s t) :
    answerOf (scalars options mode type a b) = answerOf (scalars options mode type b a) := by
  unfold scalars
  rw [asNumbers?_comm]
  split
  · rfl
  rw [Bool.or_comm, Bool.and_comm]
  split
  · rfl
  have htruth : (a.isTruthy == b.isTruthy) = (b.isTruthy == a.isTruthy) := BEq.comm
  cases a with
  | boolean x => cases b <;> exact htruth
  | number x =>
    cases b with
    | boolean y => exact htruth
    | number y => exact Number.beq_comm x y
    | _ => rfl
  | string s =>
    cases b with
    | boolean y => exact htruth
    | string t =>
      show answerOf (texts options mode type s t) = answerOf (texts options mode type t s)
      rw [answerOf_texts, answerOf_texts, normalizedEqual_comm (h s t rfl rfl)]
    | _ => rfl
  | null | array items =>
    cases b with
    | boolean y => exact htruth
    | _ => rfl

/-- No string of the one value and string of the other are lopsided. -/
def Even (gap : Nat) (mode : EqualityMode) (type : Option FieldType) (left right : Value) : Prop :=
  ∀ s t, .string s ∈ left.leaves → .string t ∈ right.leaves → ¬ Lopsided gap mode type s t

/-- **Two values are equal from both sides** unless there are lopsided strings
in them. -/
theorem answerOf_values_comm {left right : Value} (h : Even options.gap mode type left right) :
    answerOf (values options mode type right left)
      = answerOf (values options mode type left right) := by
  rw [answerOf_values, answerOf_values, Bool.eq_iff_iff]
  simp only [List.any_eq_true]
  constructor
  · rintro ⟨a, ha, b, hb, hequal⟩
    refine ⟨b, hb, a, ha, ?_⟩
    rwa [← answerOf_scalars_comm fun s t hs ht => h s t (hs ▸ ha) (ht ▸ hb)]
  · rintro ⟨b, hb, a, ha, hequal⟩
    refine ⟨a, ha, b, hb, ?_⟩
    rwa [answerOf_scalars_comm fun s t hs ht => h s t (hs ▸ ha) (ht ▸ hb)]

end Values

end Equality

/-! ## Queries -/

namespace Scope

variable {Card Context : Type} [PatternCompiler] (s : Scope Card Context)

/-- What two operands give to an equality is not lopsided. -/
def EvenOperands (mode : EqualityMode) (type : Option FieldType) : Operand → Operand → Prop
  | .value v, .value w => Equality.Even s.options.gap mode type v w
  | _, _ => True

theorem answerOf_operandsEqual_comm {mode : EqualityMode} {type : Option FieldType} {l r : Operand}
    (h : s.EvenOperands mode type l r) :
    answerOf (s.operandsEqual mode type l r) = answerOf (s.operandsEqual mode type r l) := by
  cases l with
  | value v =>
    cases r with
    | value w => exact Equality.answerOf_values_comm h
    | pattern p => rfl
  | pattern p => cases r <;> rfl

omit [PatternCompiler] in
/-- Operands have the same common type from both sides. -/
theorem commonType_comm (left right : Expr) (type : Option FieldType) :
    s.commonType left right = .ok type ↔ s.commonType right left = .ok type := by
  have hswap : ∀ {left right : Expr}, s.commonType left right = .ok type →
      s.commonType right left = .ok type := by
    intro left right h
    rw [commonType, EvalError.bind_eq_ok] at h
    obtain ⟨l, hl, h⟩ := h
    rw [EvalError.bind_eq_ok] at h
    obtain ⟨r, hr, h⟩ := h
    rw [commonType, hl, hr]
    cases l with
    | none => cases r <;> exact h
    | some l =>
      cases r with
      | none => exact h
      | some r =>
        by_cases heq : l = r
        · subst heq
          exact h
        · change (if l = r then pure (some l)
            else Except.error (EvalError.typeMismatch l r)) = _ at h
          rw [if_neg heq] at h
          cases h
  exact ⟨hswap, hswap⟩

/-- **A comparison succeeds from both sides** with the same answer. -/
theorem answer_compares_comm {card : Card} {mode : EqualityMode} {type : Option FieldType}
    {left right : Expr}
    (h : ∀ l r, (s.operand card left).answer = .ok l → (s.operand card right).answer = .ok r →
      s.EvenOperands mode type l r) (negated b : Bool) :
    (s.compares card mode negated type left right).answer = .ok b ↔
      (s.compares card mode negated type right left).answer = .ok b := by
  rw [answer_compares, answer_compares]
  simp only [EvalError.bind_eq_ok]
  constructor
  · rintro ⟨l, hl, r, hr, hanswer⟩
    exact ⟨r, hr, l, hl, by rwa [← s.answerOf_operandsEqual_comm (h l r hl hr)]⟩
  · rintro ⟨r, hr, l, hl, hanswer⟩
    exact ⟨l, hl, r, hr, by rwa [s.answerOf_operandsEqual_comm (h l r hl hr)]⟩

theorem answer_holds_equality_comm {card : Card} {mode : EqualityMode} {left right : Expr}
    (h : ∀ type, s.commonType left right = .ok type →
      ∀ l r, (s.operand card left).answer = .ok l → (s.operand card right).answer = .ok r →
        s.EvenOperands mode type l r) (negated b : Bool) (span span' : Span) :
    (s.holds card (.binary (.equality mode negated) left right span)).answer = .ok b ↔
      (s.holds card (.binary (.equality mode negated) right left span')).answer = .ok b := by
  rw [answer_holds_binary, answer_holds_binary]
  simp only [EvalError.bind_eq_ok]
  refine exists_congr fun type => ?_
  rw [← s.commonType_comm left right type]
  exact and_congr_right fun htype => s.answer_compares_comm (h type htype) negated b

end Scope

/-! ## Matchers -/

namespace Matcher

open Equality

/-- Lopsided strings are equal from one side only. -/
theorem Of.equalValues_ne_of_lopsided [PatternCompiler] {Card Context : Type}
    {s : Scope Card Context} {m n : Matcher Card Context} (hm : Of s m) (hn : Of s n)
    {mode : EqualityMode} {type : Option FieldType} {a b : String}
    (h : Lopsided s.options.gap mode type a b) :
    (m.equalValues mode type (.string a) (.string b)).1
      ≠ (n.equalValues mode type (.string b) (.string a)).1 := by
  rw [hm.equalValues_leaves mode type rfl rfl, hn.equalValues_leaves mode type rfl rfl,
    answerOf_scalars_string h.left h.right,
    answerOf_scalars_string h.right h.left,
    normalizedEqual_of_tied h.left h.right h.tied,
    normalizedEqual_of_tied h.right h.left h.tied.symm]
  exact h.differs

/-- **Equality is symmetric but for lopsided strings.** Whatever was asked
before, two values are equal from both sides if no string in the one and
string in the other are lopsided, and an equality of two operands in a query
succeeds with the same answer from both sides if the values of the operands
are so. A pair of lopsided strings is equal from one side only. It is equally
long, and then either diacritics count for the length or there are blanks
inside. -/
theorem equalValues_comm [PatternCompiler] {Card Context : Type} {s : Scope Card Context}
    {m n : Matcher Card Context} (hm : Of s m) (hn : Of s n) (mode : EqualityMode) :
    (∀ type left right, Even s.options.gap mode type left right →
      (m.equalValues mode type left right).1 = (n.equalValues mode type right left).1) ∧
    (∀ type a b, Lopsided s.options.gap mode type a b →
      (m.equalValues mode type (.string a) (.string b)).1
        ≠ (n.equalValues mode type (.string b) (.string a)).1 ∧
      (normalize a).length = (normalize b).length ∧
      ((mode = .strict ∧ type = some .text ∧
        (Text.stripMarks (normalize a)).length ≠ (Text.stripMarks (normalize b)).length) ∨
      (mode = .loose ∧
        ((Needle.prepare (normalize a)).length ≠ (Needle.prepare (normalize b)).length ∨
          ∃ c ∈ Needle.prepare (normalize a) ++ Needle.prepare (normalize b),
            Text.isBlank c = true)))) ∧
    ∀ card negated left right span span',
      (∀ type v w, s.commonType left right = .ok type →
        (s.operand card left).answer = .ok (.value v) →
        (s.operand card right).answer = .ok (.value w) → Even s.options.gap mode type v w) →
      ∀ b, (m.matchCard (.binary (.equality mode negated) left right span) card).1 = .ok b ↔
        (n.matchCard (.binary (.equality mode negated) right left span') card).1 = .ok b := by
  refine ⟨fun type left right heven => ?_, fun type a b h =>
    ⟨hm.equalValues_ne_of_lopsided hn h, h.tied, h.shape⟩,
    fun card negated left right span span' heven b => ?_⟩
  · rw [hm.equalValues_eq, hn.equalValues_eq, ← answerOf_values, ← answerOf_values,
      answerOf_values_comm heven]
  · rw [hm.matchCard_eq, hn.matchCard_eq]
    refine s.answer_holds_equality_comm (fun type htype l r hl hr => ?_) negated b span span'
    cases l with
    | pattern p => trivial
    | value v =>
      cases r with
      | pattern p => trivial
      | value w => exact heven type v w htype hl hr

/-- With a blank in one of them, two equally long texts may be lopsided: `a b`
is found in `axb`, and `axb` is not found in `a b`. -/
theorem lopsided_blank : Lopsided 20 .loose none "a b" "axb" where
  left := by decide +kernel
  right := by decide +kernel
  tied := by decide +kernel
  differs := by decide +kernel

theorem equalValues_comm_pair :
    let m : Matcher Unit Unit := fresh ⟨.empty, (), .standard⟩
    (m.equalValues .loose none (.array [.string "ab", .null]) (.string "abc")).1
        = (m.equalValues .loose none (.string "abc") (.array [.string "ab", .null])).1 ∧
      (m.equalValues .loose none (.string "a b") (.string "axb")).1
        ≠ (m.equalValues .loose none (.string "axb") (.string "a b")).1 := by
  intro m
  obtain ⟨hvalues, hlopsided, -⟩ := equalValues_comm (.fresh m.scope) (.fresh m.scope) .loose
  refine ⟨hvalues none _ _ ?_, (hlopsided none _ _ lopsided_blank).1⟩
  -- of the two strings one is shorter
  intro s t hs ht hlop
  obtain rfl : s = "ab" := by simpa [Value.leaves, Value.leavesOf] using hs
  obtain rfl : t = "abc" := by simpa [Value.leaves] using ht
  exact absurd hlop.tied (by decide +kernel)

/-- Equality as such is not symmetric. -/
theorem equalValues_not_comm :
    let m : Matcher Unit Unit := fresh ⟨.empty, (), .standard⟩
    (m.equalValues .loose none (.string "a b") (.string "axb")).1 = true ∧
      (m.equalValues .loose none (.string "axb") (.string "a b")).1 = false := by
  decide +kernel

end Matcher

end CardQuery
